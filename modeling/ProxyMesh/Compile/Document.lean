import ProxyMesh.Compile.Inbounds

/-!
# The runtime document

* `baseDocument`   the document of the site that the compiled parts are put into;
* `routingRules`   the compiled routing rules, in order;
* `assemble`       the whole document.
-/

namespace ProxyMesh

/-- the fields of a document in key order -/
abbrev Fields := List (String × Json)

/-- the items appended to the list in a field; anything but a list is replaced -/
def appendItems (name : String) (items : List Json) (fields : Fields) : Fields :=
  match fields.lookup name with
  | some (.arr existing) => place (name, .arr (existing ++ items)) fields
  | _ => place (name, .arr items) fields

/-- the first object of the site's base template -/
def baseDocument (c : Context) (d : Draft) : Fields × Draft :=
  match c.site.baseTemplate with
  | none => ([], d)
  | some template =>
    match d.fragment c .baseConfig "base config" template (c.varsWith []) with
    | (some (.obj fields :: _), d) => (fields, d)
    | (_, d) => ([], d)

def fieldRule (fields : Fields) : Json := .ofFields (("type", .str "field") :: fields)

def portalRule (p : PortalLink) : Json :=
  fieldRule [("user", .ofTexts [p.email]), ("outboundTag", .str p.tag)]

def bridgeDomainRule (b : BridgeLink) : Json :=
  fieldRule [("inboundTag", .ofTexts [b.tag]), ("domain", .ofTexts ["full:" ++ b.domain]),
    ("outboundTag", .str b.outbound)]

def bridgeCatchAllRule (b : BridgeLink) : Json :=
  fieldRule [("inboundTag", .ofTexts [b.tag]), ("balancerTag", .str b.balancer)]

def forwardBalancer (t : Tunnel) : String := balancerTag (.tunnel t.id) t.balancer

def forwardRule (t : Tunnel) : Json :=
  fieldRule [("inboundTag", .ofTexts [tunnelInboundTag t.id]), ("balancerTag", .str (forwardBalancer t))]

/-- the balancer has members on the node -/
def hasBalancer (balancers : List CompiledBalancer) (tag : String) : Bool :=
  balancers.any (·.tag == tag)

/-- the routing rules in order; one that leads to a balancer without members is left out -/
def routingRules (d : Draft) (balancers : List CompiledBalancer) : List Json :=
  d.portals.map portalRule ++ d.bridges.map bridgeDomainRule ++
    (d.bridges.filter fun b => hasBalancer balancers b.balancer).map bridgeCatchAllRule ++
    (d.forwards.filter fun t => hasBalancer balancers (forwardBalancer t)).map forwardRule ++
    d.templateRules

/-- how many rules are left out for their balancer -/
def droppedRules (d : Draft) (balancers : List CompiledBalancer) : Nat :=
  (d.bridges.filter fun b => !hasBalancer balancers b.balancer).length +
    (d.forwards.filter fun t => !hasBalancer balancers (forwardBalancer t)).length

def reverseEntry (tag domain : String) : Json := .ofFields [("tag", .str tag), ("domain", .str domain)]

/-- the routing of the base document with the compiled rules before its own; one that is no object is
replaced -/
def mergeRouting (rules : List Json) (balancers : List CompiledBalancer) (base : Option Json) :
    Json :=
  let fields := match base with
    | some (.obj fields) => fields
    | _ => []
  let baseRules := match fields.lookup "rules" with
    | some (.arr existing) => existing
    | _ => []
  .obj (appendItems "balancers" (balancers.map CompiledBalancer.toJson)
    (place ("rules", .arr (rules ++ baseRules)) fields))

/-- the reverse links of the base document with the compiled ones after its own; one that is no object
stays as it is -/
def mergeReverse (d : Draft) (base : Option Json) : Json :=
  let append (fields : Fields) : Json :=
    .obj (appendItems "portals" (d.portals.map fun p => reverseEntry p.tag p.domain)
      (appendItems "bridges" (d.bridges.map fun b => reverseEntry b.tag b.domain) fields))
  match base with
  | none => append []
  | some (.obj fields) => append fields
  | some other => other

/-- the fields of the whole document -/
def mergeDocument (base : Fields) (d : Draft) (balancers : List CompiledBalancer)
    (inbounds : List Json) : Fields :=
  let doc := appendItems "outbounds" d.outbounds (appendItems "inbounds" inbounds base)
  let doc := place ("routing", mergeRouting (routingRules d balancers) balancers (doc.lookup "routing"))
    doc
  if d.bridges.isEmpty && d.portals.isEmpty then doc
  else place ("reverse", mergeReverse d (doc.lookup "reverse")) doc

/-- how many outbounds the document has -/
def outboundCount (doc : Fields) : Nat :=
  match doc.lookup "outbounds" with
  | some (.arr items) => items.length
  | _ => 0

end ProxyMesh
