import ProxyMesh.Compile.Draft
import ProxyMesh.User.Consumers

/-!
# Rules and tunnels of a node

* `addBinding`   the parts of a binding that live on the node: an outbound, or an end of a reverse link
                 for each allocation that carries traffic;
* `addRule`      the consumers, bindings and routing rules of a rule that the node takes part in;
* `addTunnel`    the ends and bindings of a tunnel.
-/

namespace ProxyMesh

instance : Keyed String String := ⟨id⟩

/-- the tags that the bindings of a rule or tunnel have used -/
structure UsedTags where
  outbounds : List String
  balancers : Table String

def UsedTags.none : UsedTags := ⟨[], .empty⟩

def UsedTags.add (u : UsedTags) (balancer : String) : UsedTags :=
  { u with balancers := u.balancers.put balancer }

/-- who a binding's outbounds are for: the seed of reverse credentials and the user of direct ones -/
structure Principal where
  seed : String
  user : User

/-- the part of the portal: a consumer that is routed to the bridge -/
def addPortalEnd (c : Context) (p : Principal) (b : Binding) (a : Allocation)
    (state : Draft × UsedTags) : Draft × UsedTags :=
  let (d, used) := state
  let user := reverseUser p.seed b a.balancer
  let tag := (TagRef.reverse b.scope .portal b.id b.nodeId a.balancer).encode
  let domain := reverseDomain b.scope b.id a.balancer c.site.userDomain
  let d := d.addPortal ⟨tag, domain, c.email user⟩
  let d := (d.addConsumer c user).addMember b.scope a.balancer tag a.weight
  (d, { used.add (balancerTag b.scope a.balancer) with outbounds := used.outbounds ++ [tag] })

/-- the part of the bridge: an outbound to the portal, and where traffic from there goes -/
def addBridgeEnd (c : Context) (p : Principal) (b : Binding) (portal : Id) (a : Allocation)
    (state : Draft × UsedTags) : Draft × UsedTags :=
  let (d, used) := state
  let user := reverseUser p.seed b a.balancer
  let tag := (TagRef.reverse b.scope .bridge b.id portal a.balancer).encode
  let outbound := interconnectTag tag
  match d.addOutbound c b outbound user with
  | (true, d) =>
    let domain := reverseDomain b.scope b.id a.balancer c.site.userDomain
    (d.addBridge ⟨tag, domain, outbound, balancerTag b.scope a.balancer⟩, used)
  | (false, d) => (d, used)

/-- both ends of one allocation of a reverse link, as far as they are on the node -/
def addReverse (c : Context) (p : Principal) (b : Binding) (portal : Id)
    (state : Draft × UsedTags) (a : Allocation) : Draft × UsedTags :=
  let state := if c.node.id = portal then addPortalEnd c p b a state else state
  if c.node.id = b.nodeId then addBridgeEnd c p b portal a state else state

/-- a direct outbound and its memberships -/
def addDirect (c : Context) (p : Principal) (b : Binding) (state : Draft × UsedTags) :
    Draft × UsedTags :=
  let (d, used) := state
  let tag := (TagRef.outbound b.scope b.id).encode
  match d.addOutbound c b tag p.user with
  | (true, d) =>
    let d := b.shares.foldl (fun d a => d.addMember b.scope a.balancer tag a.weight) d
    let used := { used with outbounds := used.outbounds ++ [tag] }
    (d, b.shares.foldl (fun used a => used.add (balancerTag b.scope a.balancer)) used)
  | (false, d) => (d, used)

/-- the parts of a binding that live on the node; none without an allocation that carries traffic -/
def addBinding (c : Context) (p : Principal) (state : Draft × UsedTags) (b : Binding) :
    Draft × UsedTags :=
  if b.shares.isEmpty then state
  else match b.portalNodeId with
    | some portal => b.shares.foldl (addReverse c p b portal) state
    | none => if b.nodeId = c.node.id then addDirect c p b state else state

def ruleJson (r : Rule) : Json := .ofFields [
  ("id", .ofWord r.id), ("name", .str r.name), ("origin_region", .str r.originRegion),
  ("destination_region", .str r.destinationRegion)]

/-- the order of texts -/
def inTextOrder (a b : String) : Bool := !before b a

/-- the rule's own routing rules -/
def addTemplateRules (c : Context) (r : Rule) (consumers : List User) (d : Draft) (used : UsedTags) :
    Draft :=
  let vars := c.varsWith [
    ("rule", ruleJson r),
    ("consumer_emails", .ofTexts ((consumers.map c.email).mergeSort inTextOrder)),
    ("outbound_tags", .ofTexts used.outbounds),
    ("balancer_tags", .ofTexts used.balancers.records)]
  match d.fragment c .rules ("rule " ++ toString r.id) r.rulesTemplate vars with
  | (some rules, d) => { d with templateRules := d.templateRules ++ rules }
  | (none, d) => d

/-- the bindings of a scope with an end on the node -/
def Store.bindingsAt (s : Store) (scope : Scope) (node : Id) : List Binding :=
  s.bindings.records.filter fun b => b.scope == scope && b.involves node

/-- a rule that the node takes part in.  One without a live consumer is left out; otherwise the node
gets its own user for the rule, if it has none yet. -/
def addRule (c : Context) (state : Draft × Store) (r : Rule) : Draft × Store :=
  let (d, s) := state
  let bindings := s.bindingsAt (.rule r.id) c.node.id
  if bindings.isEmpty then (d, s)
  else
    let consumers := s.ruleConsumers r.id c.node.id c.now
    if consumers.isEmpty then ({ d with skippedRules := d.skippedRules ++ [r.id] }, s)
    else
      let d := d.addConsumers c consumers
      let (own, s) := s.internalUserFor r.id c.node.id
      let principal : Principal := ⟨c.site.reverseSeed, .ofInternal own⟩
      let (d, used) := bindings.foldl (addBinding c principal) (d, .none)
      (addTemplateRules c r consumers d used, s)

/-- the ends of a tunnel on the node and its bindings there -/
def addTunnel (c : Context) (s : Store) (d : Draft) (t : Tunnel) : Draft :=
  let user := tunnelUser t
  let d := if c.node.id = t.sourceNodeId then d.addForward t else d
  let d := if c.node.id = t.destNodeId then d.addConsumer c user else d
  ((s.bindingsAt (.tunnel t.id) c.node.id).foldl (addBinding c ⟨t.seed, user⟩) (d, .none)).1

end ProxyMesh
