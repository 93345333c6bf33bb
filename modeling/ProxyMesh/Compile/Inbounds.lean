import ProxyMesh.Compile.Balancers

/-!
# The inbounds of a document

* `renderInbounds`   the inbounds of all types, each with every consumer, then the fixed ones of the node.
-/

namespace ProxyMesh

/-- the objects of one inbound type for every consumer, as texts -/
def consumerParts (c : Context) (t : InboundType) (owner : String) (consumers : List User) (d : Draft) :
    List String × Draft :=
  consumers.foldl (fun (parts, d) user =>
    let vars := Json.ofFields [("env", Context.environment), ("user", c.userJson user)]
    match d.fragment c .consumer owner t.consumerTemplate vars with
    | (some objects, d) => (parts ++ objects.map Json.compact, d)
    | (none, d) => (parts, d)) ([], d)

/-- one more inbound type; one that is neither active nor a template is left out -/
def addInboundType (c : Context) (consumers : List User) (state : List Json × Draft)
    (t : InboundType) : List Json × Draft :=
  let (done, d) := state
  if !t.isTemplate && !t.isActive then (done, d)
  else
    let owner := "inbound " ++ t.name
    let (parts, d) := if t.isTemplate then ([], d) else consumerParts c t owner consumers d
    let vars := c.varsWith [
      ("inbound_tag", .str t.name), ("consumers_part", .str (joinCommas parts))]
    match d.fragment c .inbound owner t.inboundTemplate vars with
    | (some objects, d) => (done ++ objects, d)
    | (none, d) => (done, d)

/-- one more fixed inbound, if it is for this node or for every node -/
def addFixedInbound (c : Context) (state : List Json × Draft) (i : FixedInbound) :
    List Json × Draft :=
  let (done, d) := state
  if i.nodeId.all (· == c.node.id) then
    match d.fragment c .fixedInbound ("static inbound " ++ toString i.id) i.template (c.varsWith []) with
    | (some objects, d) => (done ++ objects, d)
    | (none, d) => (done, d)
  else (done, d)

/-- the forwarding inbound of a tunnel -/
def forwardInbound (t : Tunnel) : Json := .ofFields [
  ("tag", .str (tunnelInboundTag t.id)), ("listen", .str "0.0.0.0"), ("port", .ofNat t.listenPort),
  ("protocol", .str "dokodemo-door"),
  ("settings", .ofFields [
    ("address", .str t.targetAddress), ("port", .ofNat t.targetPort), ("network", .str "tcp,udp")])]

/-- all inbounds of the node -/
def renderInbounds (c : Context) (s : Store) (d : Draft) : List Json × Draft :=
  let consumers := d.consumers.records.map (·.2)
  let state := s.inboundTypes.records.foldl (addInboundType c consumers) ([], d)
  let (inbounds, d) := s.fixedInbounds.records.foldl (addFixedInbound c) state
  (inbounds ++ d.forwards.map forwardInbound, d)

end ProxyMesh
