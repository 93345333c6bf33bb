import ProxyMesh.Compile.Context
import ProxyMesh.Balancing.Plan
import ProxyMesh.Tag.Basic

/-!
# A document while it is being compiled

* `Draft`               everything that rules, tunnels and bindings have put in so far;
* `Draft.fragment`      a fragment's objects, or a report that it is left out;
* `Draft.addConsumer`, `addMember`, `addOutbound`, `addPortal`, `addBridge`, `addForward`.
-/

namespace ProxyMesh

structure SkippedFragment where
  kind : FragmentKind
  owner : String
  reason : SkipReason
deriving DecidableEq

/-- the members of a balancer -/
structure Group where
  scope : Scope
  name : String
  candidates : List Balancing.Candidate
deriving DecidableEq

/-- this node as the bridge of a reverse link -/
structure BridgeLink where
  tag : String
  domain : String
  /-- the outbound to the portal -/
  outbound : String
  /-- where traffic from the portal goes -/
  balancer : String
deriving DecidableEq, Repr

/-- this node as the portal of a reverse link, reached by one user -/
structure PortalLink where
  tag : String
  domain : String
  email : String
deriving DecidableEq, Repr

structure Draft where
  outbounds : List Json
  portals : List PortalLink
  bridges : List BridgeLink
  /-- the tunnels that start at this node -/
  forwards : List Tunnel
  templateRules : List Json
  members : TextMap Group
  /-- the users of the inbounds by e-mail -/
  consumers : TextMap User
  dependents : TextMap FileSpec
  skippedFragments : List SkippedFragment
  /-- rules without a live consumer -/
  skippedRules : List Id

namespace Draft

def empty : Draft where
  outbounds := []
  portals := []
  bridges := []
  forwards := []
  templateRules := []
  members := .empty
  consumers := .empty
  dependents := .empty
  skippedFragments := []
  skippedRules := []

def addConsumer (d : Draft) (c : Context) (u : User) : Draft :=
  { d with consumers := d.consumers.put (c.email u, u) }

def addConsumers (d : Draft) (c : Context) (users : List User) : Draft :=
  users.foldl (·.addConsumer c ·) d

/-- the objects of a fragment; a fragment that is left out is reported -/
def fragment (d : Draft) (c : Context) (kind : FragmentKind) (owner template : String)
    (vars : Json) : Option (List Json) × Draft :=
  let (result, files) := c.fragment template vars
  let d := { d with dependents := d.dependents.putAll files }
  match result with
  | .ok objects => (some objects, d)
  | .error reason =>
    (none, { d with skippedFragments := d.skippedFragments ++ [⟨kind, owner, reason⟩] })

/-- one more member of a balancer of the scope -/
def addMember (d : Draft) (scope : Scope) (balancer tag : String) (weight : Nat) : Draft :=
  let lb := balancerTag scope balancer
  let group := ((d.members.get? lb).map (·.2)).getD ⟨scope, balancer, []⟩
  { d with members := d.members.put (lb, { group with candidates := group.candidates ++ [⟨tag, weight⟩] }) }

/-- an object with this tag, unless it has one -/
def withTag (tag : String) : Json → Json
  | .obj fields =>
    if (fields.lookup "tag").isSome then .obj fields else .obj (place ("tag", .str tag) fields)
  | v => v

/-- the first object gets the tag -/
def tagFirst (tag : String) : List Json → List Json
  | [] => []
  | first :: rest => withTag tag first :: rest

/-- the outbound of a binding; `false` if its fragment is left out or has no object -/
def addOutbound (d : Draft) (c : Context) (b : Binding) (tag : String) (user : User) :
    Bool × Draft :=
  let vars := c.varsWith [
    ("tag", .str tag), ("user", c.userJson user),
    ("combo", .ofOption (fun e => Json.ofFields [
      ("address", .str e.address), ("port", .ofNat e.port), ("sni", .ofText e.sni),
      ("host_header", .ofText e.hostHeader)]) b.connector.endpoint)]
  match d.fragment c .outbound ("binding " ++ toString b.id) b.connector.outboundTemplate vars with
  | (some (first :: rest), d) =>
    (true, { d with outbounds := d.outbounds ++ tagFirst tag (first :: rest) })
  | (_, d) => (false, d)

def addPortal (d : Draft) (link : PortalLink) : Draft := { d with portals := d.portals ++ [link] }
def addBridge (d : Draft) (link : BridgeLink) : Draft := { d with bridges := d.bridges ++ [link] }
def addForward (d : Draft) (t : Tunnel) : Draft := { d with forwards := d.forwards ++ [t] }

end Draft

end ProxyMesh
