import ProxyMesh.Json.Basic

/-!
# What the fleet is made of

* `Node`, `Program`, `Site`              where a runtime runs, and what it is;
* `Rule`, `Tunnel`, `Scope`              what traffic is carried for;
* `Binding`, `Connector`, `Allocation`   a hop of a rule or tunnel, and its share of a balancer;
* `InboundType`, `FixedInbound`          endpoints;
* `Profile`, `Plan`, `Period`            subscriptions, with the `Counter` of a period and the
                                         `Claim` on it;
* `InternalUser`                         the identity by which a node reaches a rule's outbounds;
* `Snapshot`                             all of it in one document.

Records are named by 64-bit words.  Times are seconds since 1970, amounts are bytes.
-/

namespace ProxyMesh

/-- the name of a record -/
abbrev Id := UInt64

/-! ## nodes and programs -/

structure Node where
  id : Id
  name : String
  architecture : String
  address : Option String
  runtimeEnabled : Bool
  /-- named contents that templates may refer to -/
  files : TextMap String
deriving DecidableEq

/-- a build for one architecture -/
structure Binary where
  architecture : String
  source : String
  hash : String
deriving DecidableEq, Repr

/-- a copy that a node already has -/
structure Installed where
  nodeId : Id
  path : String
deriving DecidableEq, Repr

structure Program where
  name : String
  binaries : List Binary
  installed : List Installed
deriving DecidableEq, Repr

/-- where a node finds a program -/
inductive ProgramLocation where
  | binary (binary : Binary)
  | installed (path : String)
deriving DecidableEq, Repr

/-- an installed copy wins over a build; a build must be for the node's architecture -/
def Program.locate (p : Program) (node : Node) : Option ProgramLocation :=
  match p.installed.find? (·.nodeId == node.id) with
  | some copy => some (.installed copy.path)
  | none => (p.binaries.find? (·.architecture == node.architecture)).map .binary

structure Site where
  runtimeProgram : Option String
  geositeProgram : Option String
  geoipProgram : Option String
  /-- the document that the compiled sections are merged into -/
  baseTemplate : Option String
  /-- seed of the reverse credentials of rule bindings -/
  reverseSeed : String
  userDomain : String
  /-- contents for names that a node does not define -/
  files : TextMap String
deriving DecidableEq

def Site.default : Site := ⟨none, none, none, none, "", "relaygrid.local", .empty⟩

/-! ## rules, tunnels and their hops -/

structure Rule where
  id : Id
  name : String
  originRegion : String
  destinationRegion : String
  rulesTemplate : String
deriving DecidableEq, Repr

/-- what a binding or balancer belongs to -/
inductive Scope where
  | rule (id : Id)
  | tunnel (id : Id)
deriving DecidableEq, Repr

/-- twenty digits, zeros in front -/
def Id.padded (id : Id) : String :=
  let digits := toString id
  String.ofList (List.replicate (20 - digits.length) '0') ++ digits

namespace Scope

def id : Scope → Id
  | .rule id => id
  | .tunnel id => id

/-- the word for the kind of scope -/
def kind : Scope → String
  | .rule _ => "rule"
  | .tunnel _ => "tunnel"

/-- the text that stands for a scope where texts are hashed -/
def keyText (s : Scope) : String := s.kind ++ ":" ++ s.id.padded

/-- rules come before tunnels -/
def rank : Scope → UInt64 × UInt64
  | .rule id => (0, id)
  | .tunnel id => (1, id)

theorem eq_of_rank_eq {s t : Scope} (h : s.rank = t.rank) : s = t := by
  cases s <;> cases t <;> simp_all [rank]

instance : Key Scope where
  before s t := before s.rank t.rank
  irrefl s := Key.irrefl s.rank
  trans _ _ _ h₁ h₂ := Key.trans _ _ _ h₁ h₂
  connex _ _ h₁ h₂ := eq_of_rank_eq (Key.connex _ _ h₁ h₂)

end Scope

structure Balancer where
  scope : Scope
  name : String
  /-- replaces the usual strategy -/
  strategyTemplate : Option String
  baselinesMs : List Nat
  maxRttMs : Option Nat
deriving DecidableEq, Repr

/-- the remote endpoint that an outbound connects to -/
structure Endpoint where
  address : String
  port : Nat
  sni : Option String
  hostHeader : Option String
deriving DecidableEq, Repr

structure Connector where
  outboundTemplate : String
  inboundType : Option String
  destNodeId : Option Id
  endpoint : Option Endpoint
deriving DecidableEq, Repr

/-- the weight of a binding in one balancer -/
structure Allocation where
  balancer : String
  weight : Nat
deriving DecidableEq, Repr

/-- a hop; with a portal it is a reverse link, bridged by `nodeId` -/
structure Binding where
  id : Id
  name : String
  scope : Scope
  nodeId : Id
  portalNodeId : Option Id
  connector : Connector
  allocations : List Allocation
deriving DecidableEq, Repr

namespace Binding

def isReverse (b : Binding) : Bool := b.portalNodeId.isSome

/-- the node is one of the ends of the hop that this program compiles -/
def involves (b : Binding) (node : Id) : Bool := b.nodeId == node || b.portalNodeId == some node

/-- the allocations that carry traffic -/
def shares (b : Binding) : List Allocation := b.allocations.filter (0 < ·.weight)

end Binding

structure Tunnel where
  id : Id
  sourceNodeId : Id
  destNodeId : Id
  listenPort : Nat
  targetAddress : String
  targetPort : Nat
  balancer : String
  seed : String
deriving DecidableEq, Repr

/-! ## endpoints -/

structure InboundType where
  name : String
  isActive : Bool
  /-- appended as it is, without consumers -/
  isTemplate : Bool
  inboundTemplate : String
  consumerTemplate : String
deriving DecidableEq, Repr

/-- an endpoint of one node, or of every node -/
structure FixedInbound where
  id : Id
  nodeId : Option Id
  template : String
deriving DecidableEq, Repr

/-! ## subscriptions -/

structure Profile where
  id : Id
  isActive : Bool
  proxyUuid : String
deriving DecidableEq, Repr

structure Plan where
  id : Id
  ruleId : Id
  providerKey : String
  providerArgs : Json
deriving DecidableEq

/-- bytes in the two directions -/
structure Traffic where
  download : Nat
  upload : Nat
deriving DecidableEq, Repr, Inhabited

def Traffic.none : Traffic := ⟨0, 0⟩

/-- `flow` is what the series reports since `flowPointAt`, `current` the total that is billed -/
structure Counter where
  flowPointAt : Option Nat
  flow : Traffic
  current : Traffic
  lastFlowSyncAt : Option Nat
deriving DecidableEq, Repr

def Counter.initial : Counter := ⟨none, .none, .none, none⟩

inductive ClaimOp where
  | sync
  | forwardFlowPoint
deriving DecidableEq, Repr

/-- an exclusive lease on a period's counter -/
structure Claim where
  op : ClaimOp
  expiresAt : Nat
deriving DecidableEq, Repr

/-- the times of the first and the last traffic -/
structure Window where
  first : Option Nat
  last : Option Nat
deriving DecidableEq, Repr

def Window.none : Window := ⟨.none, .none⟩

/-- the window widened to include `time` -/
def Window.touch (w : Window) (time : Nat) : Window :=
  ⟨some (w.first.elim time (min · time)), some (w.last.elim time (max · time))⟩

structure Period where
  id : Id
  profileId : Id
  planId : Id
  planArgs : Json
  isCurrent : Bool
  usage : Window
  counter : Counter
  claim : Option Claim
deriving DecidableEq

/-- a live claim is held at `now` -/
def Period.isClaimed (p : Period) (now : Nat) : Bool := p.claim.any (now < ·.expiresAt)

structure InternalUser where
  ruleId : Id
  nodeId : Id
  isActive : Bool
  proxyUuid : String
  usage : Window
deriving DecidableEq, Repr

def Period.touch (p : Period) (time : Nat) : Period := { p with usage := p.usage.touch time }

def InternalUser.touch (u : InternalUser) (time : Nat) : InternalUser :=
  { u with usage := u.usage.touch time }

instance : Keyed Node Id := ⟨Node.id⟩
instance : Keyed Program String := ⟨Program.name⟩
instance : Keyed Rule Id := ⟨Rule.id⟩
instance : Keyed Balancer (Scope × String) := ⟨fun b => (b.scope, b.name)⟩
instance : Keyed Binding Id := ⟨Binding.id⟩
instance : Keyed Tunnel Id := ⟨Tunnel.id⟩
instance : Keyed InboundType String := ⟨InboundType.name⟩
instance : Keyed FixedInbound Id := ⟨FixedInbound.id⟩
instance : Keyed Profile Id := ⟨Profile.id⟩
instance : Keyed Plan Id := ⟨Plan.id⟩
instance : Keyed Period Id := ⟨Period.id⟩
instance : Keyed InternalUser (Id × Id) := ⟨fun u => (u.ruleId, u.nodeId)⟩

/-- everything in one document -/
structure Snapshot where
  site : Option Site
  nodes : List Node
  programs : List Program
  rules : List Rule
  balancers : List Balancer
  bindings : List Binding
  tunnels : List Tunnel
  inboundTypes : List InboundType
  fixedInbounds : List FixedInbound
  profiles : List Profile
  plans : List Plan
  periods : List Period
  internalUsers : List InternalUser
deriving DecidableEq

end ProxyMesh
