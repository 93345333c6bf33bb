import ProxyMesh.Topology.Records

/-!
# The store

One table for each kind of record, and the settings of the site.

* `Store.setCurrent`                                  the one current period of a profile;
* `Store.claimPeriods`, `commitCounter`, `releaseClaim`   leases on the counters of periods;
* `Store.touchPeriod`, `touchInternalUser`            times of traffic;
* `Store.ensureInternalUser`                          an internal user, made once and then kept;
* `Store.importSnapshot`, `exportSnapshot`            all records in one document.
-/

namespace ProxyMesh

structure Store where
  site : Option Site
  nodes : Table Node
  programs : Table Program
  rules : Table Rule
  balancers : Table Balancer
  bindings : Table Binding
  tunnels : Table Tunnel
  inboundTypes : Table InboundType
  fixedInbounds : Table FixedInbound
  profiles : Table Profile
  plans : Table Plan
  periods : Table Period
  internalUsers : Table InternalUser
deriving DecidableEq

namespace Store

def empty : Store where
  site := none
  nodes := .empty
  programs := .empty
  rules := .empty
  balancers := .empty
  bindings := .empty
  tunnels := .empty
  inboundTypes := .empty
  fixedInbounds := .empty
  profiles := .empty
  plans := .empty
  periods := .empty
  internalUsers := .empty

/-- the settings of the site, the usual ones while none are stored -/
def siteSettings (s : Store) : Site := s.site.getD .default

/-- the balancers of one rule or tunnel -/
def balancersFor (s : Store) (scope : Scope) : List Balancer :=
  s.balancers.records.filter (·.scope == scope)

/-! ## periods -/

/-- `p` is the current period of its profile exactly if it is the chosen one -/
def switchTo (chosen p : Period) : Period :=
  if p.profileId = chosen.profileId then { p with isCurrent := p.id == chosen.id } else p

theorem key_switchTo (chosen p : Period) : key (switchTo chosen p) = key p := by
  unfold switchTo; split <;> rfl

/-- the period becomes the only current one of its profile; `none` if there is no such period -/
def setCurrent (s : Store) (id : Id) : Option Store :=
  (s.periods.get? id).map fun chosen =>
    { s with periods := s.periods.map (switchTo chosen) (key_switchTo chosen) }

/-- what a claim asks for -/
structure ClaimRequest where
  op : ClaimOp
  now : Nat
  lease : Nat
  limit : Nat
  due : Period → Bool
  order : Period → Option Nat

/-- a lease that ends beyond 64 bits wraps around -/
def ClaimRequest.claim (r : ClaimRequest) : Claim := ⟨r.op, wrapWord (r.now + r.lease)⟩

/-- no order value comes before every other -/
def orderBefore : Option Nat → Option Nat → Bool
  | none, some _ => true
  | some a, some b => a < b
  | _, none => false

/-- `p` is claimed no later than `q` -/
def claimedFirst (order : Period → Option Nat) (p q : Period) : Bool :=
  orderBefore (order p) (order q) || (!orderBefore (order q) (order p) && !before q.id p.id)

/-- the free periods that are due, in order, as many as are asked for -/
def claimable (s : Store) (r : ClaimRequest) : List Period :=
  ((s.periods.records.filter fun p => !p.isClaimed r.now && r.due p).mergeSort
    (claimedFirst r.order)).take r.limit

/-- the claimed periods, each with its claim -/
def claimPeriods (s : Store) (r : ClaimRequest) : List Period × Store :=
  let claimed := (s.claimable r).map fun p => { p with claim := some r.claim }
  (claimed, { s with periods := s.periods.putAll claimed })

/-- a period changed and its claim dropped, if it holds exactly this claim -/
def updateClaimed (s : Store) (id : Id) (claim : Claim) (change : Period → Period) : Bool × Store :=
  match s.periods.get? id with
  | some p =>
    if p.claim = some claim then
      (true, { s with periods := s.periods.put { change p with claim := none } })
    else (false, s)
  | none => (false, s)

def commitCounter (s : Store) (id : Id) (claim : Claim) (counter : Counter) : Bool × Store :=
  s.updateClaimed id claim fun p => { p with counter }

def releaseClaim (s : Store) (id : Id) (claim : Claim) : Bool × Store :=
  s.updateClaimed id claim fun p => p

/-- the usage window of a period widened; `false` if there is no such period -/
def touchPeriod (s : Store) (id : Id) (time : Nat) : Bool × Store :=
  match s.periods.get? id with
  | some p => (true, { s with periods := s.periods.put (p.touch time) })
  | none => (false, s)

/-! ## internal users -/

def putInternalUser (s : Store) (u : InternalUser) : Store :=
  { s with internalUsers := s.internalUsers.put u }

/-- the internal user of a node for a rule, made with `secret` when there is none yet -/
def ensureInternalUser (s : Store) (rule node : Id) (secret : String) : InternalUser × Store :=
  match s.internalUsers.get? (rule, node) with
  | some u => (u, s)
  | none =>
    let u : InternalUser := ⟨rule, node, true, secret, .none⟩
    (u, s.putInternalUser u)

/-- the usage window of an internal user widened: the record is read first, and then put back with
its window widened; `false` if there is no such user -/
def touchInternalUser (s : Store) (rule node : Id) (time : Nat) : Bool × Store :=
  match s.internalUsers.get? (rule, node) with
  | some u => (true, s.putInternalUser (u.touch time))
  | none => (false, s)

/-! ## documents -/

/-- every record of the snapshot takes the place of one with the same key -/
def importSnapshot (s : Store) (d : Snapshot) : Store where
  site := match d.site with
    | some site => some site
    | none => s.site
  nodes := s.nodes.putAll d.nodes
  programs := s.programs.putAll d.programs
  rules := s.rules.putAll d.rules
  balancers := s.balancers.putAll d.balancers
  bindings := s.bindings.putAll d.bindings
  tunnels := s.tunnels.putAll d.tunnels
  inboundTypes := s.inboundTypes.putAll d.inboundTypes
  fixedInbounds := s.fixedInbounds.putAll d.fixedInbounds
  profiles := s.profiles.putAll d.profiles
  plans := s.plans.putAll d.plans
  periods := s.periods.putAll d.periods
  internalUsers := s.internalUsers.putAll d.internalUsers

def exportSnapshot (s : Store) : Snapshot where
  site := s.site
  nodes := s.nodes.records
  programs := s.programs.records
  rules := s.rules.records
  balancers := s.balancers.records
  bindings := s.bindings.records
  tunnels := s.tunnels.records
  inboundTypes := s.inboundTypes.records
  fixedInbounds := s.fixedInbounds.records
  profiles := s.profiles.records
  plans := s.plans.records
  periods := s.periods.records
  internalUsers := s.internalUsers.records

end Store

end ProxyMesh
