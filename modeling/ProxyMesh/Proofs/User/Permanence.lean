import ProxyMesh.Proofs.Accounting.Growth
import ProxyMesh.Proofs.Compile.Users
import ProxyMesh.Proofs.Traffic.Intake

/-!
# Internal users stay

Documents that run hold the secret of an internal user, so it must not change behind them.  Two of the
things that are done to a store write users again and again.  A compile makes the users that it needs,
but only those that are missing, whatever the seed has become.  A report of traffic puts the whole record
back, with nothing but its window changed.

* `InternalUser.Kept`      the same user, whose window has at most become wider;
* `Action`, `Store.act`    what is done to a store;
* `Action.Spares`          no administrator puts the user of a pair;
* `Store.Keeps`            the user of a pair is kept, if there is one;
* `keeps_act`              what one action keeps, by kinds of actions;
* `internalUser_stays`     **the user of a pair is kept by every run**, and it is the only one.
-/

namespace ProxyMesh

/-! ## one user -/

/-- the later window reaches at least as far to both sides -/
structure Window.Within (w w' : Window) : Prop where
  first : ∀ time, w.first = some time → ∃ time' ≤ time, w'.first = some time'
  last : ∀ time, w.last = some time → ∃ time' ≥ time, w'.last = some time'

/-- the same user, whose window has at most become wider -/
structure InternalUser.Kept (u v : InternalUser) : Prop where
  rest : v = { u with usage := v.usage }
  usage : u.usage.Within v.usage

section
variable {w w' w'' : Window} {u v x : InternalUser}

theorem Window.Within.refl (w : Window) : w.Within w :=
  ⟨fun time h => ⟨time, Nat.le_refl _, h⟩, fun time h => ⟨time, Nat.le_refl _, h⟩⟩

theorem Window.Within.trans (h₁ : w.Within w') (h₂ : w'.Within w'') : w.Within w'' := by
  constructor
  · intro time h
    obtain ⟨time', hle, h'⟩ := h₁.first time h
    obtain ⟨time'', hle', h''⟩ := h₂.first time' h'
    exact ⟨time'', Nat.le_trans hle' hle, h''⟩
  · intro time h
    obtain ⟨time', hle, h'⟩ := h₁.last time h
    obtain ⟨time'', hle', h''⟩ := h₂.last time' h'
    exact ⟨time'', Nat.le_trans hle hle', h''⟩

theorem Window.within_touch (w : Window) (now : Nat) : w.Within (w.touch now) := by
  constructor
  · intro time h
    refine ⟨min time now, Nat.min_le_left _ _, ?_⟩
    simp [touch, h]
  · intro time h
    refine ⟨max time now, Nat.le_max_left _ _, ?_⟩
    simp [touch, h]

theorem InternalUser.Kept.refl (u : InternalUser) : u.Kept u := ⟨rfl, .refl _⟩

theorem InternalUser.Kept.trans (h₁ : u.Kept v) (h₂ : v.Kept x) : u.Kept x := by
  refine ⟨?_, h₁.usage.trans h₂.usage⟩
  have hv := h₁.rest
  generalize v.usage = usage at hv
  subst hv
  exact h₂.rest

theorem InternalUser.kept_touch (u : InternalUser) (now : Nat) : u.Kept (u.touch now) :=
  ⟨rfl, Window.within_touch u.usage now⟩

end

/-! ## what is done to a store -/

/-- a record of any kind but internal users -/
inductive Entry where
  | node (n : Node)
  | program (p : Program)
  | rule (r : Rule)
  | balancer (b : Balancer)
  | binding (b : Binding)
  | tunnel (t : Tunnel)
  | inboundType (i : InboundType)
  | fixedInbound (i : FixedInbound)
  | profile (p : Profile)
  | plan (p : Plan)
  | period (p : Period)

/-- the record takes the place of one with the same key -/
def Store.enter (s : Store) : Entry → Store
  | .node n => { s with nodes := s.nodes.put n }
  | .program p => { s with programs := s.programs.put p }
  | .rule r => { s with rules := s.rules.put r }
  | .balancer b => { s with balancers := s.balancers.put b }
  | .binding b => { s with bindings := s.bindings.put b }
  | .tunnel t => { s with tunnels := s.tunnels.put t }
  | .inboundType i => { s with inboundTypes := s.inboundTypes.put i }
  | .fixedInbound i => { s with fixedInbounds := s.fixedInbounds.put i }
  | .profile p => { s with profiles := s.profiles.put p }
  | .plan p => { s with plans := s.plans.put p }
  | .period p => { s with periods := s.periods.put p }

inductive Action where
  | putSite (site : Site)
  | put (e : Entry)
  | deleteNode (id : Id)
  | deleteBinding (id : Id)
  | putUser (u : InternalUser)
  | importSnapshot (d : Snapshot)
  | setCurrent (id : Id)
  | claim (r : Store.ClaimRequest)
  | commit (id : Id) (claim : Claim) (counter : Counter)
  | release (id : Id) (claim : Claim)
  /-- a sync or a forward, among other workers and failures -/
  | account (settings : AccountingSettings) (reader : SeriesReader) (contention : Contention)
      (op : ClaimOp) (now : Nat)
  | touchPeriod (id : Id) (time : Nat)
  | touchUser (rule node : Id) (time : Nat)
  /-- a report from `node`, with the points that the series holds -/
  | ingest (w : SeriesWriter) (points : List Point) (node : Id) (r : TrafficReport)
  | ingestText (w : SeriesWriter) (points : List Point) (node : Id) (text : String)
  | ensureUser (rule node : Id) (secret : String)
  | userFor (rule node : Id)
  | compile (o : Options) (node : Id) (now : Nat)

namespace Store

/-- the store after an action, which may have been refused -/
def act (s : Store) : Action → Store
  | .putSite site => { s with site := some site }
  | .put e => s.enter e
  | .deleteNode id => { s with nodes := s.nodes.erase id }
  | .deleteBinding id => { s with bindings := s.bindings.erase id }
  | .putUser u => s.putInternalUser u
  | .importSnapshot d => s.importSnapshot d
  | .setCurrent id => (s.setCurrent id).getD s
  | .claim r => (s.claimPeriods r).2
  | .commit id claim counter => (s.commitCounter id claim counter).2
  | .release id claim => (s.releaseClaim id claim).2
  | .account settings reader contention op now =>
    (Accountant.perform ⟨settings, reader, contention.commit⟩ op s now).2
  | .touchPeriod id time => (s.touchPeriod id time).2
  | .touchUser rule node time => (s.touchInternalUser rule node time).2
  | .ingest w points node r => (Metering.ingest w node ⟨s, points⟩ r).2.store
  | .ingestText w points node text => (Metering.ingestText w node ⟨s, points⟩ text).2.store
  | .ensureUser rule node secret => (s.ensureInternalUser rule node secret).2
  | .userFor rule node => (s.internalUserFor rule node).2
  | .compile o node now => (compile s o node now).2

/-- the store after one action after the other -/
def actAll (s : Store) (actions : List Action) : Store := actions.foldl act s

end Store

/-- no administrator puts the user of the pair, by itself or in a document -/
def Action.Spares (k : Id × Id) : Action → Prop
  | .putUser u => key u ≠ k
  | .importSnapshot d => ∀ u ∈ d.internalUsers, key u ≠ k
  | _ => True

/-! ## what an action keeps -/

namespace Store

/-- the user of the pair is kept, if there is one -/
def Keeps (k : Id × Id) (s t : Store) : Prop :=
  ∀ u, s.internalUsers.get? k = some u → ∃ v, t.internalUsers.get? k = some v ∧ u.Kept v

section
variable {k : Id × Id} {s t t' : Store} {u : InternalUser}

theorem Keeps.trans (h₁ : Keeps k s t) (h₂ : Keeps k t t') : Keeps k s t' := by
  intro u hu
  obtain ⟨v, hv, huv⟩ := h₁ u hu
  obtain ⟨x, hx, hvx⟩ := h₂ v hv
  exact ⟨x, hx, huv.trans hvx⟩

/-- nothing happens to a user that is found as before -/
theorem keeps_of_found
    (h : ∀ u, s.internalUsers.get? k = some u → t.internalUsers.get? k = some u) : Keeps k s t :=
  fun u hu => ⟨u, h u hu, .refl u⟩

theorem keeps_of_sameUsers (h : t.internalUsers = s.internalUsers) : Keeps k s t := by
  refine keeps_of_found fun u hu => ?_
  rw [h]
  exact hu

theorem keeps_foldl {ι : Type} {f : Store → ι → Store} {l : List ι}
    (h : ∀ i ∈ l, ∀ s, Keeps k s (f s i)) (s : Store) : Keeps k s (l.foldl f s) := by
  induction l generalizing s with
  | nil => exact keeps_of_sameUsers rfl
  | cons i rest ih =>
    obtain ⟨hi, hrest⟩ := List.forall_mem_cons.1 h
    exact (hi s).trans (ih hrest _)

/-! ### those that write users -/

theorem keeps_putInternalUser (h : key u ≠ k) (s : Store) : Keeps k s (s.putInternalUser u) := by
  refine keeps_of_found fun v hv => ?_
  exact (Table.get?_put_ne s.internalUsers h.symm).trans hv

theorem keeps_importSnapshot {d : Snapshot} (h : ∀ u ∈ d.internalUsers, key u ≠ k) (s : Store) :
    Keeps k s (s.importSnapshot d) := by
  refine keeps_of_found fun u hu => ?_
  exact (Table.get?_putAll_ne h s.internalUsers).trans hu

theorem keeps_ensureInternalUser (s : Store) (rule node : Id) (secret : String) :
    Keeps k s (s.ensureInternalUser rule node secret).2 := by
  refine keeps_of_found fun u hu => ?_
  rw [get?_ensureInternalUser, hu]
  rfl

theorem keeps_compile (s : Store) (o : Options) (node : Id) (now : Nat) :
    Keeps k s (compile s o node now).2 := by
  refine keeps_of_found fun u hu => ?_
  rw [compile_store, get?_joinAll, hu]
  rfl

theorem keeps_touchInternalUser (s : Store) (rule node : Id) (time : Nat) :
    Keeps k s (s.touchInternalUser rule node time).2 := by
  unfold touchInternalUser
  split
  next u hu =>
    have hkey : key u = (rule, node) := Table.key_of_get? hu
    by_cases hk : k = (rule, node)
    · subst hk
      intro v hv
      obtain rfl := Option.some.inj (hu.symm.trans hv)
      exact ⟨u.touch time, Table.get?_put_some hkey, u.kept_touch time⟩
    · exact keeps_putInternalUser (u := u.touch time) (fun h => hk (h.symm.trans hkey)) s
  next => exact keeps_of_sameUsers rfl

/-! ### those that write periods -/

theorem internalUsers_updateClaimed (s : Store) (id : Id) (claim : Claim)
    (change : Period → Period) :
    (s.updateClaimed id claim change).2.internalUsers = s.internalUsers := by
  unfold updateClaimed
  split
  · split <;> rfl
  · rfl

theorem internalUsers_touchPeriod (s : Store) (id : Id) (time : Nat) :
    (s.touchPeriod id time).2.internalUsers = s.internalUsers := by
  unfold touchPeriod
  split <;> rfl

theorem internalUsers_setCurrent (s : Store) (id : Id) :
    ((s.setCurrent id).getD s).internalUsers = s.internalUsers := by
  unfold setCurrent
  cases s.periods.get? id <;> rfl

theorem internalUsers_enter (s : Store) (e : Entry) :
    (s.enter e).internalUsers = s.internalUsers := by
  cases e <;> rfl

theorem keeps_noted (s : Store) (batch : UsageBatch) (time : Nat) :
    Keeps k s (s.noted batch time) := by
  have hperiods : Keeps k s (batch.periods.foldl (fun s id => (s.touchPeriod id time).2) s) :=
    keeps_foldl (fun id _ s => keeps_of_sameUsers (internalUsers_touchPeriod s id time)) s
  exact hperiods.trans
    (keeps_foldl (fun user _ s => keeps_touchInternalUser s user.1 user.2 time) _)

theorem keeps_ingest (w : SeriesWriter) (node : Id) (m : Metering) (r : TrafficReport) :
    Keeps k m.store (m.ingest w node r).2.store := by
  rcases Metering.ingest_cases w node m r with h | h
  · rw [h]
    exact keeps_of_sameUsers rfl
  · rw [h]
    exact keeps_noted m.store _ _

theorem keeps_ingestLines (w : SeriesWriter) (node : Id) (lines : List String) (m : Metering) :
    Keeps k m.store (m.ingestLines w node lines).2.store :=
  Metering.ingestLines_keeps (P := fun m' => Keeps k m.store m'.store)
    (fun m' r h => h.trans (keeps_ingest w node m' r)) lines (keeps_of_sameUsers rfl)

theorem keeps_act {a : Action} (h : a.Spares k) (s : Store) : Keeps k s (s.act a) := by
  cases a with
  | putUser u => exact keeps_putInternalUser h s
  | importSnapshot d => exact keeps_importSnapshot h s
  | ensureUser rule node secret => exact keeps_ensureInternalUser s rule node secret
  | userFor rule node => exact keeps_ensureInternalUser s rule node _
  | compile o node now => exact keeps_compile s o node now
  | touchUser rule node time => exact keeps_touchInternalUser s rule node time
  | ingest w points node r => exact keeps_ingest w node ⟨s, points⟩ r
  | ingestText w points node text => exact keeps_ingestLines w node _ ⟨s, points⟩
  | account settings reader contention op now =>
    have hgrown := Accountant.perform_grown (a := ⟨settings, reader, contention.commit⟩)
      ⟨contention, rfl⟩ op s now
    refine keeps_of_sameUsers ?_
    show (Accountant.perform _ op s now).2.internalUsers = s.internalUsers
    rw [hgrown.rest]
  | putSite site => exact keeps_of_sameUsers rfl
  | put e => exact keeps_of_sameUsers (internalUsers_enter s e)
  | deleteNode id => exact keeps_of_sameUsers rfl
  | deleteBinding id => exact keeps_of_sameUsers rfl
  | setCurrent id => exact keeps_of_sameUsers (internalUsers_setCurrent s id)
  | claim r => exact keeps_of_sameUsers rfl
  | commit id claim counter => exact keeps_of_sameUsers (internalUsers_updateClaimed s id claim _)
  | release id claim => exact keeps_of_sameUsers (internalUsers_updateClaimed s id claim _)
  | touchPeriod id time => exact keeps_of_sameUsers (internalUsers_touchPeriod s id time)

theorem keeps_actAll {actions : List Action} (h : ∀ a ∈ actions, a.Spares k) (s : Store) :
    Keeps k s (s.actAll actions) :=
  keeps_foldl (fun a ha => keeps_act (h a ha)) s

end

/-- **Internal users stay.**  Whatever is done to a store, and in whatever order, the user of a pair is
the same ever after, its secret above all: at most its window has become wider.  It is the only one of
its pair, and whoever asks for one gets it, so a new seed makes no new secret. -/
theorem internalUser_stays (s : Store) (actions : List Action) (rule node : Id) (u : InternalUser)
    (hu : s.internalUsers.get? (rule, node) = some u)
    (hspares : ∀ a ∈ actions, a.Spares (rule, node)) :
    ∃ v, u.Kept v ∧
      (s.actAll actions).internalUsers.records.filter (key · = (rule, node)) = [v] ∧
      ∀ secret, ((s.actAll actions).ensureInternalUser rule node secret).1 = v := by
  obtain ⟨v, hv, hkept⟩ := keeps_actAll hspares s u hu
  refine ⟨v, hkept, Table.filter_key hv, fun secret => ?_⟩
  rw [ensureInternalUser_fst, hv]
  rfl

/-- a rule with a user of node 2 and a hop at node 3 -/
def twoNodes : Store := { Store.empty with
  site := some { Site.default with runtimeProgram := some "xray" }
  nodes := .ofList [⟨3, "edge", "amd64", none, true, .empty⟩]
  programs := .ofList [⟨"xray", [], [⟨3, "/usr/bin/xray"⟩]⟩]
  rules := .ofList [⟨7, "", "", "", ""⟩]
  bindings := .ofList [⟨1, "direct", .rule 7, 3, none, ⟨"", none, none, none⟩, []⟩]
  internalUsers := .ofList [⟨7, 2, true, "secret", .none⟩] }

/-- the seed is changed, node 3 gets its own user and is put out of use, and traffic of node 2 is seen -/
def reseeded : List Action := [
  .putSite { Site.default with runtimeProgram := some "xray", reverseSeed := "new" },
  .compile ⟨"/srv", ""⟩ 3 50, .userFor 7 2, .touchUser 7 2 90,
  .ingest .reliable [] 2 ⟨40, [⟨"user>>>rule7.node2@relaygrid.local>>>traffic>>>downlink", 5⟩]⟩,
  .putUser ⟨7, 3, false, "", .none⟩, .deleteNode 3]

theorem internalUser_stays_reseeded :
    (∃ v, InternalUser.Kept ⟨7, 2, true, "secret", .none⟩ v ∧
      (twoNodes.actAll reseeded).internalUsers.records.filter (key · = (7, 2)) = [v] ∧
      ∀ secret, ((twoNodes.actAll reseeded).ensureInternalUser 7 2 secret).1 = v) ∧
      (twoNodes.actAll reseeded).internalUsers.records =
        [⟨7, 2, true, "secret", ⟨some 40, some 90⟩⟩, ⟨7, 3, false, "", .none⟩] := by
  have hspares : ∀ a ∈ reseeded, a.Spares (7, 2) := by
    simp [reseeded, Action.Spares, key]
  exact ⟨internalUser_stays twoNodes reseeded 7 2 _ (by decide +kernel) hspares, by decide +kernel⟩

end Store

end ProxyMesh
