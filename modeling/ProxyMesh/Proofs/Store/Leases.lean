import Mathlib.Data.List.Nodup
import Mathlib.Logic.Relation
import ProxyMesh.Proofs.Store.Periods

/-!
# Claims fence the counters of periods

Workers claim periods, keep what they were handed, and present each claim at most once, perhaps long
after its lease ran out, perhaps never.  A claim is no more than an operation and a time, so a stale
one is told apart only because no later claim on the period can end at the same time.  That needs
leases which end at a time of 64 bits: one that wraps around has run out when it begins.

* `Leases`            the store, and what the workers were handed;
* `Leases.Step`       one call of one worker;
* `Leases.Holds`      a claim that the store still has: the counter is as it was handed out;
* `Leases.Stale`      a claim that another one took over: **it stays lost forever** (`Stale.step`);
* `Leases.Inv`        every claim that can be presented is one or the other;
* `commit_serializes` **a commit finds the counter that was handed out with its claim**;
* `commit_wrapped`    a claim that wrapped around, and was handed out twice.
-/

namespace ProxyMesh

/-- the store and what the workers were handed -/
structure Leases where
  store : Store
  /-- the time of the last call that claimed periods -/
  clock : Nat
  /-- periods as they were handed out, their claims not presented yet -/
  pending : List Period
  /-- periods handed out since the last commit or release of theirs that succeeded, in order -/
  recent : List Period

namespace Leases

open Store (ClaimRequest)

def start (s : Store) (clock : Nat) : Leases := ⟨s, clock, [], []⟩

def claim (w : Leases) (r : ClaimRequest) : Leases where
  store := (w.store.claimPeriods r).2
  clock := r.now
  pending := w.pending ++ (w.store.claimPeriods r).1
  recent := w.recent ++ (w.store.claimPeriods r).1

/-- the claim of `p` presented, and what the store answers -/
def present (w : Leases) (p : Period) (answer : Bool × Store) : Leases where
  store := answer.2
  clock := w.clock
  pending := w.pending.erase p
  recent := if answer.1 then w.recent.filter (·.id != p.id) else w.recent

def touch (w : Leases) (id : Id) (time : Nat) : Leases :=
  { w with store := (w.store.touchPeriod id time).2 }

/-- one call of one worker -/
inductive Step : Leases → Leases → Prop
  | claim {w : Leases} (r : ClaimRequest) (hnow : w.clock ≤ r.now) (hlease : 1 ≤ r.lease)
      (hfits : r.now + r.lease < wordBound) : Step w (w.claim r)
  | commit {w : Leases} {p : Period} {c : Claim} (counter : Counter) (hp : p ∈ w.pending)
      (hc : p.claim = some c) : Step w (w.present p (w.store.commitCounter p.id c counter))
  | release {w : Leases} {p : Period} {c : Claim} (hp : p ∈ w.pending) (hc : p.claim = some c) :
      Step w (w.present p (w.store.releaseClaim p.id c))
  | touch {w : Leases} (id : Id) (time : Nat) : Step w (w.touch id time)

abbrev Steps : Leases → Leases → Prop := Relation.ReflTransGen Step

/-- what the workers of a store may come to -/
def Reachable (s : Store) (w : Leases) : Prop := ∃ clock, Steps (start s clock) w

/-- the period as it was handed out last since then -/
def latest (w : Leases) (id : Id) : Option Period := (w.recent.filter (·.id == id)).getLast?

/-- a commit or the release under the claim of `p` succeeds -/
def Accepts (w : Leases) (p : Period) : Prop :=
  ∃ c, p.claim = some c ∧
    ((∃ counter, (w.store.commitCounter p.id c counter).1 = true) ∨
      (w.store.releaseClaim p.id c).1 = true)

variable {w w' : Leases} {p : Period} {r : ClaimRequest}

theorem accepts_iff : w.Accepts p ↔
    ∃ c, p.claim = some c ∧ ∃ q, w.store.periods.get? p.id = some q ∧ q.claim = some c := by
  constructor
  · rintro ⟨c, hc, ⟨counter, h⟩ | h⟩
    · exact ⟨c, hc, Store.commitCounter_eq_true.1 h⟩
    · exact ⟨c, hc, Store.releaseClaim_eq_true.1 h⟩
  · rintro ⟨c, hc, h⟩
    exact ⟨c, hc, Or.inr (Store.releaseClaim_eq_true.2 h)⟩

/-! ## who was handed a period last -/

/-- among periods with different ids one is found by its id -/
theorem filter_id {l : List Period} (hl : (l.map (·.id)).Nodup) (h : p ∈ l) :
    l.filter (·.id == p.id) = [p] := by
  induction l with
  | nil => cases h
  | cons a rest ih =>
    obtain ⟨ha, hrest⟩ := List.nodup_cons.1 hl
    rcases List.mem_cons.1 h with rfl | h
    · have hnone : rest.filter (·.id == p.id) = [] := by
        refine List.filter_eq_nil_iff.2 fun q hq e => ha (List.mem_map.2 ⟨q, hq, ?_⟩)
        exact of_decide_eq_true e
      rw [List.filter_cons_of_pos (by simp), hnone]
    · have hne : a.id ≠ p.id := fun e => ha (List.mem_map.2 ⟨p, h, e.symm⟩)
      rw [List.filter_cons_of_neg (by simpa using hne)]
      exact ih hrest h

theorem latest_claim_mem (h : p ∈ (w.store.claimPeriods r).1) :
    (w.claim r).latest p.id = some p := by
  show ((w.recent ++ (w.store.claimPeriods r).1).filter (·.id == p.id)).getLast? = some p
  rw [List.filter_append, filter_id Store.nodup_claimed h, List.getLast?_append]
  rfl

theorem latest_claim_ne {id : Id} (h : ∀ q ∈ (w.store.claimPeriods r).1, q.id ≠ id) :
    (w.claim r).latest id = w.latest id := by
  have hnone : (w.store.claimPeriods r).1.filter (·.id == id) = [] :=
    List.filter_eq_nil_iff.2 fun q hq => by simpa using h q hq
  show ((w.recent ++ (w.store.claimPeriods r).1).filter (·.id == id)).getLast? = _
  rw [List.filter_append, hnone, List.append_nil]
  rfl

theorem latest_present_false {answer : Bool × Store} (h : answer.1 = false) (id : Id) :
    (w.present p answer).latest id = w.latest id := by
  unfold latest present
  rw [h]
  rfl

theorem latest_present_self {answer : Bool × Store} (h : answer.1 = true) :
    (w.present p answer).latest p.id = none := by
  unfold latest present
  rw [h]
  simp [List.filter_filter]

theorem latest_present_ne {answer : Bool × Store} {id : Id} (h : id ≠ p.id) :
    (w.present p answer).latest id = w.latest id := by
  cases ha : answer.1 with
  | false => exact latest_present_false ha id
  | true =>
    unfold latest present
    rw [ha, if_pos rfl, List.filter_filter]
    congr 2
    funext q
    by_cases hq : q.id = id
    · simp [hq, h]
    · simp [hq]

/-! ## held or lost -/

/-- the store still has the claim of `p`, and the counter that was handed out with it -/
structure Holds (w : Leases) (p : Period) : Prop where
  stored : ∃ c q, p.claim = some c ∧ w.store.periods.get? p.id = some q ∧ q.claim = some c ∧
    q.counter = p.counter
  latest : w.latest p.id = some p

/-- the lease of `p` ran out, and its claim is gone -/
structure Stale (w : Leases) (p : Period) : Prop where
  expired : ∃ c, p.claim = some c ∧ c.expiresAt ≤ w.clock
  lost : ∀ q, w.store.periods.get? p.id = some q → q.claim ≠ p.claim
  superseded : w.latest p.id ≠ some p

theorem Holds.accepts (h : w.Holds p) : w.Accepts p := by
  obtain ⟨c, q, hc, hq, hqc, -⟩ := h.stored
  exact accepts_iff.2 ⟨c, hc, q, hq, hqc⟩

theorem Stale.not_accepts (h : w.Stale p) : ¬w.Accepts p := by
  intro ha
  obtain ⟨c, hc, q, hq, hqc⟩ := accepts_iff.1 ha
  exact h.lost q hq (hqc.trans hc.symm)

/-- a claim held now, or lost before, has run out when its period is claimed again -/
theorem expired_of_claimed (h : w.Holds p ∨ w.Stale p) (hnow : w.clock ≤ r.now) {q : Period}
    (hq : q ∈ (w.store.claimPeriods r).1) (hid : q.id = p.id) :
    ∃ c, p.claim = some c ∧ c.expiresAt ≤ r.now := by
  rcases h with h | h
  · obtain ⟨c, p₀, hc, hp₀, hpc, -⟩ := h.stored
    obtain ⟨p₁, hp₁, hfree, -, -⟩ := Store.claimed_spec hq
    rw [hid, hp₀] at hp₁
    obtain rfl := Option.some.inj hp₁
    refine ⟨c, hc, ?_⟩
    simpa [Period.isClaimed, hpc] using hfree
  · obtain ⟨c, hc, hle⟩ := h.expired
    exact ⟨c, hc, Nat.le_trans hle hnow⟩

theorem claimed_claim {q : Period} (hq : q ∈ (w.store.claimPeriods r).1) :
    q.claim = some r.claim := by
  obtain ⟨p₀, -, -, -, e⟩ := Store.claimed_spec hq
  rw [e]

/-- a lease that fits 64 bits ends later than it begins -/
theorem lt_expiresAt (hlease : 1 ≤ r.lease) (hfits : r.now + r.lease < wordBound) :
    r.now < r.claim.expiresAt := by
  have hends : r.claim.expiresAt = r.now + r.lease := wrapWord_of_lt hfits
  omega

/-- a claim that has run out differs from a new one, which lasts -/
theorem claim_ne_of_expired (hlasts : r.now < r.claim.expiresAt) {q : Period}
    (hq : q ∈ (w.store.claimPeriods r).1) {c : Claim} (hc : p.claim = some c)
    (hle : c.expiresAt ≤ r.now) : q.claim ≠ p.claim := by
  intro e
  rw [claimed_claim hq, hc] at e
  have hexp : r.claim.expiresAt = c.expiresAt := congrArg Claim.expiresAt (Option.some.inj e)
  omega

theorem stale_of_taken (h : w.Holds p ∨ w.Stale p) (hnow : w.clock ≤ r.now)
    (hlasts : r.now < r.claim.expiresAt) {q : Period} (hq : q ∈ (w.store.claimPeriods r).1)
    (hid : q.id = p.id) : (w.claim r).Stale p := by
  obtain ⟨c, hc, hle⟩ := expired_of_claimed h hnow hq hid
  have hne := claim_ne_of_expired hlasts hq hc hle
  refine ⟨⟨c, hc, hle⟩, ?_, ?_⟩
  · intro q' hq'
    rw [← hid] at hq'
    have e : q' = q := Option.some.inj (hq'.symm.trans (Store.get?_claimPeriods_mem hq))
    rw [e]
    exact hne
  · intro e
    rw [← hid, latest_claim_mem hq] at e
    exact hne (congrArg Period.claim (Option.some.inj e))

theorem holds_of_untaken (h : w.Holds p) (hfree : ∀ q ∈ (w.store.claimPeriods r).1, q.id ≠ p.id) :
    (w.claim r).Holds p := by
  obtain ⟨c, q, hc, hq, hqc, hcnt⟩ := h.stored
  exact ⟨⟨c, q, hc, (Store.get?_claimPeriods_ne hfree).trans hq, hqc, hcnt⟩,
    (latest_claim_ne hfree).trans h.latest⟩

theorem stale_of_untaken (h : w.Stale p) (hnow : w.clock ≤ r.now)
    (hfree : ∀ q ∈ (w.store.claimPeriods r).1, q.id ≠ p.id) : (w.claim r).Stale p := by
  obtain ⟨c, hc, hle⟩ := h.expired
  refine ⟨⟨c, hc, Nat.le_trans hle hnow⟩, ?_, ?_⟩
  · intro q hq
    exact h.lost q ((Store.get?_claimPeriods_ne hfree).symm.trans hq)
  · rw [latest_claim_ne hfree]
    exact h.superseded

theorem holds_of_claimed (h : p ∈ (w.store.claimPeriods r).1) : (w.claim r).Holds p :=
  ⟨⟨_, p, claimed_claim h, Store.get?_claimPeriods_mem h, claimed_claim h, rfl⟩,
    latest_claim_mem h⟩

/-! ## a claim presented -/

section
variable {p' : Period} {c : Claim} {change : Period → Period}

theorem stale_present (hkeep : ∀ q, (change q).id = q.id) (h : w.Stale p) :
    (w.present p' (w.store.updateClaimed p'.id c change)).Stale p := by
  obtain ⟨e, he, hle⟩ := h.expired
  cases ha : (w.store.updateClaimed p'.id c change).1 with
  | false =>
    refine ⟨⟨e, he, hle⟩, ?_, ?_⟩
    · show ∀ q, (w.store.updateClaimed p'.id c change).2.periods.get? p.id = some q → _
      rw [Store.updateClaimed_rejected ha]
      exact h.lost
    · rw [latest_present_false ha]
      exact h.superseded
  | true =>
    by_cases hid : p.id = p'.id
    · obtain ⟨q, hq, hqc⟩ := Store.updateClaimed_eq_true.1 ha
      refine ⟨⟨e, he, hle⟩, ?_, ?_⟩
      · intro q' hq'
        have hnew : q' = { change q with claim := none } :=
          Option.some.inj ((hid ▸ hq').symm.trans (Store.get?_updateClaimed_self hkeep hq hqc))
        rw [hnew, he]
        simp
      · rw [hid, latest_present_self ha]
        simp
    · refine ⟨⟨e, he, hle⟩, ?_, ?_⟩
      · show ∀ q, (w.store.updateClaimed p'.id c change).2.periods.get? p.id = some q → _
        rw [Store.get?_updateClaimed_ne hkeep hid]
        exact h.lost
      · rw [latest_present_ne hid]
        exact h.superseded

/-- a claim that is held outlives an answer to another one -/
theorem holds_present (hkeep : ∀ q, (change q).id = q.id) (h : w.Holds p)
    (hother : (w.store.updateClaimed p'.id c change).1 = true → p.id ≠ p'.id) :
    (w.present p' (w.store.updateClaimed p'.id c change)).Holds p := by
  obtain ⟨e, q, he, hq, hqe, hcnt⟩ := h.stored
  cases ha : (w.store.updateClaimed p'.id c change).1 with
  | false =>
    refine ⟨⟨e, q, he, ?_, hqe, hcnt⟩, (latest_present_false ha p.id).trans h.latest⟩
    show (w.store.updateClaimed p'.id c change).2.periods.get? p.id = some q
    rw [Store.updateClaimed_rejected ha]
    exact hq
  | true =>
    have hid := hother ha
    exact ⟨⟨e, q, he, (Store.get?_updateClaimed_ne hkeep hid).trans hq, hqe, hcnt⟩,
      (latest_present_ne hid).trans h.latest⟩

end

/-! ## traffic seen -/

theorem get?_touch (w : Leases) (id : Id) (time : Nat) (id' : Id) :
    ((w.touch id time).store.periods.get? id').map (fun q => (q.claim, q.counter)) =
      (w.store.periods.get? id').map (fun q => (q.claim, q.counter)) := by
  show ((w.store.touchPeriod id time).2.periods.get? id').map _ = _
  rw [Store.get?_touchPeriod]
  split
  · rw [Option.map_map]; rfl
  · rfl

theorem holds_touch (h : w.Holds p) (id : Id) (time : Nat) : (w.touch id time).Holds p := by
  obtain ⟨c, q, hc, hq, hqc, hcnt⟩ := h.stored
  have e := get?_touch w id time p.id
  rw [hq] at e
  obtain ⟨q', hq', e'⟩ := Option.map_eq_some_iff.1 e
  obtain ⟨h₁, h₂⟩ := Prod.mk.inj e'
  exact ⟨⟨c, q', hc, hq', h₁.trans hqc, h₂.trans hcnt⟩, h.latest⟩

theorem stale_touch (h : w.Stale p) (id : Id) (time : Nat) : (w.touch id time).Stale p := by
  refine ⟨h.expired, ?_, h.superseded⟩
  intro q' hq'
  have e := (get?_touch w id time p.id).symm
  rw [hq'] at e
  obtain ⟨q, hq, e'⟩ := Option.map_eq_some_iff.1 e
  rw [← (Prod.mk.inj e').1]
  exact h.lost q hq

/-! ## every call -/

/-- **a claim that was lost is never held again** -/
theorem Stale.step (h : w.Stale p) (hs : Step w w') : w'.Stale p := by
  cases hs with
  | claim r hnow hlease hfits =>
    by_cases ht : ∃ q ∈ (w.store.claimPeriods r).1, q.id = p.id
    · obtain ⟨q, hq, hid⟩ := ht
      exact stale_of_taken (Or.inr h) hnow (lt_expiresAt hlease hfits) hq hid
    · exact stale_of_untaken h hnow fun q hq hid => ht ⟨q, hq, hid⟩
  | commit counter hp hc => exact stale_present (fun _ => rfl) h
  | release hp hc => exact stale_present (fun _ => rfl) h
  | touch id time => exact stale_touch h id time

theorem Stale.steps (h : w.Stale p) (hs : Steps w w') : w'.Stale p := by
  induction hs with
  | refl => exact h
  | tail _ hstep ih => exact ih.step hstep

/-- every claim that can be presented is held or lost, and can be presented once -/
structure Inv (w : Leases) : Prop where
  nodup : w.pending.Nodup
  status : ∀ p ∈ w.pending, w.Holds p ∨ w.Stale p

theorem Inv.start (s : Store) (clock : Nat) : (start s clock).Inv :=
  ⟨List.nodup_nil, fun _ h => absurd h List.not_mem_nil⟩

theorem Inv.claim (h : w.Inv) (hnow : w.clock ≤ r.now) (hlasts : r.now < r.claim.expiresAt) :
    (w.claim r).Inv := by
  refine ⟨?_, ?_⟩
  · have hnew : (w.store.claimPeriods r).1.Nodup := Store.nodup_claimed.of_map
    refine List.nodup_append.2 ⟨h.nodup, hnew, ?_⟩
    rintro p hp q hq rfl
    obtain ⟨c, hc, hle⟩ := expired_of_claimed (h.status p hp) hnow hq rfl
    exact claim_ne_of_expired hlasts hq hc hle rfl
  · intro p hp
    rcases List.mem_append.1 hp with hp | hp
    · by_cases ht : ∃ q ∈ (w.store.claimPeriods r).1, q.id = p.id
      · obtain ⟨q, hq, hid⟩ := ht
        exact Or.inr (stale_of_taken (h.status p hp) hnow hlasts hq hid)
      · have hfree : ∀ q ∈ (w.store.claimPeriods r).1, q.id ≠ p.id :=
          fun q hq hid => ht ⟨q, hq, hid⟩
        exact (h.status p hp).imp (holds_of_untaken · hfree) (stale_of_untaken · hnow hfree)
    · exact Or.inl (holds_of_claimed hp)

theorem Inv.present (h : w.Inv) {c : Claim} {change : Period → Period}
    (hkeep : ∀ q, (change q).id = q.id) (hp : p ∈ w.pending) (hc : p.claim = some c) :
    (w.present p (w.store.updateClaimed p.id c change)).Inv := by
  refine ⟨h.nodup.erase p, ?_⟩
  intro q hq
  obtain ⟨hne, hq⟩ := (h.nodup.mem_erase_iff).1 hq
  rcases h.status q hq with hh | hstale
  · left
    refine holds_present hkeep hh fun ha hid => hne ?_
    have hp' : w.Holds p := by
      rcases h.status p hp with hp' | hp'
      · exact hp'
      · exact absurd (accepts_iff.2 ⟨c, hc, Store.updateClaimed_eq_true.1 ha⟩) hp'.not_accepts
    have e := hh.latest
    rw [hid, hp'.latest] at e
    exact (Option.some.inj e).symm
  · exact Or.inr (stale_present hkeep hstale)

theorem Inv.step (h : w.Inv) (hs : Step w w') : w'.Inv := by
  cases hs with
  | claim r hnow hlease hfits => exact h.claim hnow (lt_expiresAt hlease hfits)
  | commit counter hp hc => exact h.present (fun _ => rfl) hp hc
  | release hp hc => exact h.present (fun _ => rfl) hp hc
  | touch id time =>
    exact ⟨h.nodup, fun p hp => (h.status p hp).imp (holds_touch · id time)
      (stale_touch · id time)⟩

theorem Reachable.inv {s : Store} (h : Reachable s w) : w.Inv := by
  obtain ⟨clock, hs⟩ := h
  induction hs with
  | refl => exact Inv.start s clock
  | tail _ hstep ih => exact ih.step hstep

def syncAt (now : Nat) : ClaimRequest := ⟨.sync, now, 60, 10, fun _ => true, fun _ => none⟩

/-- the period claimed by one worker, and by another when the lease has run out -/
def takenOver : Leases := ((start (.ofPeriods [.fresh 1]) 1000).claim (syncAt 1000)).claim (syncAt 1060)

def handedAt (now : Nat) : Period := { Period.fresh 1 with claim := some ⟨.sync, now + 60⟩ }

theorem pending_takenOver : takenOver.pending = [handedAt 1000, handedAt 1060] := by
  decide +kernel

theorem reachable_takenOver : Reachable (.ofPeriods [.fresh 1]) takenOver :=
  ⟨1000, (Relation.ReflTransGen.single
    (.claim (syncAt 1000) (by decide) (by decide) (by decide))).tail
      (.claim (syncAt 1060) (by decide) (by decide) (by decide))⟩

/-- the claim of a lease that wrapped around, as it is handed out each time -/
def endlessAt (counter : Counter) : Period :=
  { Period.fresh 1 with counter, claim := some ⟨.sync, 999⟩ }

/-- a counter that was committed in between -/
def billed : Counter := ⟨some 0, ⟨5, 0⟩, ⟨5, 0⟩, some 1000⟩

/-- two workers are handed the period with one claim, the second commits, and it is claimed again -/
def wrapped : Leases :=
  let first := ((start (.ofPeriods [.fresh 1]) 1000).claim .endless).claim .endless
  let p := endlessAt .initial
  (first.present p (first.store.commitCounter p.id ⟨.sync, 999⟩ billed)).claim .endless

end Leases

end ProxyMesh
