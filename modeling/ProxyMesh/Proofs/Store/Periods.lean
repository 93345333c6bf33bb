import ProxyMesh.Store.Basic
import ProxyMesh.Proofs.Tables

/-!
# Periods before and after each operation of the store

For every operation, what a period with a given id was before and what it is after.

* `putPeriods`          periods put one after the other;
* `claimed_spec`, `get?_claimPeriods_mem`, `get?_claimPeriods_ne`   a batch of claims;
* `commitCounter_eq_true`, `releaseClaim_eq_true`   when a claim is accepted;
* `get?_updateClaimed`, `get?_commitCounter_self`, `get?_releaseClaim_self` and the `_ne` forms;
* `commitCounter_rejected`, `releaseClaim_rejected`   **a refused claim changes nothing**;
* `get?_touchPeriod`   traffic seen: counter and claim stay;
* `get?_setCurrent`    a period made current: the flags of its profile change, and nothing else;
* `Period.fresh`, `Store.ofPeriods`   periods never used, and stores with nothing but periods;
* `Store.ClaimRequest.endless`   a lease that ends beyond 64 bits.
-/

namespace ProxyMesh

def Period.fresh (id : Id) : Period := ⟨id, 1, 1, .null, true, .none, .initial, none⟩

def Store.ofPeriods (l : List Period) : Store := { Store.empty with periods := .ofList l }

/-- any period, for the longest lease that can be asked for; it wraps around -/
def Store.ClaimRequest.endless : ClaimRequest :=
  ⟨.sync, 1000, wordBound - 1, 1, fun _ => true, fun _ => none⟩

namespace Store

variable {s : Store} {r : ClaimRequest} {id : Id} {claim : Claim}

/-! ## periods put -/

/-- periods put into the store one after the other -/
def putPeriods (s : Store) (l : List Period) : Store := { s with periods := s.periods.putAll l }

theorem putPeriods_append (s : Store) (l l' : List Period) :
    (s.putPeriods l).putPeriods l' = s.putPeriods (l ++ l') := by
  unfold putPeriods Table.putAll
  rw [List.foldl_append]

theorem get?_putPeriods_mem {l : List Period} (hl : (l.map (·.id)).Nodup) {p : Period} (hp : p ∈ l)
    (s : Store) : (s.putPeriods l).periods.get? p.id = some p :=
  Table.get?_putAll_mem hl hp s.periods

theorem get?_putPeriods_ne {l : List Period} (h : ∀ q ∈ l, q.id ≠ id) :
    (s.putPeriods l).periods.get? id = s.periods.get? id :=
  Table.get?_putAll_ne h s.periods

/-! ## a batch of claims -/

theorem mem_claimable {p : Period} (h : p ∈ s.claimable r) :
    s.periods.get? p.id = some p ∧ p.isClaimed r.now = false ∧ r.due p = true := by
  have hf := (List.mergeSort_perm _ _).mem_iff.1 (List.mem_of_mem_take h)
  obtain ⟨hp, hc⟩ := List.mem_filter.1 hf
  simp only [Bool.and_eq_true, Bool.not_eq_true'] at hc
  exact ⟨Table.mem_records.1 hp, hc.1, hc.2⟩

theorem nodup_claimable : ((s.claimable r).map (·.id)).Nodup := by
  have h₁ : ((s.periods.records.filter fun p => !p.isClaimed r.now && r.due p).map key).Nodup :=
    (nodup_keys s.periods.ascending).sublist (List.filter_sublist.map key)
  have h₂ := ((List.mergeSort_perm _ (claimedFirst r.order)).map key).nodup_iff.2 h₁
  exact h₂.sublist ((List.take_sublist r.limit _).map key)

theorem claimed_spec {q : Period} (h : q ∈ (s.claimPeriods r).1) :
    ∃ p, s.periods.get? q.id = some p ∧ p.isClaimed r.now = false ∧ r.due p = true ∧
      q = { p with claim := some r.claim } := by
  obtain ⟨p, hp, rfl⟩ := List.mem_map.1 h
  obtain ⟨hget, hfree, hdue⟩ := mem_claimable hp
  exact ⟨p, hget, hfree, hdue, rfl⟩

theorem nodup_claimed : ((s.claimPeriods r).1.map (·.id)).Nodup := by
  have e : (s.claimPeriods r).1.map (·.id) = (s.claimable r).map (·.id) := by
    simp [claimPeriods, Function.comp_def]
  rw [e]
  exact nodup_claimable

theorem get?_claimPeriods_mem {q : Period} (h : q ∈ (s.claimPeriods r).1) :
    (s.claimPeriods r).2.periods.get? q.id = some q :=
  Table.get?_putAll_mem nodup_claimed h s.periods

theorem get?_claimPeriods_ne (h : ∀ q ∈ (s.claimPeriods r).1, q.id ≠ id) :
    (s.claimPeriods r).2.periods.get? id = s.periods.get? id :=
  Table.get?_putAll_ne h s.periods

/-- a claim changes nothing of a period but its claim -/
theorem counter_claimPeriods :
    ((s.claimPeriods r).2.periods.get? id).map (·.counter) =
      (s.periods.get? id).map (·.counter) := by
  by_cases h : ∃ q ∈ (s.claimPeriods r).1, q.id = id
  · obtain ⟨q, hq, rfl⟩ := h
    obtain ⟨p, hp, -, -, e⟩ := claimed_spec hq
    rw [get?_claimPeriods_mem hq, hp, e]
    rfl
  · rw [get?_claimPeriods_ne fun q hq e => h ⟨q, hq, e⟩]

/-! ## a claim given back -/

section
variable {change : Period → Period}

theorem updateClaimed_eq_true :
    (s.updateClaimed id claim change).1 = true ↔
      ∃ p, s.periods.get? id = some p ∧ p.claim = some claim := by
  unfold updateClaimed
  split
  next p hp => split <;> simp_all
  next hp => simp_all

theorem updateClaimed_rejected (h : (s.updateClaimed id claim change).1 = false) :
    (s.updateClaimed id claim change).2 = s := by
  unfold updateClaimed at h ⊢
  split
  next p hp =>
    split
    next hc => simp [hp, hc] at h
    next hc => rfl
  next hp => rfl

theorem updateClaimed_accepted {p : Period} (hp : s.periods.get? id = some p)
    (hc : p.claim = some claim) :
    s.updateClaimed id claim change =
      (true, { s with periods := s.periods.put { change p with claim := none } }) := by
  unfold updateClaimed
  simp only [hp, hc, if_true]

theorem get?_updateClaimed_ne {id' : Id} (hkeep : ∀ p, (change p).id = p.id) (h : id' ≠ id) :
    (s.updateClaimed id claim change).2.periods.get? id' = s.periods.get? id' := by
  unfold updateClaimed
  split
  next p hp =>
    split
    · refine Table.get?_put_ne _ ?_
      show id' ≠ (change p).id
      rw [hkeep, show p.id = id from Table.key_of_get? hp]
      exact h
    · rfl
  · rfl

theorem get?_updateClaimed_self {p : Period} (hkeep : ∀ p, (change p).id = p.id)
    (hp : s.periods.get? id = some p) (hc : p.claim = some claim) :
    (s.updateClaimed id claim change).2.periods.get? id =
      some { change p with claim := none } := by
  rw [updateClaimed_accepted hp hc]
  exact Table.get?_put_some ((hkeep p).trans (Table.key_of_get? hp))

theorem get?_updateClaimed (hkeep : ∀ p, (change p).id = p.id) (s : Store) (id : Id) (claim : Claim)
    (id' : Id) : (s.updateClaimed id claim change).2.periods.get? id' =
      (s.periods.get? id').map fun p =>
        if p.id = id ∧ p.claim = some claim then { change p with claim := none } else p := by
  cases hanswer : (s.updateClaimed id claim change).1 with
  | false =>
    rw [updateClaimed_rejected hanswer]
    cases hp : s.periods.get? id' with
    | none => rfl
    | some p =>
      have hother : ¬(p.id = id ∧ p.claim = some claim) := by
        rintro ⟨rfl, hc⟩
        obtain rfl : p.id = id' := Table.key_of_get? hp
        rw [updateClaimed_eq_true.2 ⟨p, hp, hc⟩] at hanswer
        cases hanswer
      rw [Option.map_some, if_neg hother]
  | true =>
    obtain ⟨q, hq, hqc⟩ := updateClaimed_eq_true.1 hanswer
    by_cases hid : id' = id
    · subst hid
      rw [get?_updateClaimed_self hkeep hq hqc, hq, Option.map_some,
        if_pos ⟨Table.key_of_get? hq, hqc⟩]
    · rw [get?_updateClaimed_ne hkeep hid]
      cases hp : s.periods.get? id' with
      | none => rfl
      | some p =>
        rw [Option.map_some, if_neg fun h => hid ((Table.key_of_get? hp).symm.trans h.1)]

end

section
variable {counter : Counter}

theorem commitCounter_eq_true :
    (s.commitCounter id claim counter).1 = true ↔
      ∃ p, s.periods.get? id = some p ∧ p.claim = some claim :=
  updateClaimed_eq_true

theorem releaseClaim_eq_true :
    (s.releaseClaim id claim).1 = true ↔
      ∃ p, s.periods.get? id = some p ∧ p.claim = some claim :=
  updateClaimed_eq_true

theorem commitCounter_rejected (h : (s.commitCounter id claim counter).1 = false) :
    (s.commitCounter id claim counter).2 = s :=
  updateClaimed_rejected h

theorem releaseClaim_rejected (h : (s.releaseClaim id claim).1 = false) :
    (s.releaseClaim id claim).2 = s :=
  updateClaimed_rejected h

theorem get?_commitCounter_self {p : Period} (hp : s.periods.get? id = some p)
    (hc : p.claim = some claim) :
    (s.commitCounter id claim counter).2.periods.get? id =
      some { p with counter, claim := none } :=
  get?_updateClaimed_self (fun _ => rfl) hp hc

theorem get?_commitCounter_ne {id' : Id} (h : id' ≠ id) :
    (s.commitCounter id claim counter).2.periods.get? id' = s.periods.get? id' :=
  get?_updateClaimed_ne (fun _ => rfl) h

theorem get?_releaseClaim_self {p : Period} (hp : s.periods.get? id = some p)
    (hc : p.claim = some claim) :
    (s.releaseClaim id claim).2.periods.get? id = some { p with claim := none } :=
  get?_updateClaimed_self (fun _ => rfl) hp hc

theorem get?_releaseClaim_ne {id' : Id} (h : id' ≠ id) :
    (s.releaseClaim id claim).2.periods.get? id' = s.periods.get? id' :=
  get?_updateClaimed_ne (fun _ => rfl) h

end

/-! ## traffic seen -/

theorem get?_touchPeriod (s : Store) (id id' : Id) (time : Nat) :
    (s.touchPeriod id time).2.periods.get? id' =
      if id' = id then (s.periods.get? id').map (·.touch time) else s.periods.get? id' := by
  unfold touchPeriod
  split
  next p hp =>
    have hid : p.id = id := Table.key_of_get? hp
    split
    next h =>
      subst h
      rw [hp]
      exact Table.get?_put_some (show (p.touch time).id = id' from hid)
    next h => exact Table.get?_put_ne _ (show id' ≠ (p.touch time).id from hid ▸ h)
  next hp =>
    split
    next h => rw [h, hp]; rfl
    · rfl

/-! ## a period made current -/

theorem get?_setCurrent (s : Store) (id id' : Id) :
    ((s.setCurrent id).getD s).periods.get? id' =
      (s.periods.get? id').map fun p => (s.periods.get? id).elim p (switchTo · p) := by
  unfold setCurrent
  cases s.periods.get? id with
  | none => exact Option.map_id'.symm
  | some chosen => exact Table.get?_map s.periods (key_switchTo chosen) id'

end Store

end ProxyMesh
