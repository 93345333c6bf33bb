import ProxyMesh.Accounting.Run
import ProxyMesh.Proofs.Store.Periods

/-!
# What a batch does to one counter

A batch settles each of its periods once, and each step looks after its own period.  So for one period
a whole run is either nothing or one step, taken while the store still has the period as it was
handed out.

* `counter?`              the counter of a period in the store;
* `Local`                 a step leaves every period but its own alone;
* `settledBy`             the periods of a batch whose counters it stores;
* `run_effect`            **a run is nothing or one step for a period**;
* `syncOne_effect`, `forwardOne_effect`   what such a step makes of the counter;
* `committedBy`           the periods whose counters a sync commits.
-/

namespace ProxyMesh

def Store.counter? (s : Store) (id : Id) : Option Counter := (s.periods.get? id).map (·.counter)

theorem Store.counter?_of_get? {s : Store} {id : Id} {p : Period} (h : s.periods.get? id = some p) :
    s.counter? id = some p.counter :=
  congrArg (Option.map Period.counter) h

theorem Store.counter?_congr {s s' : Store} {id : Id} (h : s'.periods.get? id = s.periods.get? id) :
    s'.counter? id = s.counter? id :=
  congrArg (Option.map Period.counter) h

namespace Accountant

open Store (counter? ClaimRequest)

/-- the treatment of one claimed period -/
abbrev PeriodStep := Store → Period → Except AccountingError Outcome × Store

def Local (step : PeriodStep) : Prop :=
  ∀ s p id, id ≠ p.id → (step s p).2.periods.get? id = s.periods.get? id

/-- the periods of a batch that are reached and whose counters are stored -/
def settledBy (stores : Period → Outcome → Bool) (step : PeriodStep) : Store → List Period → List Id
  | _, [] => []
  | s, p :: rest =>
    match step s p with
    | (.ok o, s) => (if stores p o then [p.id] else []) ++ settledBy stores step s rest
    | (.error _, _) => []

variable {a : Accountant} {s : Store} {p : Period} {id : Id} {step : PeriodStep}
  {stores : Period → Outcome → Bool}

/-! ## claims given back -/

theorem get?_release_ne (h : id ≠ p.id) : (release s p).periods.get? id = s.periods.get? id := by
  unfold release
  split
  · exact Store.get?_releaseClaim_ne h
  · rfl

theorem counter?_release (s : Store) (p : Period) (id : Id) :
    counter? (release s p) id = counter? s id := by
  by_cases hid : id = p.id
  · subst hid
    unfold release
    split
    next c _ =>
      cases ha : (s.releaseClaim p.id c).1 with
      | false => rw [Store.releaseClaim_rejected ha]
      | true =>
        obtain ⟨q, hq, hqc⟩ := Store.releaseClaim_eq_true.1 ha
        unfold counter?
        rw [Store.get?_releaseClaim_self hq hqc, hq]
        rfl
    · rfl
  · exact Store.counter?_congr (get?_release_ne hid)

theorem counter?_foldl_release (l : List Period) (s : Store) (id : Id) :
    counter? (l.foldl release s) id = counter? s id := by
  induction l generalizing s with
  | nil => rfl
  | cons p rest ih => rw [List.foldl_cons, ih, counter?_release]

/-! ## a batch -/

section
variable {s' : Store} {rest : List Period} {report : BatchReport}

theorem runBatch_ok {o : Outcome} (he : step s p = (.ok o, s')) :
    runBatch step s (p :: rest) report = runBatch step s' rest (report.record o) := by
  simp only [runBatch, he]

theorem runBatch_error {e : AccountingError} (he : step s p = (.error e, s')) :
    runBatch step s (p :: rest) report = (.error e, (p :: rest).foldl release s') := by
  simp only [runBatch, he]

theorem settledBy_ok {o : Outcome} (he : step s p = (.ok o, s')) :
    settledBy stores step s (p :: rest) =
      (if stores p o then [p.id] else []) ++ settledBy stores step s' rest := by
  simp only [settledBy, he]

theorem settledBy_error {e : AccountingError} (he : step s p = (.error e, s')) :
    settledBy stores step s (p :: rest) = [] := by
  simp only [settledBy, he]

theorem mem_ite_singleton {q : Id} {b : Bool} :
    id ∈ (if b then [q] else []) ↔ b = true ∧ id = q := by
  cases b <;> simp

end

theorem counter?_runBatch_ne (hl : Local step) {l : List Period} (h : ∀ p ∈ l, p.id ≠ id)
    (s : Store) (report : BatchReport) :
    counter? (runBatch step s l report).2 id = counter? s id := by
  induction l generalizing s report with
  | nil => rfl
  | cons p rest ih =>
    have hp : counter? (step s p).2 id = counter? s id :=
      Store.counter?_congr (hl s p id (h p List.mem_cons_self).symm)
    rcases he : step s p with ⟨e | o, s'⟩
    · rw [runBatch_error he, ← hp, he]
      exact counter?_foldl_release _ _ _
    · rw [runBatch_ok he, ih fun q hq => h q (List.mem_cons_of_mem _ hq), ← hp, he]

theorem not_mem_settledBy {l : List Period} (h : ∀ p ∈ l, p.id ≠ id) (s : Store) :
    id ∉ settledBy stores step s l := by
  induction l generalizing s with
  | nil => exact List.not_mem_nil
  | cons p rest ih =>
    rcases he : step s p with ⟨e | o, s'⟩
    · rw [settledBy_error he]
      exact List.not_mem_nil
    · rw [settledBy_ok he, List.mem_append, mem_ite_singleton]
      rintro (⟨-, hid⟩ | hmem)
      · exact h p List.mem_cons_self hid.symm
      · exact ih (fun q hq => h q (List.mem_cons_of_mem _ hq)) s' hmem

/-- a period's own step; whatever comes after it leaves the period alone -/
theorem runBatch_head (hl : Local step) {rest : List Period} (hout : ∀ q ∈ rest, q.id ≠ p.id)
    (s : Store) (report : BatchReport) :
    counter? (runBatch step s (p :: rest) report).2 p.id = counter? (step s p).2 p.id ∧
      (p.id ∈ settledBy stores step s (p :: rest) ↔
        ∃ o, (step s p).1 = .ok o ∧ stores p o = true) := by
  rcases he : step s p with ⟨e | o, s'⟩
  · rw [runBatch_error he, settledBy_error he]
    refine ⟨counter?_foldl_release _ _ _, fun hmem => absurd hmem List.not_mem_nil, ?_⟩
    rintro ⟨o, ho, -⟩
    cases ho
  · rw [runBatch_ok he, settledBy_ok he, List.mem_append, mem_ite_singleton]
    refine ⟨counter?_runBatch_ne hl hout _ _, ?_, ?_⟩
    · rintro (⟨hs, -⟩ | hmem)
      · exact ⟨o, rfl, hs⟩
      · exact absurd hmem (not_mem_settledBy hout s')
    · rintro ⟨o', ho, hs⟩
      obtain rfl := Except.ok.inj ho
      exact Or.inl ⟨hs, rfl⟩

/-- for a period of the batch: it is not reached, or the batch is one step for it -/
theorem runBatch_effect (stores : Period → Outcome → Bool) (hl : Local step) {l : List Period}
    (hnodup : (l.map (·.id)).Nodup) (hp : p ∈ l) (s : Store) (report : BatchReport) :
    (counter? (runBatch step s l report).2 p.id = counter? s p.id ∧
        p.id ∉ settledBy stores step s l) ∨
      ∃ s₁, s₁.periods.get? p.id = s.periods.get? p.id ∧
        counter? (runBatch step s l report).2 p.id = counter? (step s₁ p).2 p.id ∧
        (p.id ∈ settledBy stores step s l ↔
          ∃ o, (step s₁ p).1 = .ok o ∧ stores p o = true) := by
  induction l generalizing s report with
  | nil => cases hp
  | cons q rest ih =>
    obtain ⟨hq, hrest⟩ := List.nodup_cons.1 hnodup
    have hout : ∀ q' ∈ rest, q'.id ≠ q.id := fun q' hq' e => hq (List.mem_map.2 ⟨q', hq', e⟩)
    rcases List.mem_cons.1 hp with rfl | hp
    · exact Or.inr ⟨s, rfl, runBatch_head hl hout s report⟩
    · have hne : p.id ≠ q.id := hout p hp
      have hget : (step s q).2.periods.get? p.id = s.periods.get? p.id := hl s q p.id hne
      have hsame : counter? (step s q).2 p.id = counter? s p.id := Store.counter?_congr hget
      rcases he : step s q with ⟨e | o, s'⟩
      · rw [he] at hsame
        rw [runBatch_error he, settledBy_error he]
        exact Or.inl ⟨(counter?_foldl_release _ _ _).trans hsame, List.not_mem_nil⟩
      · rw [he] at hget hsame
        have hmem : p.id ∈ settledBy stores step s (q :: rest) ↔
            p.id ∈ settledBy stores step s' rest := by
          rw [settledBy_ok he, List.mem_append, mem_ite_singleton]
          exact ⟨fun h => h.resolve_left fun h => hne h.2, Or.inr⟩
        rw [runBatch_ok he, hmem]
        rcases ih hrest hp s' (report.record o) with ⟨hc, hn⟩ | ⟨s₁, hs₁, hc, hset⟩
        · exact Or.inl ⟨hc.trans hsame, hn⟩
        · exact Or.inr ⟨s₁, hs₁.trans hget, hc, hset⟩

/-- **for one period a run is nothing, or one step on the period as it was handed out** -/
theorem run_effect (stores : Period → Outcome → Bool) (hl : Local step) (request : ClaimRequest)
    {c : Counter} (hc : counter? s id = some c) :
    (counter? (run s request step).2 id = some c ∧
        id ∉ settledBy stores step (s.claimPeriods request).2 (s.claimPeriods request).1) ∨
      ∃ p s₁, p.id = id ∧ p.counter = c ∧ p.claim = some request.claim ∧
        s₁.periods.get? p.id = some p ∧
        counter? (run s request step).2 id = counter? (step s₁ p).2 p.id ∧
        (id ∈ settledBy stores step (s.claimPeriods request).2 (s.claimPeriods request).1 ↔
          ∃ o, (step s₁ p).1 = .ok o ∧ stores p o = true) := by
  have hclaimed : counter? (s.claimPeriods request).2 id = some c :=
    Store.counter_claimPeriods.trans hc
  by_cases h : ∃ p ∈ (s.claimPeriods request).1, p.id = id
  · obtain ⟨p, hp, rfl⟩ := h
    have hget := Store.get?_claimPeriods_mem hp
    have hcnt : p.counter = c := Option.some.inj ((Store.counter?_of_get? hget).symm.trans hclaimed)
    obtain ⟨p₀, -, -, -, hp₀⟩ := Store.claimed_spec hp
    rcases runBatch_effect stores hl Store.nodup_claimed hp (s.claimPeriods request).2
      (.ofClaimed (s.claimPeriods request).1.length) with ⟨hsame, hn⟩ | ⟨s₁, hs₁, hstep, hset⟩
    · exact Or.inl ⟨hsame.trans hclaimed, hn⟩
    · exact Or.inr ⟨p, s₁, rfl, hcnt, by rw [hp₀], hs₁.trans hget, hstep, hset⟩
  · have hout : ∀ p ∈ (s.claimPeriods request).1, p.id ≠ id := fun p hp e => h ⟨p, hp, e⟩
    exact Or.inl ⟨(counter?_runBatch_ne hl hout _ _).trans hclaimed, not_mem_settledBy hout _⟩

/-! ## one period settled -/

section
variable {claim : Claim} {c : Counter} {o : Outcome}

theorem get?_settle_ne (ha : a.commit = Store.commit) (h : id ≠ p.id) :
    (a.settle s p c o).2.periods.get? id = s.periods.get? id := by
  unfold settle
  rw [ha]
  split
  · rfl
  · exact Store.get?_commitCounter_ne h

theorem settle_held (ha : a.commit = Store.commit) (hp : s.periods.get? p.id = some p)
    (hc : p.claim = some claim) :
    (a.settle s p c o).1 = .ok o ∧ counter? (a.settle s p c o).2 p.id = some c := by
  have hdone : (s.commitCounter p.id claim c).1 = true :=
    Store.commitCounter_eq_true.2 ⟨p, hp, hc⟩
  unfold settle
  rw [ha, hc]
  refine ⟨?_, ?_⟩
  · show Except.ok (if (s.commitCounter p.id claim c).1 = true then o else .lost) = _
    rw [hdone]
    rfl
  · show counter? (s.commitCounter p.id claim c).2 p.id = _
    exact Store.counter?_of_get? (Store.get?_commitCounter_self hp hc)

end

/-! ## a sync -/

/-- the counter after a sync whose window begins at `floor` and holds `sum` -/
def syncedCounter (c : Counter) (floor now : Nat) (sum : Traffic) (factor : Binary64) : Counter :=
  let c := { c with flowPointAt := some floor, lastFlowSyncAt := some now }
  if sum.isZero then c else (c.foldSync sum factor).2

theorem lastFlowSyncAt_syncedCounter (c : Counter) (floor now : Nat) (sum : Traffic)
    (factor : Binary64) : (syncedCounter c floor now sum factor).lastFlowSyncAt = some now := by
  unfold syncedCounter
  dsimp only
  cases sum.isZero <;> rfl

/-- the sync of `p` ends in a commit that is not lost -/
def storesSync (a : Accountant) (now : Nat) (p : Period) (o : Outcome) : Bool :=
  decide (a.syncFloor now p < now) && o != .lost

def syncRequest (a : Accountant) (now : Nat) : ClaimRequest :=
  a.request .sync now (syncDue · a.settings.activityGapSecs) (·.counter.lastFlowSyncAt)

/-- the periods whose counters a sync commits -/
def committedBy (a : Accountant) (s : Store) (now : Nat) : List Id :=
  settledBy (a.storesSync now) (a.syncOne now) (s.claimPeriods (a.syncRequest now)).2
    (s.claimPeriods (a.syncRequest now)).1

theorem sync_eq_run (a : Accountant) (s : Store) (now : Nat) :
    a.sync s now = run s (a.syncRequest now) (a.syncOne now) := rfl

section
variable {now : Nat}

theorem syncOne_early (h : now ≤ a.syncFloor now p) :
    a.syncOne now s p = (.ok .skipped, release s p) := by
  unfold syncOne
  exact if_pos h

theorem syncOne_failed (h : a.syncFloor now p < now) {e : AccountingError}
    (he : a.traffic p.id (a.syncFloor now p) now = .error e) :
    a.syncOne now s p = (.error e, s) := by
  unfold syncOne
  dsimp only
  rw [if_neg (Nat.not_le_of_lt h), he]

/-- a sync that gets its answer stores the counter, whether there was traffic or not -/
theorem syncOne_settled (h : a.syncFloor now p < now) {sum : Traffic}
    (hsum : a.traffic p.id (a.syncFloor now p) now = .ok sum) :
    ∃ o, o ≠ .lost ∧ a.syncOne now s p = a.settle s p
      (syncedCounter p.counter (a.syncFloor now p) now sum a.settings.correctionFactor) o := by
  unfold syncOne syncedCounter
  dsimp only
  rw [if_neg (Nat.not_le_of_lt h), hsum]
  dsimp only
  cases sum.isZero with
  | true => exact ⟨.skipped, by simp, rfl⟩
  | false => exact ⟨.updated _, by simp, rfl⟩

theorem local_syncOne (ha : a.commit = Store.commit) (now : Nat) : Local (a.syncOne now) := by
  intro s p id hid
  rcases Nat.lt_or_ge (a.syncFloor now p) now with hlt | hle
  · cases hsum : a.traffic p.id (a.syncFloor now p) now with
    | error e => rw [syncOne_failed hlt hsum]
    | ok sum =>
      obtain ⟨o, -, e⟩ := syncOne_settled (s := s) hlt hsum
      rw [e]
      exact get?_settle_ne ha hid
  · rw [syncOne_early hle]
    exact get?_release_ne hid

theorem syncOne_effect (ha : a.commit = Store.commit) {claim : Claim}
    (hp : s.periods.get? p.id = some p) (hc : p.claim = some claim) :
    (counter? (a.syncOne now s p).2 p.id = some p.counter ∧
        ¬∃ o, (a.syncOne now s p).1 = .ok o ∧ a.storesSync now p o = true) ∨
      ∃ sum, a.syncFloor now p < now ∧ a.traffic p.id (a.syncFloor now p) now = .ok sum ∧
        (∃ o, (a.syncOne now s p).1 = .ok o ∧ a.storesSync now p o = true) ∧
        counter? (a.syncOne now s p).2 p.id =
          some (syncedCounter p.counter (a.syncFloor now p) now sum
            a.settings.correctionFactor) := by
  have hsame : counter? s p.id = some p.counter := Store.counter?_of_get? hp
  rcases Nat.lt_or_ge (a.syncFloor now p) now with hlt | hle
  · cases hsum : a.traffic p.id (a.syncFloor now p) now with
    | error e =>
      rw [syncOne_failed hlt hsum]
      refine Or.inl ⟨hsame, ?_⟩
      rintro ⟨o, ho, -⟩
      cases ho
    | ok sum =>
      obtain ⟨o, hne, e⟩ := syncOne_settled (s := s) hlt hsum
      rw [e]
      obtain ⟨hok, hcnt⟩ := settle_held (o := o) ha hp hc
      exact Or.inr ⟨sum, hlt, rfl, ⟨o, hok, by simp [storesSync, hlt, hne]⟩, hcnt⟩
  · rw [syncOne_early hle]
    refine Or.inl ⟨(counter?_release s p p.id).trans hsame, ?_⟩
    rintro ⟨o, -, hs⟩
    have hlt := of_decide_eq_true (Bool.and_eq_true_iff.1 hs).1
    omega

end

/-! ## a flow point moved -/

def forwardRequest (a : Accountant) (now : Nat) : ClaimRequest :=
  a.request .forwardFlowPoint now (forwardDue · (a.retentionFloor now)) (·.counter.flowPointAt)

theorem forward_eq_run (a : Accountant) (s : Store) (now : Nat) :
    a.forward s now = run s (a.forwardRequest now) (a.forwardOne (a.retentionFloor now)) := rfl

theorem local_forwardOne (ha : a.commit = Store.commit) (newFloor : Nat) :
    Local (a.forwardOne newFloor) := by
  intro s p id hid
  unfold forwardOne
  split
  · exact get?_release_ne hid
  · split
    · rfl
    · exact get?_settle_ne ha hid

theorem forwardOne_effect (ha : a.commit = Store.commit) {newFloor : Nat} {claim : Claim}
    (hp : s.periods.get? p.id = some p) (hc : p.claim = some claim) :
    counter? (a.forwardOne newFloor s p).2 p.id = some p.counter ∨
      ∃ floor gone, p.counter.flowPointAt = some floor ∧ floor < newFloor ∧
        a.traffic p.id floor newFloor = .ok gone ∧
        counter? (a.forwardOne newFloor s p).2 p.id =
          some (p.counter.foldForward gone newFloor a.settings.correctionFactor).2 := by
  have hsame : counter? s p.id = some p.counter := Store.counter?_of_get? hp
  unfold forwardOne
  split
  next _ => exact Or.inl ((counter?_release s p p.id).trans hsame)
  next floor hfloor =>
    obtain ⟨hat, hlt⟩ := Option.filter_eq_some_iff.1 hfloor
    split
    next e _ => exact Or.inl hsame
    next gone hgone =>
      exact Or.inr ⟨floor, gone, hat, of_decide_eq_true hlt, hgone, (settle_held ha hp hc).2⟩

end Accountant

end ProxyMesh
