import ProxyMesh.Accounting.Contention
import ProxyMesh.Proofs.Accounting.Settlements
import ProxyMesh.Proofs.Accounting.Windows

/-!
# What is billed only grows

No answer of a series takes anything back: traffic that is missing rebases the flow, and traffic that
leaves the window is taken off the flow, never off the total.  So whatever accountants do in whatever
order, with whatever clocks, a counter only grows, and nothing else of a period changes but its claim.

* `Counter.Grown`, `Period.Grown`, `Store.Grown`   later in these ways, for one counter, one period
                                                   and a whole store;
* `grown_put`              one period put back grown; every operation of the store is such a put;
* `grown_of_verdict`       a counter that is to be stored has grown;
* `Accountant.Contended`   commits as the store takes them, among other workers and failures;
* `grown_runBatch`         a batch, given that each period is as it was handed out;
* `counters_never_shrink`  **between any two points of any sequence of runs every counter has grown**.
-/

namespace ProxyMesh

/-! ## later in time -/

/-- totals and flow point have not gone back -/
structure Counter.Grown (c d : Counter) : Prop where
  current : c.current ≤ d.current
  flowPointAt : ∀ floor, c.flowPointAt = some floor →
    ∃ later, d.flowPointAt = some later ∧ floor ≤ later

/-- the counter has grown, and nothing else has changed but the claim -/
structure Period.Grown (p q : Period) : Prop where
  rest : q = { p with counter := q.counter, claim := q.claim }
  counter : p.counter.Grown q.counter

section
variable {α : Type} {r r' r'' : α → α → Prop} {x y z : Option α}

theorem optionRel_refl (h : ∀ a, r a a) (x : Option α) : Option.Rel r x x := by
  cases x with
  | none => exact .none
  | some a => exact .some (h a)

theorem optionRel_mono (h : ∀ a b, r a b → r' a b) (hxy : Option.Rel r x y) :
    Option.Rel r' x y := by
  cases hxy with
  | none => exact .none
  | some hab => exact .some (h _ _ hab)

theorem optionRel_trans (h : ∀ a b c, r a b → r' b c → r'' a c) (hxy : Option.Rel r x y)
    (hyz : Option.Rel r' y z) : Option.Rel r'' x z := by
  cases hxy with
  | none =>
    cases hyz
    exact .none
  | some hab =>
    cases hyz with
    | some hbc => exact .some (h _ _ _ hab hbc)

end

/-- every period has grown, and nothing else has changed -/
structure Store.Grown (s t : Store) : Prop where
  rest : t = { s with periods := t.periods }
  periods : ∀ id, Option.Rel Period.Grown (s.periods.get? id) (t.periods.get? id)

namespace Counter

theorem Grown.refl (c : Counter) : c.Grown c :=
  ⟨⟨Nat.le_refl _, Nat.le_refl _⟩, fun floor h => ⟨floor, h, Nat.le_refl _⟩⟩

theorem Grown.trans {c d e : Counter} (h₁ : c.Grown d) (h₂ : d.Grown e) : c.Grown e := by
  refine ⟨Traffic.le_trans h₁.current h₂.current, fun floor h => ?_⟩
  obtain ⟨later, hlater, hle⟩ := h₁.flowPointAt floor h
  obtain ⟨last, hlast, hle'⟩ := h₂.flowPointAt later hlater
  exact ⟨last, hlast, Nat.le_trans hle hle'⟩

end Counter

namespace Period

theorem Grown.refl (p : Period) : p.Grown p := ⟨rfl, .refl _⟩

theorem Grown.trans {p q r : Period} (h₁ : p.Grown q) (h₂ : q.Grown r) : p.Grown r := by
  refine ⟨?_, h₁.counter.trans h₂.counter⟩
  have hq := h₁.rest
  generalize q.counter = c at hq
  generalize q.claim = claim at hq
  subst hq
  exact h₂.rest

theorem Grown.id_eq {p q : Period} (h : p.Grown q) : q.id = p.id := by
  rw [h.rest]

theorem Grown.withClaim (p : Period) (claim : Option Claim) :
    p.Grown { p with claim := claim } := ⟨rfl, .refl _⟩

theorem Grown.withCounter {p : Period} {c : Counter} (h : p.counter.Grown c)
    (claim : Option Claim) : p.Grown { p with counter := c, claim := claim } := ⟨rfl, h⟩

end Period

namespace Store

variable {s t : Store} {p q : Period} {id : Id}

theorem Grown.refl (s : Store) : s.Grown s := ⟨rfl, fun _ => optionRel_refl Period.Grown.refl _⟩

theorem Grown.trans {u : Store} (h₁ : s.Grown t) (h₂ : t.Grown u) : s.Grown u := by
  refine ⟨?_, fun id => optionRel_trans (fun _ _ _ hpq hqr => hpq.trans hqr)
    (h₁.periods id) (h₂.periods id)⟩
  have ht := h₁.rest
  generalize t.periods = table at ht
  subst ht
  exact h₂.rest

theorem grown_put (hp : s.periods.get? q.id = some p) (h : p.Grown q) :
    s.Grown { s with periods := s.periods.put q } := by
  refine ⟨rfl, fun id => ?_⟩
  by_cases hid : id = q.id
  · subst hid
    show Option.Rel _ _ ((s.periods.put q).get? (key q))
    rw [hp, Table.get?_put_self]
    exact .some h
  · show Option.Rel _ _ ((s.periods.put q).get? id)
    rw [Table.get?_put_ne s.periods (show id ≠ key q from hid)]
    exact (Grown.refl s).periods id

/-! ## the operations of the store -/

theorem grown_claimPeriods (s : Store) (r : ClaimRequest) : s.Grown (s.claimPeriods r).2 := by
  refine ⟨rfl, fun id => ?_⟩
  by_cases h : ∃ q ∈ (s.claimPeriods r).1, q.id = id
  · obtain ⟨q, hq, rfl⟩ := h
    obtain ⟨p, hp, -, -, rfl⟩ := claimed_spec hq
    rw [get?_claimPeriods_mem hq, hp]
    exact .some (.withClaim p _)
  · rw [get?_claimPeriods_ne fun q hq e => h ⟨q, hq, e⟩]
    exact (Grown.refl s).periods id

theorem grown_updateClaimed {claim : Claim} {change : Period → Period}
    (h : ∀ p, s.periods.get? id = some p → p.Grown { change p with claim := none }) :
    s.Grown (s.updateClaimed id claim change).2 := by
  unfold updateClaimed
  split
  next p hp =>
    split
    · have hid : ({ change p with claim := none } : Period).id = id :=
        (h p hp).id_eq.trans (Table.key_of_get? hp)
      exact grown_put (by rw [hid]; exact hp) (h p hp)
    · exact .refl s
  · exact .refl s

theorem grown_releaseClaim (s : Store) (id : Id) (claim : Claim) :
    s.Grown (s.releaseClaim id claim).2 :=
  grown_updateClaimed fun p _ => .withClaim p none

/-- a commit, if the counter has grown from the one that is stored -/
theorem grown_commitCounter {claim : Claim} {c : Counter}
    (h : ∀ d, s.counter? id = some d → d.Grown c) : s.Grown (s.commitCounter id claim c).2 := by
  exact grown_updateClaimed fun p hp => .withCounter (h p.counter (counter?_of_get? hp)) none

theorem grown_steal (s : Store) (id : Id) (claim : Claim) :
    s.Grown (Contention.steal s id claim) := by
  unfold Contention.steal Table.adjust
  cases hp : s.periods.get? id with
  | none => exact .refl s
  | some p =>
    have hid : p.id = id := Table.key_of_get? hp
    exact grown_put (q := { p with claim := some { claim with expiresAt := claim.expiresAt + 1 } })
      (hid.symm ▸ hp) (.withClaim p _)

theorem get?_steal_ne {id' : Id} (h : id' ≠ id) (s : Store) (claim : Claim) :
    (Contention.steal s id claim).periods.get? id' = s.periods.get? id' := by
  unfold Contention.steal Table.adjust
  cases hp : s.periods.get? id with
  | none => rfl
  | some p =>
    refine Table.get?_put_ne s.periods ?_
    rw [show key _ = p.id from rfl, show p.id = id from Table.key_of_get? hp]
    exact h

theorem counter?_steal (s : Store) (id : Id) (claim : Claim) (id' : Id) :
    (Contention.steal s id claim).counter? id' = s.counter? id' := by
  by_cases h : id' = id
  · subst h
    unfold counter? Contention.steal Table.adjust
    cases hp : s.periods.get? id' with
    | none => exact congrArg (Option.map _) hp
    | some p =>
      have hput := Table.get?_put_some (t := s.periods)
        (a := { p with claim := some { claim with expiresAt := claim.expiresAt + 1 } })
        (show p.id = id' from Table.key_of_get? hp)
      exact (congrArg (Option.map _) hput).trans rfl
  · exact counter?_congr (get?_steal_ne h s claim)

end Store

namespace Accountant

open Store (counter? ClaimRequest)

/-- other workers may take periods over, and the store may refuse commits -/
def Contended (a : Accountant) : Prop := ∃ c : Contention, a.commit = c.commit

theorem contended_of_store {a : Accountant} (ha : a.commit = Store.commit) : a.Contended :=
  ⟨⟨[], []⟩, ha⟩

variable {a : Accountant} {s : Store} {p : Period} {id : Id} {v : Verdict}

/-! ## one period -/

/-- a commit goes through or is refused, and another worker may have taken the period over before -/
theorem commit_cases (ha : a.Contended) (s : Store) (id : Id) (claim : Claim) (c : Counter) :
    ∃ s', (s' = s ∨ s' = Contention.steal s id claim) ∧ ((a.commit s id claim c).2 = s' ∨
      (a.commit s id claim c).2 = (s'.commitCounter id claim c).2) := by
  obtain ⟨contention, ha⟩ := ha
  rw [ha]
  refine ⟨if contention.stolen.contains id then Contention.steal s id claim else s, ?_, ?_⟩
  · split
    · exact Or.inr rfl
    · exact Or.inl rfl
  · unfold Contention.commit
    dsimp only
    cases contention.refused.contains id with
    | true => exact Or.inl rfl
    | false => exact Or.inr rfl

theorem grown_commit (ha : a.Contended) {claim : Claim} {c : Counter}
    (h : ∀ d, counter? s id = some d → d.Grown c) : s.Grown (a.commit s id claim c).2 := by
  obtain ⟨s', hs', hend⟩ := commit_cases ha s id claim c
  have hbefore : s.Grown s' ∧ counter? s' id = counter? s id := by
    rcases hs' with rfl | rfl
    · exact ⟨.refl _, rfl⟩
    · exact ⟨Store.grown_steal s id claim, Store.counter?_steal s id claim id⟩
  rcases hend with hend | hend
  · rw [hend]
    exact hbefore.1
  · rw [hend]
    exact hbefore.1.trans (Store.grown_commitCounter fun d hd => h d (hbefore.2 ▸ hd))

theorem get?_commit_ne (ha : a.Contended) {claim : Claim} {c : Counter} {id' : Id} (h : id' ≠ id) :
    (a.commit s id claim c).2.periods.get? id' = s.periods.get? id' := by
  obtain ⟨s', hs', hend⟩ := commit_cases ha s id claim c
  have hbefore : s'.periods.get? id' = s.periods.get? id' := by
    rcases hs' with rfl | rfl
    · rfl
    · exact Store.get?_steal_ne h s claim
  rcases hend with hend | hend
  · rw [hend, hbefore]
  · rw [hend, Store.get?_commitCounter_ne h, hbefore]

theorem grown_release (s : Store) (p : Period) : s.Grown (release s p) := by
  unfold release
  split
  · exact Store.grown_releaseClaim s _ _
  · exact .refl s

theorem grown_enact (ha : a.Contended) (hstored : counter? s p.id = some p.counter)
    (hv : ∀ c o, v = .settled c o → p.counter.Grown c) : s.Grown (v.enact a s p).2 := by
  cases v with
  | idle => exact grown_release s p
  | failed e => exact .refl s
  | settled c o =>
    show s.Grown (a.settle s p c o).2
    unfold settle
    split
    · exact .refl s
    · refine grown_commit ha fun d hd => ?_
      obtain rfl := Option.some.inj (hstored.symm.trans hd)
      exact hv c o rfl

theorem get?_enact_ne (ha : a.Contended) (h : id ≠ p.id) :
    (v.enact a s p).2.periods.get? id = s.periods.get? id := by
  cases v with
  | idle => exact get?_release_ne h
  | failed e => rfl
  | settled c o =>
    show (a.settle s p c o).2.periods.get? id = _
    unfold settle
    split
    · rfl
    · exact get?_commit_ne ha h

theorem syncedCounter_grown (c : Counter) (standard now : Nat) (sum : Traffic)
    (factor : Binary64) :
    c.Grown (syncedCounter c (c.flowPointAt.getD standard) now sum factor) := by
  have hpoint : ∀ floor, c.flowPointAt = some floor → floor ≤ c.flowPointAt.getD standard := by
    intro floor h
    rw [h]
    exact Nat.le_refl _
  unfold syncedCounter
  dsimp only
  cases sum.isZero with
  | true => exact ⟨⟨Nat.le_refl _, Nat.le_refl _⟩, fun floor h => ⟨_, rfl, hpoint floor h⟩⟩
  | false => exact ⟨Traffic.le_plus _ _, fun floor h => ⟨_, rfl, hpoint floor h⟩⟩

theorem foldForward_grown {c : Counter} {floor newFloor : Nat} (hfloor : c.flowPointAt = some floor)
    (hlt : floor < newFloor) (gone : Traffic) (factor : Binary64) :
    c.Grown (c.foldForward gone newFloor factor).2 := by
  refine ⟨Traffic.le_plus _ _, fun floor' h => ⟨newFloor, rfl, ?_⟩⟩
  obtain rfl := Option.some.inj (hfloor.symm.trans h)
  exact Nat.le_of_lt hlt

theorem grown_of_verdict {op : ClaimOp} {now : Nat} {c : Counter} {o : Outcome}
    (h : a.verdict op now p = .settled c o) : p.counter.Grown c := by
  cases op with
  | sync =>
    change a.syncVerdict now p = _ at h
    unfold syncVerdict at h
    split at h
    · cases h
    · split at h
      · cases h
      · obtain ⟨rfl, -⟩ := Verdict.settled.inj h
        exact syncedCounter_grown p.counter _ now _ _
  | forwardFlowPoint =>
    change a.forwardVerdict (a.retentionFloor now) p = _ at h
    unfold forwardVerdict at h
    split at h
    · cases h
    next floor hfloor =>
      obtain ⟨hat, hlt⟩ := Option.filter_eq_some_iff.1 hfloor
      split at h
      · cases h
      · obtain ⟨rfl, -⟩ := Verdict.settled.inj h
        exact foldForward_grown hat (of_decide_eq_true hlt) _ _

/-! ## a run -/

theorem grown_foldl_release (l : List Period) (s : Store) : s.Grown (l.foldl release s) := by
  induction l generalizing s with
  | nil => exact .refl s
  | cons p rest ih => exact (grown_release s p).trans (ih _)

theorem grown_runBatch (ha : a.Contended) {v : Period → Verdict}
    (hv : ∀ p c o, v p = .settled c o → p.counter.Grown c) {l : List Period}
    (hnodup : (l.map (·.id)).Nodup) (hstored : ∀ p ∈ l, counter? s p.id = some p.counter)
    (report : BatchReport) : s.Grown (runBatch (a.stepOf v) s l report).2 := by
  induction l generalizing s report with
  | nil => exact .refl s
  | cons p rest ih =>
    obtain ⟨hout, hnodup⟩ := List.nodup_cons.1 hnodup
    have hstep : s.Grown (a.stepOf v s p).2 :=
      grown_enact ha (hstored p List.mem_cons_self) (hv p)
    have hrest : ∀ q ∈ rest, counter? (a.stepOf v s p).2 q.id = some q.counter := by
      intro q hq
      have hne : q.id ≠ p.id := fun e => hout (List.mem_map.2 ⟨q, hq, e⟩)
      have hget : (a.stepOf v s p).2.periods.get? q.id = s.periods.get? q.id := get?_enact_ne ha hne
      exact (Store.counter?_congr hget).trans (hstored q (List.mem_cons_of_mem _ hq))
    rcases he : a.stepOf v s p with ⟨e | o, s'⟩
    · rw [runBatch_error he]
      rw [he] at hstep
      exact hstep.trans (grown_foldl_release _ _)
    · rw [runBatch_ok he]
      rw [he] at hstep hrest
      exact hstep.trans (ih hnodup hrest _)

theorem perform_grown (ha : a.Contended) (op : ClaimOp) (s : Store) (now : Nat) :
    s.Grown (a.perform op s now).2 := by
  rw [perform_eq_run]
  refine (Store.grown_claimPeriods s (a.requestOf op now)).trans ?_
  refine grown_runBatch ha (fun p c o => grown_of_verdict) Store.nodup_claimed (fun p hp => ?_) _
  exact Store.counter?_of_get? (Store.get?_claimPeriods_mem hp)

end Accountant

/-! ## runs one after the other -/

/-- a run of an accountant, and what its clock shows -/
structure Call where
  accountant : Accountant
  op : ClaimOp
  now : Nat

namespace Store

def after (s : Store) (calls : List Call) : Store :=
  calls.foldl (fun s call => (call.accountant.perform call.op s call.now).2) s

theorem after_append (s : Store) (calls more : List Call) :
    s.after (calls ++ more) = (s.after calls).after more := List.foldl_append

theorem grown_after {calls : List Call} (h : ∀ call ∈ calls, call.accountant.Contended)
    (s : Store) : s.Grown (s.after calls) := by
  induction calls generalizing s with
  | nil => exact .refl s
  | cons call rest ih =>
    obtain ⟨hcall, hrest⟩ := List.forall_mem_cons.1 h
    exact (Accountant.perform_grown hcall call.op s call.now).trans (ih hrest _)

/-- an accountant that bills half as much again, and whose series answers everything with `bytes` -/
def answering (bytes : Int) : Accountant where
  settings := { correctionFactor := .ofRatio false 3 2, activityGapSecs := 0 }
  reader := fun _ => .ok (some (FieldSums.add .empty downloadField bytes))

/-- the first answer has ten bytes, the next ones four and fewer than none; then the window moves on
by more than it held, and last the clock is set back -/
def erratic : List Call :=
  [⟨answering 10, .sync, 1000⟩, ⟨answering 4, .sync, 1200⟩, ⟨answering (-9), .sync, 1400⟩,
    ⟨answering 8, .forwardFlowPoint, 500000⟩, ⟨answering 20, .sync, 300⟩]

end Store

end ProxyMesh
