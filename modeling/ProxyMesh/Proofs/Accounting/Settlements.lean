import ProxyMesh.Proofs.Accounting.Batches

/-!
# A batch gives every claim back

What a run does about one period is decided by the period and the answer of the series alone, before
the store is touched.  A run that nobody disturbs carries these verdicts out one after the other; the
first failure ends it, and the periods that are left become free with the counters that they had.

* `Verdict`                what the query for a claimed period comes to;
* `Accountant.verdict`     the verdict of a sync or a forward, `Accountant.perform` the run;
* `perform_eq_run`         a run carries out verdicts;
* `runBatch_settled`       periods before the first failure;
* `perform_gives_back`     **every claim is given back: before the first failure with the counters
                           that were folded, from it on with those from before the run**.
-/

namespace ProxyMesh

def Period.unclaimed (p : Period) : Period := { p with claim := none }

/-- what the query for one claimed period comes to -/
inductive Verdict where
  /-- there is no window to ask for -/
  | idle
  | failed (error : AccountingError)
  /-- a counter to be stored, and what is to be reported -/
  | settled (counter : Counter) (outcome : Outcome)
deriving DecidableEq, Repr

namespace Verdict

def answer : Verdict → Except AccountingError Outcome
  | .idle => .ok .skipped
  | .failed e => .error e
  | .settled _ o => .ok o

/-- the period as it is left -/
def record (p : Period) : Verdict → Period
  | .settled c _ => { p with counter := c, claim := none }
  | _ => p.unclaimed

/-- a verdict carried out -/
def enact (a : Accountant) (s : Store) (p : Period) :
    Verdict → Except AccountingError Outcome × Store
  | .idle => (.ok .skipped, Accountant.release s p)
  | .failed e => (.error e, s)
  | .settled c o => a.settle s p c o

theorem record_id (v : Verdict) (p : Period) : (v.record p).id = p.id := by
  cases v <;> rfl

theorem record_claim (v : Verdict) (p : Period) : (v.record p).claim = none := by
  cases v <;> rfl

end Verdict

namespace Accountant

open Store (ClaimRequest)

/-! ## verdicts -/

def syncVerdict (a : Accountant) (now : Nat) (p : Period) : Verdict :=
  if now ≤ a.syncFloor now p then .idle
  else match a.traffic p.id (a.syncFloor now p) now with
    | .error e => .failed e
    | .ok sum =>
      .settled (syncedCounter p.counter (a.syncFloor now p) now sum a.settings.correctionFactor)
        (if sum.isZero then .skipped
          else .updated (anomaly? .counterRegressed p (p.counter.flow.minus sum)))

theorem syncVerdict_settled {a : Accountant} {now : Nat} {p : Period} {sums : Option FieldSums}
    (h : a.syncFloor now p < now)
    (hsums : a.reader (usageQuery p.id (a.syncFloor now p) now) = .ok sums) :
    a.syncVerdict now p = .settled
      (syncedCounter p.counter (a.syncFloor now p) now (windowTraffic sums)
        a.settings.correctionFactor)
      (if (windowTraffic sums).isZero then .skipped
        else .updated
          (anomaly? .counterRegressed p (p.counter.flow.minus (windowTraffic sums)))) := by
  have htraffic : a.traffic p.id (a.syncFloor now p) now = .ok (windowTraffic sums) := by
    unfold traffic
    rw [hsums]
  unfold syncVerdict
  rw [if_neg (Nat.not_le_of_lt h), htraffic]

def forwardVerdict (a : Accountant) (newFloor : Nat) (p : Period) : Verdict :=
  match p.counter.flowPointAt.filter (· < newFloor) with
  | none => .idle
  | some floor =>
    match a.traffic p.id floor newFloor with
    | .error e => .failed e
    | .ok gone =>
      .settled (p.counter.foldForward gone newFloor a.settings.correctionFactor).2
        (.updated (anomaly? .negativeDelta p (gone.minus p.counter.flow)))

/-- what becomes of a period, given the answers of the series -/
def verdict (a : Accountant) (op : ClaimOp) (now : Nat) (p : Period) : Verdict :=
  match op with
  | .sync => a.syncVerdict now p
  | .forwardFlowPoint => a.forwardVerdict (a.retentionFloor now) p

/-- a run for either operation -/
def perform (a : Accountant) (op : ClaimOp) (s : Store) (now : Nat) :
    Except AccountingError BatchReport × Store :=
  match op with
  | .sync => a.sync s now
  | .forwardFlowPoint => a.forward s now

/-- the claims that a run asks for -/
def requestOf (a : Accountant) (op : ClaimOp) (now : Nat) : ClaimRequest :=
  match op with
  | .sync => a.syncRequest now
  | .forwardFlowPoint => a.forwardRequest now

/-- the treatment of one period by its verdict -/
def stepOf (a : Accountant) (v : Period → Verdict) : PeriodStep := fun s p => (v p).enact a s p

theorem syncOne_eq_enact (a : Accountant) (now : Nat) (s : Store) (p : Period) :
    a.syncOne now s p = (a.syncVerdict now p).enact a s p := by
  unfold syncOne syncVerdict syncedCounter
  dsimp only
  split
  · rfl
  · cases a.traffic p.id (a.syncFloor now p) now with
    | error e => rfl
    | ok sum =>
      dsimp only
      cases sum.isZero <;> rfl

theorem forwardOne_eq_enact (a : Accountant) (newFloor : Nat) (s : Store) (p : Period) :
    a.forwardOne newFloor s p = (a.forwardVerdict newFloor p).enact a s p := by
  unfold forwardOne forwardVerdict
  cases p.counter.flowPointAt.filter (· < newFloor) with
  | none => rfl
  | some floor =>
    dsimp only
    cases a.traffic p.id floor newFloor with
    | error e => rfl
    | ok gone => rfl

theorem perform_eq_run (a : Accountant) (op : ClaimOp) (s : Store) (now : Nat) :
    a.perform op s now = run s (a.requestOf op now) (a.stepOf (a.verdict op now)) := by
  cases op with
  | sync =>
    have hstep : a.syncOne now = a.stepOf (a.verdict .sync now) := by
      funext s p
      exact syncOne_eq_enact a now s p
    show a.sync s now = _
    rw [sync_eq_run, hstep]
    rfl
  | forwardFlowPoint =>
    have hstep : a.forwardOne (a.retentionFloor now) =
        a.stepOf (a.verdict .forwardFlowPoint now) := by
      funext s p
      exact forwardOne_eq_enact a (a.retentionFloor now) s p
    show a.forward s now = _
    rw [forward_eq_run, hstep]
    rfl

theorem limit_requestOf (a : Accountant) (op : ClaimOp) (now : Nat) :
    (a.requestOf op now).limit = a.settings.batchSize := by
  cases op <;> rfl

theorem verdict_withClaim (a : Accountant) (op : ClaimOp) (now : Nat) (p : Period)
    (claim : Option Claim) : a.verdict op now { p with claim := claim } = a.verdict op now p := by
  cases op <;> rfl

/-! ## a batch that nobody disturbs -/

/-- the periods are stored as they were handed out -/
def Held (s : Store) (l : List Period) : Prop :=
  ∀ p ∈ l, s.periods.get? p.id = some p ∧ ∃ claim, p.claim = some claim

section
variable {a : Accountant} {s : Store} {p : Period} {claim : Claim} {v : Period → Verdict}
  {l l' : List Period} {id : Id}

/-- the rest of a batch is still held when its first period is put back -/
theorem held_tail (h : Held s (p :: l)) (hnodup : ((p :: l).map (·.id)).Nodup) {q : Period}
    (hq : q.id = p.id) : Held (s.putPeriods [q]) l := by
  intro p' hp'
  have hne : ∀ q' ∈ [q], q'.id ≠ p'.id := by
    intro q' hq' e
    obtain rfl := List.mem_singleton.1 hq'
    exact (List.nodup_cons.1 hnodup).1 (List.mem_map.2 ⟨p', hp', e.symm.trans hq⟩)
  rw [Store.get?_putPeriods_ne hne]
  exact h p' (List.mem_cons_of_mem _ hp')

theorem release_held (hp : s.periods.get? p.id = some p) (hc : p.claim = some claim) :
    release s p = s.putPeriods [p.unclaimed] := by
  unfold release
  rw [hc]
  show (s.releaseClaim p.id claim).2 = _
  unfold Store.releaseClaim
  rw [Store.updateClaimed_accepted hp hc]
  rfl

theorem enact_held (ha : a.commit = Store.commit) (hp : s.periods.get? p.id = some p)
    (hc : p.claim = some claim) {w : Verdict} {o : Outcome} (ho : w.answer = .ok o) :
    w.enact a s p = (.ok o, s.putPeriods [w.record p]) := by
  cases w with
  | idle =>
    obtain rfl := Except.ok.inj ho
    show (_, release s p) = _
    rw [release_held hp hc]
    rfl
  | failed e => cases ho
  | settled c o' =>
    obtain rfl := Except.ok.inj ho
    show a.settle s p c o' = _
    unfold settle Store.commit at *
    rw [ha, hc]
    dsimp only
    unfold Store.commitCounter
    rw [Store.updateClaimed_accepted hp hc]
    rfl

theorem foldl_release_held (hheld : Held s l) (hnodup : (l.map (·.id)).Nodup) :
    l.foldl release s = s.putPeriods (l.map Period.unclaimed) := by
  induction l generalizing s with
  | nil => rfl
  | cons p rest ih =>
    obtain ⟨hp, claim, hc⟩ := hheld p List.mem_cons_self
    have hrest : Held (s.putPeriods [p.unclaimed]) rest := held_tail hheld hnodup rfl
    rw [List.foldl_cons, release_held hp hc, ih hrest (List.nodup_cons.1 hnodup).2]
    rfl

theorem runBatch_settled (ha : a.commit = Store.commit) {done rest : List Period}
    (hok : ∀ p ∈ done, ∃ o, (v p).answer = .ok o) (hheld : Held s (done ++ rest))
    (hnodup : ((done ++ rest).map (·.id)).Nodup) (report : BatchReport) :
    ∃ report', runBatch (a.stepOf v) s (done ++ rest) report =
        runBatch (a.stepOf v) (s.putPeriods (done.map fun p => (v p).record p)) rest report' ∧
      Held (s.putPeriods (done.map fun p => (v p).record p)) rest := by
  induction done generalizing s report with
  | nil => exact ⟨report, rfl, hheld⟩
  | cons p done ih =>
    obtain ⟨hp, claim, hc⟩ := hheld p List.mem_cons_self
    obtain ⟨o, ho⟩ := hok p List.mem_cons_self
    have hrest : Held (s.putPeriods [(v p).record p]) (done ++ rest) :=
      held_tail hheld hnodup (Verdict.record_id (v p) p)
    rw [List.cons_append, runBatch_ok (enact_held ha hp hc ho)]
    exact ih (fun q hq => hok q (List.mem_cons_of_mem _ hq)) hrest (List.nodup_cons.1 hnodup).2 _

theorem runBatch_all_settled (ha : a.commit = Store.commit) (hok : ∀ p ∈ l, ∃ o, (v p).answer = .ok o)
    (hheld : Held s l) (hnodup : (l.map (·.id)).Nodup) (report : BatchReport) :
    ∃ r, runBatch (a.stepOf v) s l report =
      (.ok r, s.putPeriods (l.map fun p => (v p).record p)) := by
  have hnil : l ++ [] = l := List.append_nil l
  obtain ⟨r, hr, -⟩ := runBatch_settled ha hok (hnil.symm ▸ hheld) (hnil.symm ▸ hnodup) report
  rw [hnil] at hr
  exact ⟨r, hr⟩

theorem runBatch_fails (ha : a.commit = Store.commit) {done rest : List Period}
    (hok : ∀ p ∈ done, ∃ o, (v p).answer = .ok o) {e : AccountingError} (hfail : v p = .failed e)
    (hheld : Held s (done ++ p :: rest)) (hnodup : ((done ++ p :: rest).map (·.id)).Nodup)
    (report : BatchReport) :
    runBatch (a.stepOf v) s (done ++ p :: rest) report =
      (.error e, s.putPeriods ((done.map fun q => (v q).record q) ++
        (p :: rest).map Period.unclaimed)) := by
  obtain ⟨report', hrun, hheld'⟩ := runBatch_settled ha hok hheld hnodup report
  have hstep : ∀ s', a.stepOf v s' p = (.error e, s') := by
    intro s'
    unfold stepOf
    rw [hfail]
    rfl
  have hnodup' : ((p :: rest).map (·.id)).Nodup := by
    rw [List.map_append] at hnodup
    exact (List.nodup_append.1 hnodup).2.1
  rw [hrun, runBatch_error (hstep _), foldl_release_held hheld' hnodup', Store.putPeriods_append]

end

/-! ## what is reported -/

theorem runBatch_counts {step : PeriodStep} {l : List Period} {s : Store} {report r : BatchReport}
    (h : (runBatch step s l report).1 = .ok r) :
    r.claimed = report.claimed ∧ r.updated + r.skipped + r.lost =
      report.updated + report.skipped + report.lost + l.length := by
  induction l generalizing s report with
  | nil =>
    obtain rfl := Except.ok.inj h
    exact ⟨rfl, rfl⟩
  | cons p rest ih =>
    rcases he : step s p with ⟨e | o, s'⟩
    · rw [runBatch_error he] at h
      cases h
    · rw [runBatch_ok he] at h
      obtain ⟨hclaimed, hcount⟩ := ih h
      rw [hclaimed, hcount, List.length_cons]
      cases o <;> exact ⟨rfl, by simp only [BatchReport.record]; omega⟩

/-! ## a run -/

section
variable {a : Accountant} {s : Store} {op : ClaimOp} {now : Nat}

/-- the periods that a run claims, as they are before it -/
def batchOf (a : Accountant) (op : ClaimOp) (s : Store) (now : Nat) : List Period :=
  s.claimable (a.requestOf op now)

/-- a period as a run claims it -/
def stamped (a : Accountant) (op : ClaimOp) (now : Nat) (p : Period) : Period :=
  { p with claim := some (a.requestOf op now).claim }

/-- the store when the periods are claimed -/
def claimedStore (a : Accountant) (op : ClaimOp) (s : Store) (now : Nat) : Store :=
  s.putPeriods ((a.batchOf op s now).map (a.stamped op now))

theorem length_batchOf_le : (a.batchOf op s now).length ≤ a.settings.batchSize := by
  rw [← limit_requestOf a op now]
  exact List.length_take_le _ _

theorem nodup_batchOf : ((a.batchOf op s now).map (·.id)).Nodup := Store.nodup_claimable

/-- due periods that are in order already, and not too many, are claimed as they are -/
theorem batchOf_of_sorted {l : List Period}
    (hdue : (s.periods.records.filter fun p =>
      !p.isClaimed (a.requestOf op now).now && (a.requestOf op now).due p) = l)
    (hsorted : l.Pairwise fun p q => Store.claimedFirst (a.requestOf op now).order p q = true)
    (hlength : l.length ≤ a.settings.batchSize) : a.batchOf op s now = l := by
  unfold batchOf Store.claimable
  rw [hdue, List.mergeSort_of_pairwise hsorted, limit_requestOf, List.take_of_length_le hlength]

theorem perform_eq_runBatch (a : Accountant) (op : ClaimOp) (s : Store) (now : Nat) :
    ∃ report : BatchReport, report.claimed = (a.batchOf op s now).length ∧
      report.updated + report.skipped + report.lost = 0 ∧
      a.perform op s now = runBatch (a.stepOf (a.verdict op now)) (a.claimedStore op s now)
        ((a.batchOf op s now).map (a.stamped op now)) report :=
  ⟨_, List.length_map _, rfl, perform_eq_run a op s now⟩

theorem held_claimedStore (a : Accountant) (op : ClaimOp) (s : Store) (now : Nat) :
    Held (a.claimedStore op s now) ((a.batchOf op s now).map (a.stamped op now)) := by
  intro q hq
  refine ⟨Store.get?_claimPeriods_mem (r := a.requestOf op now) hq, ?_⟩
  obtain ⟨p, -, rfl⟩ := List.mem_map.1 hq
  exact ⟨_, rfl⟩

theorem ids_stamped (l : List Period) : (l.map (a.stamped op now)).map (·.id) = l.map (·.id) := by
  rw [List.map_map]
  rfl

theorem verdict_stamped (p : Period) :
    a.verdict op now (a.stamped op now p) = a.verdict op now p :=
  verdict_withClaim a op now p _

theorem records_stamped (l : List Period) :
    (l.map (a.stamped op now)).map (fun p => (a.verdict op now p).record p) =
      l.map fun p => (a.verdict op now p).record p := by
  rw [List.map_map]
  refine List.map_congr_left fun p _ => ?_
  show (a.verdict op now (a.stamped op now p)).record (a.stamped op now p) = _
  rw [verdict_stamped]
  cases a.verdict op now p <;> rfl

theorem answered_stamped {l : List Period} (h : ∀ p ∈ l, ∃ o, (a.verdict op now p).answer = .ok o) :
    ∀ p ∈ l.map (a.stamped op now), ∃ o, (a.verdict op now p).answer = .ok o := by
  intro q hq
  obtain ⟨p, hp, rfl⟩ := List.mem_map.1 hq
  rw [verdict_stamped]
  exact h p hp

/-- a list is without failures, or cut at the first one -/
theorem cut_at_failure (v : Period → Verdict) (l : List Period) :
    (∀ p ∈ l, ∃ o, (v p).answer = .ok o) ∨ ∃ done failed rest e, l = done ++ failed :: rest ∧
      (∀ p ∈ done, ∃ o, (v p).answer = .ok o) ∧ v failed = .failed e := by
  induction l with
  | nil => exact Or.inl fun p hp => absurd hp List.not_mem_nil
  | cons p rest ih =>
    have hhead : (∃ o, (v p).answer = .ok o) ∨ ∃ e, v p = .failed e := by
      cases v p with
      | idle => exact Or.inl ⟨_, rfl⟩
      | failed e => exact Or.inr ⟨e, rfl⟩
      | settled c o => exact Or.inl ⟨o, rfl⟩
    rcases hhead with hp | ⟨e, he⟩
    · rcases ih with hrest | ⟨done, failed, tail, e, rfl, hdone, he⟩
      · exact Or.inl (List.forall_mem_cons.2 ⟨hp, hrest⟩)
      · exact Or.inr ⟨p :: done, failed, tail, e, rfl, List.forall_mem_cons.2 ⟨hp, hdone⟩, he⟩
    · exact Or.inr ⟨[], p, rest, e, rfl, fun q hq => absurd hq List.not_mem_nil, he⟩

theorem nodup_stamped {l : List Period} (h : a.batchOf op s now = l) :
    ((l.map (a.stamped op now)).map (·.id)).Nodup := by
  rw [ids_stamped, ← h]
  exact nodup_batchOf

theorem perform_settled (ha : a.commit = Store.commit)
    (hok : ∀ p ∈ a.batchOf op s now, ∃ o, (a.verdict op now p).answer = .ok o) :
    ∃ r, a.perform op s now = (.ok r, (a.claimedStore op s now).putPeriods
      ((a.batchOf op s now).map fun p => (a.verdict op now p).record p)) := by
  obtain ⟨report, -, -, hrun⟩ := perform_eq_runBatch a op s now
  obtain ⟨r, hr⟩ := runBatch_all_settled ha (answered_stamped hok)
    (held_claimedStore a op s now) (nodup_stamped rfl) report
  rw [records_stamped] at hr
  exact ⟨r, hrun.trans hr⟩

theorem perform_failed (ha : a.commit = Store.commit) {done rest : List Period} {failed : Period}
    {e : AccountingError} (hcut : a.batchOf op s now = done ++ failed :: rest)
    (hdone : ∀ p ∈ done, ∃ o, (a.verdict op now p).answer = .ok o)
    (hfail : a.verdict op now failed = .failed e) :
    a.perform op s now = (.error e, (a.claimedStore op s now).putPeriods
      ((done.map fun p => (a.verdict op now p).record p) ++
        (failed :: rest).map Period.unclaimed)) := by
  obtain ⟨report, -, -, hrun⟩ := perform_eq_runBatch a op s now
  have hheld := held_claimedStore a op s now
  have hnodup := nodup_stamped hcut
  rw [hcut, List.map_append, List.map_cons] at hrun hheld
  rw [List.map_append, List.map_cons] at hnodup
  have hend := runBatch_fails ha (answered_stamped hdone)
    ((verdict_stamped failed).trans hfail) hheld hnodup report
  have hfree : (a.stamped op now failed :: rest.map (a.stamped op now)).map Period.unclaimed =
      (failed :: rest).map Period.unclaimed := by
    rw [← List.map_cons, List.map_map]
    rfl
  rw [records_stamped, hfree] at hend
  exact hrun.trans hend

/-! ## what a batch leaves behind -/

/-- the batch put back without claims: its periods are free, all others as they were -/
theorem freed_of_left {left : List Period} (hids : left.map (·.id) = (a.batchOf op s now).map (·.id))
    (hfree : ∀ q ∈ left, q.claim = none)
    (hend : (a.perform op s now).2 = (a.claimedStore op s now).putPeriods left) :
    (∀ q ∈ left, (a.perform op s now).2.periods.get? q.id = some q) ∧
      (∀ p ∈ a.batchOf op s now, s.periods.get? p.id = some p ∧
        ∃ q, (a.perform op s now).2.periods.get? p.id = some q ∧ q.claim = none) ∧
      (∀ id, (∀ p ∈ a.batchOf op s now, p.id ≠ id) →
        (a.perform op s now).2.periods.get? id = s.periods.get? id) ∧
      (a.perform op s now).2 = { s with periods := (a.perform op s now).2.periods } := by
  have hmem : ∀ q ∈ left, (a.perform op s now).2.periods.get? q.id = some q := by
    intro q hq
    rw [hend]
    exact Store.get?_putPeriods_mem (hids ▸ nodup_batchOf) hq _
  refine ⟨hmem, fun p hp => ⟨(Store.mem_claimable hp).1, ?_⟩, fun id hid => ?_, ?_⟩
  · obtain ⟨q, hq, hqp⟩ := List.mem_map.1 (hids.symm ▸ List.mem_map.2 ⟨p, hp, rfl⟩)
    exact ⟨q, hqp ▸ hmem q hq, hfree q hq⟩
  · have hleft : ∀ q ∈ left, q.id ≠ id := by
      intro q hq e
      obtain ⟨p, hp, hpq⟩ := List.mem_map.1 (hids ▸ List.mem_map.2 ⟨q, hq, e⟩)
      exact hid p hp hpq
    have hclaimed : ∀ q ∈ (a.batchOf op s now).map (a.stamped op now), q.id ≠ id := by
      intro q hq
      obtain ⟨p, hp, rfl⟩ := List.mem_map.1 hq
      exact hid p hp
    rw [hend, Store.get?_putPeriods_ne hleft]
    exact Store.get?_putPeriods_ne hclaimed
  · rw [hend]
    rfl

theorem ids_records (v : Period → Verdict) (l : List Period) :
    (l.map fun p => (v p).record p).map (·.id) = l.map (·.id) := by
  rw [List.map_map]
  exact List.map_congr_left fun p _ => Verdict.record_id (v p) p

theorem ids_unclaimed (l : List Period) : (l.map Period.unclaimed).map (·.id) = l.map (·.id) := by
  rw [List.map_map]
  rfl

theorem claim_of_mem_records {v : Period → Verdict} {l : List Period} {q : Period}
    (h : q ∈ l.map fun p => (v p).record p) : q.claim = none := by
  obtain ⟨p, -, rfl⟩ := List.mem_map.1 h
  exact Verdict.record_claim _ _

theorem claim_of_mem_unclaimed {l : List Period} {q : Period} (h : q ∈ l.map Period.unclaimed) :
    q.claim = none := by
  obtain ⟨p, -, rfl⟩ := List.mem_map.1 h
  rfl

theorem perform_counts {r : BatchReport} (h : (a.perform op s now).1 = .ok r) :
    r.claimed = (a.batchOf op s now).length ∧ r.claimed = r.updated + r.skipped + r.lost := by
  obtain ⟨report, hclaimed, hzero, hrun⟩ := perform_eq_runBatch a op s now
  rw [hrun] at h
  obtain ⟨hsame, hcount⟩ := runBatch_counts h
  rw [List.length_map] at hcount
  exact ⟨hsame.trans hclaimed, by omega⟩

end

/-! ## a series that fails in the middle of a batch -/

/-- five bytes down for every period but the second, which the series does not answer for in time -/
def fiveBytes : SeriesReader := fun q =>
  if q.tags.get? "period_id" = some ("period_id", "2") then .error (.timeout 10)
  else .ok (some (FieldSums.add .empty downloadField 5))

def interrupted : Accountant where
  settings := {}
  reader := fiveBytes

def usedAt (id : Id) (time : Nat) : Period := (Period.fresh id).touch time

def threeUsed : Store := .ofPeriods [usedAt 1 900, usedAt 2 900, usedAt 3 900]

theorem batchOf_threeUsed : interrupted.batchOf .sync threeUsed 1000 =
    [usedAt 1 900, usedAt 2 900, usedAt 3 900] :=
  batchOf_of_sorted (by decide +kernel) (by decide +kernel) (by decide)

end Accountant

end ProxyMesh
