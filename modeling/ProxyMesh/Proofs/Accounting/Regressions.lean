import Mathlib.Data.List.Basic
import ProxyMesh.Proofs.Accounting.Growth
import ProxyMesh.Proofs.Lists
import ProxyMesh.Proofs.Store.Leases

/-!
# The flow after a sync, and what is reported of it

A sync that commits a period takes the sum of its window for the new flow, and reports what the
window has lost.  A window without any traffic is the exception: the period is stamped, and the flow
of the last sync stays.

* `anomalies_runBatch`      a report has the anomalies of the periods that were committed, in order;
* `enact_contended`         a verdict among other workers: stored as it is, or not at all;
* `anomalies_of_period`     what a sync reports of one period;
* `sync_rebases_flow`       **the flow is the sum of a window with traffic, and exactly what it has
                            less than before is reported**;
* `emptied_window_unreported`   a window that lost everything.
-/

namespace ProxyMesh

def Anomaly.period : Anomaly → Id
  | .counterRegressed period _ => period
  | .negativeDelta period _ => period

def Outcome.anomalies : Outcome → List Anomaly
  | .updated anomaly => anomaly.toList
  | .skipped => []
  | .lost => []

def Verdict.anomalies : Verdict → List Anomaly
  | .settled _ o => o.anomalies
  | .idle => []
  | .failed _ => []

/-- some direction has less than the flow -/
def Counter.Exceeds (c : Counter) (sum : Traffic) : Prop :=
  sum.download < c.flow.download ∨ sum.upload < c.flow.upload

instance (c : Counter) (sum : Traffic) : Decidable (c.Exceeds sum) :=
  inferInstanceAs (Decidable (_ ∨ _))

theorem BatchReport.anomalies_record (r : BatchReport) (o : Outcome) :
    (r.record o).anomalies = r.anomalies ++ o.anomalies := by
  cases o with
  | updated anomaly => rfl
  | skipped => exact (List.append_nil _).symm
  | lost => exact (List.append_nil _).symm

theorem Store.get?_steal_self {s : Store} {id : Id} {p : Period} (hp : s.periods.get? id = some p)
    (claim : Claim) : (Contention.steal s id claim).periods.get? id =
      some { p with claim := some { claim with expiresAt := claim.expiresAt + 1 } } := by
  unfold Contention.steal Table.adjust
  rw [hp]
  exact Table.get?_put_some (show p.id = id from Table.key_of_get? hp)

namespace Accountant

open Store (counter? ClaimRequest)

variable {a : Accountant} {s : Store} {p : Period} {now : Nat}

/-! ## the anomalies of a batch -/

theorem anomalies_runBatch {stores : Period → Outcome → Bool} {step : PeriodStep}
    {found : Period → List Anomaly}
    (hstep : ∀ s p o, (step s p).1 = .ok o → o.anomalies = if stores p o then found p else [])
    {l : List Period} (hnodup : (l.map (·.id)).Nodup) {report r : BatchReport}
    (h : (runBatch step s l report).1 = .ok r) :
    r.anomalies = report.anomalies ++
      (l.filter fun p => p.id ∈ settledBy stores step s l).flatMap found := by
  induction l generalizing s report with
  | nil =>
    obtain rfl := Except.ok.inj h
    exact (List.append_nil _).symm
  | cons p rest ih =>
    obtain ⟨hp, hnodup⟩ := List.nodup_cons.1 hnodup
    have hout : ∀ q ∈ rest, q.id ≠ p.id := fun q hq e => hp (List.mem_map.2 ⟨q, hq, e⟩)
    rcases he : step s p with ⟨e | o, s'⟩
    · rw [runBatch_error he] at h
      cases h
    · rw [runBatch_ok he] at h
      have hhead : p.id ∈ settledBy stores step s (p :: rest) ↔ stores p o = true := by
        rw [settledBy_ok he, List.mem_append, mem_ite_singleton,
          or_iff_left (not_mem_settledBy hout s'), and_iff_left rfl]
      have hrest : (rest.filter fun q => q.id ∈ settledBy stores step s (p :: rest)) =
          rest.filter fun q => q.id ∈ settledBy stores step s' rest := by
        refine List.filter_congr fun q hq => ?_
        rw [decide_eq_decide, settledBy_ok he, List.mem_append, mem_ite_singleton,
          or_iff_right fun h => hout q hq h.2]
      rw [ih hnodup h, BatchReport.anomalies_record, hstep s p o (by rw [he]), List.filter_cons,
        hrest, List.append_assoc]
      simp only [hhead, decide_eq_true_eq]
      cases stores p o <;> rfl

/-! ## verdicts among other workers -/

theorem commit_contended (ha : a.Contended) {claim : Claim} (hp : s.periods.get? p.id = some p)
    (hc : p.claim = some claim) (c : Counter) :
    ((a.commit s p.id claim c).1 = .ok true ∧
        counter? (a.commit s p.id claim c).2 p.id = some c) ∨
      ((a.commit s p.id claim c).1 ≠ .ok true ∧
        counter? (a.commit s p.id claim c).2 p.id = some p.counter) := by
  obtain ⟨contention, ha⟩ := ha
  have hsame : counter? s p.id = some p.counter := Store.counter?_of_get? hp
  have hstolen : counter? (Contention.steal s p.id claim) p.id = some p.counter :=
    (Store.counter?_steal s p.id claim p.id).trans hsame
  rw [ha]
  unfold Contention.commit
  dsimp only
  cases contention.refused.contains p.id with
  | true =>
    refine Or.inr ⟨(fun e => nomatch e), ?_⟩
    show counter? (if contention.stolen.contains p.id then _ else s) p.id = _
    split
    · exact hstolen
    · exact hsame
  | false =>
    cases contention.stolen.contains p.id with
    | true =>
      have hlost : ((Contention.steal s p.id claim).commitCounter p.id claim c).1 = false := by
        rw [Bool.eq_false_iff]
        intro hdone
        obtain ⟨q, hq, hqc⟩ := Store.commitCounter_eq_true.1 hdone
        rw [Store.get?_steal_self hp claim] at hq
        obtain rfl := Option.some.inj hq
        have hexp : claim.expiresAt + 1 = claim.expiresAt :=
          congrArg Claim.expiresAt (Option.some.inj hqc)
        omega
      refine Or.inr ⟨fun e => ?_, ?_⟩
      · exact absurd (hlost.symm.trans (Except.ok.inj e)) Bool.false_ne_true
      · show counter? ((Contention.steal s p.id claim).commitCounter p.id claim c).2 p.id = _
        rw [Store.commitCounter_rejected hlost]
        exact hstolen
    | false =>
      have hdone : (s.commitCounter p.id claim c).1 = true :=
        Store.commitCounter_eq_true.2 ⟨p, hp, hc⟩
      refine Or.inl ⟨congrArg Except.ok hdone, ?_⟩
      show counter? (s.commitCounter p.id claim c).2 p.id = _
      exact Store.counter?_of_get? (Store.get?_commitCounter_self hp hc)

theorem enact_contended (ha : a.Contended) {claim : Claim} (hp : s.periods.get? p.id = some p)
    (hc : p.claim = some claim) (v : Verdict) :
    (counter? (v.enact a s p).2 p.id = some p.counter ∧
        ∀ o, (v.enact a s p).1 = .ok o → v = .idle ∨ o = .lost) ∨
      ∃ c o, v = .settled c o ∧ (v.enact a s p).1 = .ok o ∧
        counter? (v.enact a s p).2 p.id = some c := by
  have hsame : counter? s p.id = some p.counter := Store.counter?_of_get? hp
  cases v with
  | idle => exact Or.inl ⟨(counter?_release s p p.id).trans hsame, fun _ _ => Or.inl rfl⟩
  | failed e => exact Or.inl ⟨hsame, fun _ ho => nomatch ho⟩
  | settled c o =>
    have hsettle : (Verdict.settled c o).enact a s p =
        ((a.commit s p.id claim c).1.map fun done => if done then o else .lost,
          (a.commit s p.id claim c).2) := by
      show a.settle s p c o = _
      unfold settle
      rw [hc]
    rw [hsettle]
    rcases commit_contended ha hp hc c with ⟨hdone, hcnt⟩ | ⟨hlost, hcnt⟩
    · exact Or.inr ⟨c, o, rfl, by rw [hdone]; rfl, hcnt⟩
    · refine Or.inl ⟨hcnt, fun o' ho' => Or.inr ?_⟩
      rcases hanswer : (a.commit s p.id claim c).1 with e | done
      · rw [hanswer] at ho'
        cases ho'
      · rw [hanswer] at ho' hlost
        cases done with
        | true => exact absurd rfl hlost
        | false => exact (Except.ok.inj ho').symm

/-- what a verdict answers with, whoever holds the period -/
theorem answer_enact {v : Verdict} {o : Outcome} (h : (v.enact a s p).1 = .ok o) :
    (v = .idle ∧ o = .skipped) ∨ ∃ c o', v = .settled c o' ∧ (o = o' ∨ o = .lost) := by
  cases v with
  | idle => exact Or.inl ⟨rfl, (Except.ok.inj h).symm⟩
  | failed e => cases h
  | settled c o' =>
    refine Or.inr ⟨c, o', rfl, ?_⟩
    change (a.settle s p c o').1 = .ok o at h
    unfold settle at h
    split at h
    · exact Or.inr (Except.ok.inj h).symm
    next claim _ =>
      dsimp only at h
      cases hanswer : (a.commit s p.id claim c).1 with
      | error e =>
        rw [hanswer] at h
        cases h
      | ok done =>
        rw [hanswer] at h
        cases done with
        | true => exact Or.inl (Except.ok.inj h).symm
        | false => exact Or.inr (Except.ok.inj h).symm

/-! ## a sync of one period -/

theorem local_syncOne_contended (ha : a.Contended) (now : Nat) : Local (a.syncOne now) := by
  intro s p id hid
  rw [syncOne_eq_enact]
  exact get?_enact_ne ha hid

/-- a verdict of a sync is about an id and a counter -/
theorem syncVerdict_congr {q : Period} (hid : q.id = p.id) (hcnt : q.counter = p.counter) :
    a.syncVerdict now q = a.syncVerdict now p := by
  unfold syncVerdict syncFloor anomaly?
  rw [hid, hcnt]

/-- a verdict of a sync is idle without a window, and about its traffic otherwise -/
theorem syncVerdict_cases (a : Accountant) (now : Nat) (p : Period) :
    (a.syncVerdict now p = .idle ∧ now ≤ a.syncFloor now p) ∨
      (∃ e, a.syncVerdict now p = .failed e) ∨
      ∃ sums, a.syncFloor now p < now ∧
        a.reader (usageQuery p.id (a.syncFloor now p) now) = .ok sums ∧
        a.syncVerdict now p = .settled
          (syncedCounter p.counter (a.syncFloor now p) now (windowTraffic sums)
            a.settings.correctionFactor)
          (if (windowTraffic sums).isZero then .skipped
            else .updated (anomaly? .counterRegressed p
              (p.counter.flow.minus (windowTraffic sums)))) := by
  rcases Nat.lt_or_ge (a.syncFloor now p) now with hlt | hle
  · cases hanswer : a.reader (usageQuery p.id (a.syncFloor now p) now) with
    | error e =>
      have htraffic : a.traffic p.id (a.syncFloor now p) now = .error (.ofSeries e) := by
        unfold traffic
        rw [hanswer]
      refine Or.inr (Or.inl ⟨.ofSeries e, ?_⟩)
      unfold syncVerdict
      rw [if_neg (Nat.not_le_of_lt hlt), htraffic]
    | ok sums => exact Or.inr (Or.inr ⟨sums, hlt, rfl, syncVerdict_settled hlt hanswer⟩)
  · refine Or.inl ⟨?_, hle⟩
    unfold syncVerdict
    exact if_pos hle

theorem toList_anomaly? (p : Period) (sum : Traffic) :
    (anomaly? .counterRegressed p (p.counter.flow.minus sum)).toList =
      if p.counter.Exceeds sum then [.counterRegressed p.id (p.counter.flow.minus sum)] else [] := by
  have hzero : (p.counter.flow.minus sum).isZero = true ↔ ¬p.counter.Exceeds sum := by
    rw [Traffic.isZero_iff, Traffic.ext_iff]
    unfold Counter.Exceeds
    simp only [Traffic.minus_download, Traffic.minus_upload, Traffic.none_download,
      Traffic.none_upload]
    omega
  unfold anomaly?
  by_cases h : p.counter.Exceeds sum
  · rw [if_pos h, if_neg fun hz => hzero.1 hz h]
    rfl
  · rw [if_neg h, if_pos (hzero.2 h)]
    rfl

theorem period_of_mem_syncVerdict {x : Anomaly} (h : x ∈ (a.syncVerdict now p).anomalies) :
    x.period = p.id := by
  rcases syncVerdict_cases a now p with ⟨hv, -⟩ | ⟨e, hv⟩ | ⟨sums, -, -, hv⟩
  · rw [hv] at h
    cases h
  · rw [hv] at h
    cases h
  · rw [hv] at h
    change x ∈ (if _ then Outcome.skipped else _).anomalies at h
    split at h
    · cases h
    · change x ∈ (anomaly? .counterRegressed p _).toList at h
      rw [toList_anomaly?] at h
      split at h
      · obtain rfl := List.mem_singleton.1 h
        rfl
      · cases h

/-- a sync finds what its verdict says, if the counter is stored -/
theorem anomalies_syncOne (s : Store) (p : Period) (o : Outcome)
    (h : (a.syncOne now s p).1 = .ok o) :
    o.anomalies = if a.storesSync now p o then (a.syncVerdict now p).anomalies else [] := by
  rw [syncOne_eq_enact] at h
  rcases answer_enact h with ⟨hv, rfl⟩ | ⟨c, o', hv, rfl | rfl⟩
  · rw [hv]
    split <;> rfl
  · rcases syncVerdict_cases a now p with ⟨hv', -⟩ | ⟨e, hv'⟩ | ⟨sums, hlt, -, hv'⟩
    · cases hv.symm.trans hv'
    · cases hv.symm.trans hv'
    · have hne : o ≠ .lost := by
        rw [(Verdict.settled.inj (hv.symm.trans hv')).2]
        split <;> simp
      rw [hv, if_pos (by simp [storesSync, hlt, hne])]
      rfl
  · rw [if_neg (by simp [storesSync])]
    rfl

/-! ## a sync -/

theorem anomalies_sync {r : BatchReport} (h : (a.sync s now).1 = .ok r) :
    r.anomalies = ((s.claimPeriods (a.syncRequest now)).1.filter fun p =>
      p.id ∈ a.committedBy s now).flatMap fun p => (a.syncVerdict now p).anomalies :=
  anomalies_runBatch anomalies_syncOne Store.nodup_claimed h

/-- a period as it is handed out is the stored one, with a claim -/
theorem syncVerdict_claimed (hp : s.periods.get? p.id = some p) {q : Period}
    (hq : q ∈ (s.claimPeriods (a.syncRequest now)).1) (hid : q.id = p.id) :
    a.syncVerdict now q = a.syncVerdict now p := by
  obtain ⟨p₀, hp₀, -, -, rfl⟩ := Store.claimed_spec hq
  rw [hid, hp] at hp₀
  have hcnt : p₀.counter = p.counter := congrArg Period.counter (Option.some.inj hp₀).symm
  exact syncVerdict_congr hid hcnt

/-- what is found at periods is found at each by itself -/
theorem anomalies_flatMap (a : Accountant) (now : Nat) (l : List Period) (id : Id) :
    (l.flatMap fun q => (a.syncVerdict now q).anomalies).filter (·.period = id) =
      (l.filter (·.id == id)).flatMap fun q => (a.syncVerdict now q).anomalies := by
  rw [List.filter_flatMap]
  refine (flatMap_filter_of_nil fun q _ hne => ?_).symm.trans (List.flatMap_congr fun q hq => ?_)
  · refine List.filter_eq_nil_iff.2 fun x hx e => beq_eq_false_iff_ne.1 hne ?_
    exact (period_of_mem_syncVerdict hx).symm.trans (of_decide_eq_true e)
  · have hid : q.id = id := beq_iff_eq.1 (List.mem_filter.1 hq).2
    exact List.filter_eq_self.2 fun x hx =>
      decide_eq_true ((period_of_mem_syncVerdict hx).trans hid)

/-- **what is reported of a period is what its verdict says, if it was committed** -/
theorem anomalies_of_period (hp : s.periods.get? p.id = some p) {r : BatchReport}
    (h : (a.sync s now).1 = .ok r) :
    r.anomalies.filter (·.period = p.id) =
      if p.id ∈ a.committedBy s now then (a.syncVerdict now p).anomalies else [] := by
  rw [anomalies_sync h, anomalies_flatMap, List.filter_comm]
  by_cases hclaimed : ∃ q ∈ (s.claimPeriods (a.syncRequest now)).1, q.id = p.id
  · obtain ⟨q, hq, hid⟩ := hclaimed
    rw [← hid, Leases.filter_id Store.nodup_claimed hq, List.filter_singleton, hid,
      ← syncVerdict_claimed hp hq hid]
    by_cases hmem : p.id ∈ a.committedBy s now
    · simp [hmem]
    · simp [hmem]
  · have hout : ∀ q ∈ (s.claimPeriods (a.syncRequest now)).1, q.id ≠ p.id :=
      fun q hq e => hclaimed ⟨q, hq, e⟩
    have hnone : p.id ∉ a.committedBy s now := not_mem_settledBy hout _
    have hothers : (s.claimPeriods (a.syncRequest now)).1.filter (·.id == p.id) = [] :=
      List.filter_eq_nil_iff.2 fun q hq e => hout q hq (beq_iff_eq.1 e)
    rw [if_neg hnone, hothers]
    rfl

/-- a period that is committed has the counter of its verdict, any other one keeps its own -/
theorem counter?_sync (ha : a.Contended) (hp : s.periods.get? p.id = some p) (now : Nat) :
    (p.id ∉ a.committedBy s now ∧ counter? (a.sync s now).2 p.id = some p.counter) ∨
      ∃ sums, p.id ∈ a.committedBy s now ∧ a.syncFloor now p < now ∧
        a.reader (usageQuery p.id (a.syncFloor now p) now) = .ok sums ∧
        counter? (a.sync s now).2 p.id = some (syncedCounter p.counter (a.syncFloor now p) now
          (windowTraffic sums) a.settings.correctionFactor) := by
  rcases run_effect (a.storesSync now) (local_syncOne_contended ha now) (a.syncRequest now)
      (Store.counter?_of_get? hp) with ⟨hsame, hn⟩ | ⟨q, s₁, hid, hcnt, hclaim, hget, hrun, hmem⟩
  · exact Or.inl ⟨hn, hsame⟩
  · rw [syncOne_eq_enact] at hrun hmem
    rw [syncVerdict_congr hid hcnt] at hrun hmem
    have hbefore : some q.counter = some p.counter := congrArg some hcnt
    rcases enact_contended ha hget hclaim (a.syncVerdict now p)
      with ⟨hsame, hlost⟩ | ⟨c, o, hv, ho, hc⟩
    · refine Or.inl ⟨fun hn => ?_, hrun.trans (hsame.trans hbefore)⟩
      obtain ⟨o, ho, hstores⟩ := hmem.1 hn
      obtain ⟨hfloor, hne⟩ := Bool.and_eq_true_iff.1 hstores
      rcases hlost o ho with hidle | rfl
      · rcases syncVerdict_cases a now p with ⟨-, hle⟩ | ⟨e, hv⟩ | ⟨sums, -, -, hv⟩
        · have hlt : a.syncFloor now q < now := of_decide_eq_true hfloor
          unfold syncFloor at hlt hle
          rw [hcnt] at hlt
          omega
        · cases hv.symm.trans hidle
        · cases hv.symm.trans hidle
      · exact absurd hne (by simp)
    · rcases syncVerdict_cases a now p with ⟨hv', -⟩ | ⟨e, hv'⟩ | ⟨sums, hlt, hanswer, hv'⟩
      · cases hv.symm.trans hv'
      · cases hv.symm.trans hv'
      · obtain ⟨rfl, rfl⟩ := Verdict.settled.inj (hv.symm.trans hv')
        refine Or.inr ⟨sums, hmem.2 ⟨_, ho, ?_⟩, hlt, hanswer, hrun.trans hc⟩
        have hlt' : a.syncFloor now q < now := by
          unfold syncFloor at hlt ⊢
          rw [hcnt]
          exact hlt
        cases (windowTraffic sums).isZero <;> simp [storesSync, hlt']

/-- **The flow after a sync.**  A sync that does not commit a period leaves its counter alone and
reports nothing of it.  One that commits it stamps it with the start of the window and the time.  If
the window has traffic, its sums are the flow, and a report names exactly what some direction has less
than before; if it has none, flow and total stay as they were and nothing is reported. -/
theorem sync_rebases_flow (ha : a.Contended) (hp : s.periods.get? p.id = some p) (now : Nat) :
    (p.id ∉ a.committedBy s now → counter? (a.sync s now).2 p.id = some p.counter ∧
      ∀ r, (a.sync s now).1 = .ok r → r.anomalies.filter (·.period = p.id) = []) ∧
    (p.id ∈ a.committedBy s now → ∃ floor sums c, floor = a.syncFloor now p ∧ floor < now ∧
      a.reader (usageQuery p.id floor now) = .ok sums ∧
      counter? (a.sync s now).2 p.id = some c ∧
      c.flowPointAt = some floor ∧ c.lastFlowSyncAt = some now ∧
      (windowTraffic sums ≠ .none → c.flow = windowTraffic sums ∧
        ∀ r, (a.sync s now).1 = .ok r → r.anomalies.filter (·.period = p.id) =
          if p.counter.Exceeds (windowTraffic sums) then
            [.counterRegressed p.id (p.counter.flow.minus (windowTraffic sums))]
          else []) ∧
      (windowTraffic sums = .none → c.flow = p.counter.flow ∧ c.current = p.counter.current ∧
        ∀ r, (a.sync s now).1 = .ok r → r.anomalies.filter (·.period = p.id) = [])) := by
  refine ⟨fun hn => ?_, fun hmem => ?_⟩
  · rcases counter?_sync ha hp now with ⟨-, hsame⟩ | ⟨_, hmem, -⟩
    · exact ⟨hsame, fun r hr => (anomalies_of_period hp hr).trans (if_neg hn)⟩
    · exact absurd hmem hn
  · rcases counter?_sync ha hp now with ⟨hn, -⟩ | ⟨sums, -, hlt, hanswer, hcnt⟩
    · exact absurd hmem hn
    · have hreported : ∀ r, (a.sync s now).1 = .ok r →
          r.anomalies.filter (·.period = p.id) = (a.syncVerdict now p).anomalies :=
        fun r hr => (anomalies_of_period hp hr).trans (if_pos hmem)
      rw [syncVerdict_settled hlt hanswer] at hreported
      refine ⟨_, sums, _, rfl, hlt, hanswer, hcnt, ?_,
        lastFlowSyncAt_syncedCounter _ _ _ _ _, fun hsome => ?_, fun hnone => ?_⟩
      · unfold syncedCounter
        dsimp only
        cases (windowTraffic sums).isZero <;> rfl
      · have hzero : (windowTraffic sums).isZero = false :=
          Bool.eq_false_iff.2 fun h => hsome (Traffic.isZero_iff.1 h)
        rw [hzero] at hreported
        refine ⟨?_, fun r hr => (hreported r hr).trans (toList_anomaly? p _)⟩
        unfold syncedCounter
        rw [hzero]
        rfl
      · have hzero : (windowTraffic sums).isZero = true := Traffic.isZero_iff.2 hnone
        rw [hzero] at hreported
        refine ⟨?_, ?_, hreported⟩
        · unfold syncedCounter
          rw [hzero]
          rfl
        · unfold syncedCounter
          rw [hzero]
          rfl

/-! ## a window that shrinks, and one that is empty -/

/-- a series that answers every query with these sums -/
def reading (download upload : Int) : Accountant where
  settings := {}
  reader := fun _ =>
    .ok (some ((FieldSums.add .empty downloadField download).add uploadField upload))

/-- used since a sync that found `⟨100, 50⟩` -/
def rich (id : Id) : Period :=
  { usedAt id 900 with counter := ⟨some 0, ⟨100, 50⟩, ⟨1000, 500⟩, some 500⟩ }

/-- twenty bytes less down, ten more up -/
theorem sync_rebases_flow_shrunk :
    (reading 80 60).Contended ∧ (Store.ofPeriods [rich 1]).periods.get? 1 = some (rich 1) ∧
      1 ∈ (reading 80 60).committedBy (.ofPeriods [rich 1]) 1000 ∧
      ∃ c, counter? ((reading 80 60).sync (.ofPeriods [rich 1]) 1000).2 1 = some c ∧
        c.flow = ⟨80, 60⟩ ∧
        ∀ r, ((reading 80 60).sync (.ofPeriods [rich 1]) 1000).1 = .ok r →
          r.anomalies.filter (·.period = 1) = [.counterRegressed 1 ⟨20, 0⟩] := by
  have hget : (Store.ofPeriods [rich 1]).periods.get? 1 = some (rich 1) := by decide +kernel
  have hmem : 1 ∈ (reading 80 60).committedBy (.ofPeriods [rich 1]) 1000 := by decide +kernel
  refine ⟨contended_of_store rfl, hget, hmem, ?_⟩
  obtain ⟨floor, sums, c, -, -, hanswer, hcnt, -, -, hsome, -⟩ :=
    (sync_rebases_flow (a := reading 80 60) (p := rich 1) (contended_of_store rfl) hget 1000).2 hmem
  obtain rfl := Except.ok.inj hanswer
  obtain ⟨hflow, hreported⟩ := hsome (by decide +kernel)
  refine ⟨c, hcnt, hflow.trans (by decide +kernel), fun r hr => ?_⟩
  exact (hreported r hr).trans (by decide +kernel)

/-- a series with nothing in it -/
def silent : Accountant where
  settings := {}
  reader := fun _ => .ok none

/-- eighty bytes down for the first period, and no answer in time for the second -/
def halting : Accountant where
  settings := {}
  reader := fun q =>
    if q.tags.get? "period_id" = some ("period_id", "2") then .error (.timeout 10)
    else .ok (some (FieldSums.add .empty downloadField 80))

/-- the first period is rebased, and the second ends the sync -/
theorem sync_halting :
    (halting.sync (.ofPeriods [rich 1, rich 2]) 1000).1 = .error (.queryTimeout 10) ∧
      counter? (halting.sync (.ofPeriods [rich 1, rich 2]) 1000).2 1 =
        some ⟨some 0, ⟨80, 0⟩, ⟨1000, 500⟩, some 1000⟩ := by
  have hbatch : halting.batchOf .sync (.ofPeriods [rich 1, rich 2]) 1000 = [rich 1] ++ [rich 2] :=
    batchOf_of_sorted (by decide +kernel) (by decide +kernel) (by decide)
  have hfirst : ∀ p ∈ [rich 1], ∃ o, (halting.verdict .sync 1000 p).answer = .ok o := by
    intro p hp
    obtain rfl := List.mem_singleton.1 hp
    exact ⟨.updated (some (.counterRegressed 1 ⟨20, 50⟩)), by decide +kernel⟩
  have hend := perform_failed (a := halting) rfl hbatch hfirst (e := .queryTimeout 10)
    (by decide +kernel)
  change halting.sync _ 1000 = _ at hend
  rw [hend]
  refine ⟨rfl, ?_⟩
  have hnodup : ((([rich 1].map fun p => (halting.verdict .sync 1000 p).record p) ++
      [rich 2].map Period.unclaimed).map (·.id)).Nodup := by
    decide +kernel
  have hget := Store.get?_putPeriods_mem hnodup (List.mem_cons_self)
    (halting.claimedStore .sync (.ofPeriods [rich 1, rich 2]) 1000)
  have hcounter := congrArg (Option.map (·.counter)) hget
  exact hcounter.trans (by decide +kernel)

/-- a window that lost everything is stamped with the flow of the last sync, and nothing is reported
of it; and when a later query fails there is no report at all -/
theorem emptied_window_unreported :
    (rich 1).counter.Exceeds (windowTraffic none) ∧
      (silent.sync (.ofPeriods [rich 1]) 1000).1 = .ok ⟨1, 0, 1, 0, []⟩ ∧
      counter? (silent.sync (.ofPeriods [rich 1]) 1000).2 1 =
        some ⟨some 0, ⟨100, 50⟩, ⟨1000, 500⟩, some 1000⟩ ∧
      (halting.sync (.ofPeriods [rich 1, rich 2]) 1000).1 = .error (.queryTimeout 10) ∧
      counter? (halting.sync (.ofPeriods [rich 1, rich 2]) 1000).2 1 =
        some ⟨some 0, ⟨80, 0⟩, ⟨1000, 500⟩, some 1000⟩ :=
  ⟨by decide +kernel, by decide +kernel, by decide +kernel, sync_halting⟩

end Accountant

end ProxyMesh
