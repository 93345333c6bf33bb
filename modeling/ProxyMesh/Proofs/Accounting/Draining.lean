import ProxyMesh.Proofs.Accounting.Growth
import ProxyMesh.Proofs.Store.Queue

/-!
# Syncs empty the queue of due periods

The periods that are due make a queue, and a sync takes a batch off its head.  What it took is
stamped, with or without traffic, so it is not due again, and nothing else becomes due: what the next
sync finds is the rest of the queue.

* `Accountant.Syncable`   a sync settles the period, and it is not due after that;
* `queue_sync`            **one sync takes a batch off the queue**;
* `Store.Drained`         what a row of syncs comes to;
* `syncs_drain`           **as many syncs as there are batches settle every due period once**.
-/

namespace ProxyMesh

namespace Accountant

open Store (queue mem_queue nodup_queue queue_ascending queue_eq)

/-! ## one period -/

/-- a sync at `now` settles the period, and it is not due after that -/
structure Syncable (a : Accountant) (now : Nat) (p : Period) : Prop where
  /-- there is a window to ask for -/
  window : a.syncFloor now p < now
  answered : ∃ sums, a.reader (usageQuery p.id (a.syncFloor now p) now) = .ok sums
  /-- the period was not used later than a stamp of `now` covers -/
  covered : ∀ used, p.usage.last = some used → used ≤ now + a.settings.activityGapSecs

variable {a : Accountant} {s : Store} {now : Nat} {p : Period}

theorem Syncable.verdict (h : a.Syncable now p) : ∃ c o, a.verdict .sync now p = .settled c o ∧
    c.lastFlowSyncAt = some now ∧ o ≠ .lost := by
  obtain ⟨sums, hsums⟩ := h.answered
  refine ⟨_, _, syncVerdict_settled h.window hsums, lastFlowSyncAt_syncedCounter _ _ _ _ _, ?_⟩
  cases (windowTraffic sums).isZero <;> simp

theorem Syncable.settled (h : a.Syncable now p) :
    syncDue ((a.verdict .sync now p).record p) a.settings.activityGapSecs = false := by
  obtain ⟨c, o, hv, hstamp, -⟩ := h.verdict
  rw [hv]
  show syncDue { p with counter := c, claim := none } _ = false
  unfold syncDue
  cases hused : p.usage.last with
  | none => rfl
  | some used =>
    have hle := h.covered used hused
    rw [hstamp]
    exact decide_eq_false (by omega)

/-! ## one sync -/

theorem lost_runBatch (ha : a.commit = Store.commit) {v : Period → Verdict} {l : List Period}
    (hok : ∀ p ∈ l, ∃ o, (v p).answer = .ok o ∧ o ≠ .lost) (hheld : Held s l)
    (hnodup : (l.map (·.id)).Nodup) {report r : BatchReport}
    (h : (runBatch (a.stepOf v) s l report).1 = .ok r) : r.lost = report.lost := by
  induction l generalizing s report with
  | nil =>
    obtain rfl := Except.ok.inj h
    rfl
  | cons p rest ih =>
    obtain ⟨hp, claim, hc⟩ := hheld p List.mem_cons_self
    obtain ⟨o, ho, hne⟩ := hok p List.mem_cons_self
    have hrest : Held (s.putPeriods [(v p).record p]) rest :=
      held_tail hheld hnodup (Verdict.record_id (v p) p)
    rw [runBatch_ok (enact_held ha hp hc ho)] at h
    rw [ih (fun q hq => hok q (List.mem_cons_of_mem _ hq)) hrest (List.nodup_cons.1 hnodup).2 h]
    cases o with
    | updated anomaly => rfl
    | skipped => rfl
    | lost => exact absurd rfl hne

/-- the due periods that a sync at `now` may claim, in order -/
def syncQueue (a : Accountant) (s : Store) (now : Nat) : List Period := s.queue (a.syncRequest now)

theorem batchOf_sync (a : Accountant) (s : Store) (now : Nat) :
    a.batchOf .sync s now = (a.syncQueue s now).take a.settings.batchSize := rfl

theorem mem_syncQueue : p ∈ a.syncQueue s now ↔ s.periods.get? p.id = some p ∧
    p.isClaimed now = false ∧ syncDue p a.settings.activityGapSecs = true := mem_queue

theorem ids_apart {l l' : List Period} (h : a.syncQueue s now = l ++ l') :
    ∀ p ∈ l, ∀ q ∈ l', p.id ≠ q.id := by
  have hnodup : ((a.syncQueue s now).map (·.id)).Nodup := nodup_queue
  rw [h, List.map_append] at hnodup
  intro p hp q hq
  exact (List.nodup_append.1 hnodup).2.2 _ (List.mem_map_of_mem hp) _ (List.mem_map_of_mem hq)

/-- a period of a store in which some were settled is one of those, or as it was before -/
theorem settled_or_kept {s' : Store} {l : List Period}
    (hsettled : ∀ q ∈ l, s'.periods.get? q.id = some ((a.verdict .sync now q).record q))
    (hothers : ∀ id, (∀ q ∈ l, q.id ≠ id) → s'.periods.get? id = s.periods.get? id)
    (hp : s'.periods.get? p.id = some p) :
    (∃ q ∈ l, p = (a.verdict .sync now q).record q) ∨
      (∀ q ∈ l, q.id ≠ p.id) ∧ s.periods.get? p.id = some p := by
  by_cases hid : ∃ q ∈ l, q.id = p.id
  · obtain ⟨q, hq, hqp⟩ := hid
    have hrecord := hsettled q hq
    rw [hqp, hp] at hrecord
    exact Or.inl ⟨q, hq, Option.some.inj hrecord⟩
  · have hout : ∀ q ∈ l, q.id ≠ p.id := fun q hq e => hid ⟨q, hq, e⟩
    exact Or.inr ⟨hout, (hothers p.id hout).symm.trans hp⟩

/-- a sync settles its batch, and leaves all other periods as they are -/
theorem sync_settles (ha : a.commit = Store.commit)
    (h : ∀ p ∈ a.batchOf .sync s now, a.Syncable now p) :
    (∃ r, (a.sync s now).1 = .ok r ∧ r.claimed = (a.batchOf .sync s now).length ∧
        r.claimed = r.updated + r.skipped ∧ r.lost = 0) ∧
      (∀ p ∈ a.batchOf .sync s now,
        (a.sync s now).2.periods.get? p.id = some ((a.verdict .sync now p).record p)) ∧
      ∀ id, (∀ p ∈ a.batchOf .sync s now, p.id ≠ id) →
        (a.sync s now).2.periods.get? id = s.periods.get? id := by
  have hanswer : ∀ p ∈ a.batchOf .sync s now,
      ∃ o, (a.verdict .sync now p).answer = .ok o ∧ o ≠ .lost := by
    intro p hp
    obtain ⟨c, o, hv, -, hne⟩ := (h p hp).verdict
    exact ⟨o, by rw [hv]; rfl, hne⟩
  have hok : ∀ p ∈ a.batchOf .sync s now, ∃ o, (a.verdict .sync now p).answer = .ok o := by
    intro p hp
    obtain ⟨o, ho, -⟩ := hanswer p hp
    exact ⟨o, ho⟩
  obtain ⟨r, hend⟩ := perform_settled ha hok
  have hanswered : (a.perform .sync s now).1 = .ok r := congrArg Prod.fst hend
  obtain ⟨hleft, -, hother, -⟩ := freed_of_left (ids_records (a.verdict .sync now) _)
    (fun q hq => claim_of_mem_records hq) (congrArg Prod.snd hend)
  refine ⟨⟨r, hanswered, ?_⟩, fun p hp => ?_, hother⟩
  · obtain ⟨hclaimed, hcount⟩ := perform_counts hanswered
    obtain ⟨report, -, hzero, hrun⟩ := perform_eq_runBatch a .sync s now
    rw [hrun] at hanswered
    have hstamped : ∀ p ∈ (a.batchOf .sync s now).map (a.stamped .sync now),
        ∃ o, (a.verdict .sync now p).answer = .ok o ∧ o ≠ .lost := by
      intro q hq
      obtain ⟨p, hp, rfl⟩ := List.mem_map.1 hq
      rw [verdict_stamped]
      exact hanswer p hp
    have hlost := lost_runBatch ha hstamped (held_claimedStore a .sync s now) (nodup_stamped rfl)
      hanswered
    exact ⟨hclaimed, by omega, by omega⟩
  · have hrecord := hleft _ (List.mem_map.2 ⟨p, hp, rfl⟩)
    rwa [Verdict.record_id] at hrecord

/-- **the next sync finds what is left of the queue** -/
theorem queue_sync (ha : a.commit = Store.commit) (h : ∀ p ∈ a.syncQueue s now, a.Syncable now p) :
    a.syncQueue (a.sync s now).2 now = (a.syncQueue s now).drop a.settings.batchSize := by
  have hbatch : ∀ p ∈ a.batchOf .sync s now, p ∈ a.syncQueue s now :=
    fun p hp => List.mem_of_mem_take hp
  obtain ⟨-, hrecords, hothers⟩ := sync_settles ha fun p hp => h p (hbatch p hp)
  have hsplit : a.syncQueue s now =
      a.batchOf .sync s now ++ (a.syncQueue s now).drop a.settings.batchSize :=
    (List.take_append_drop _ _).symm
  refine queue_eq (queue_ascending.sublist (List.drop_sublist _ _)) fun p => ?_
  show p ∈ a.syncQueue (a.sync s now).2 now ↔ _
  constructor
  · intro hp
    obtain ⟨hget, hfree, hdue⟩ := mem_syncQueue.1 hp
    rcases settled_or_kept hrecords hothers hget with ⟨q, hq, rfl⟩ | ⟨hout, hbefore⟩
    · rw [(h q (hbatch q hq)).settled] at hdue
      exact absurd hdue Bool.false_ne_true
    · have hqueue : p ∈ a.syncQueue s now := mem_syncQueue.2 ⟨hbefore, hfree, hdue⟩
      rw [hsplit] at hqueue
      exact (List.mem_append.1 hqueue).resolve_left fun hp => hout p hp rfl
  · intro hp
    obtain ⟨hget, hfree, hdue⟩ := mem_syncQueue.1 (List.mem_of_mem_drop hp)
    rw [← hothers p.id fun q hq => ids_apart hsplit q hq p hp] at hget
    exact mem_syncQueue.2 ⟨hget, hfree, hdue⟩

theorem sync_idle (h : a.syncQueue s now = []) : a.sync s now = (.ok (.ofClaimed 0), s) := by
  have hclaimed : s.claimPeriods (a.syncRequest now) = ([], s) := by
    have hnone : s.claimable (a.syncRequest now) = [] := by
      rw [Store.claimable_eq_take]
      show (a.syncQueue s now).take _ = []
      rw [h, List.take_nil]
    unfold Store.claimPeriods
    rw [hnone]
    rfl
  rw [sync_eq_run]
  unfold run
  rw [hclaimed]
  rfl

/-- as many syncs as it takes to claim `n` periods in batches -/
def syncsFor (a : Accountant) (now n : Nat) : List Call :=
  List.replicate ((n + a.settings.batchSize - 1) / a.settings.batchSize) ⟨a, .sync, now⟩

end Accountant

/-! ## a row of syncs -/

namespace Store

/-- the answers of runs one after the other -/
def answers (s : Store) : List Call → List (Except AccountingError BatchReport)
  | [] => []
  | call :: rest =>
    let (answer, s) := call.accountant.perform call.op s call.now
    answer :: answers s rest

/-- the periods that each of the runs claims, as they are before it -/
def batches (s : Store) : List Call → List (List Period)
  | [] => []
  | call :: rest =>
    call.accountant.batchOf call.op s call.now ::
      batches (call.accountant.perform call.op s call.now).2 rest

/-- syncs that settle the periods of `due` one after the other, and nothing else -/
structure Drained (a : Accountant) (now : Nat) (s : Store) (calls : List Call)
    (due : List Period) : Prop where
  batches : (s.batches calls).flatten = due
  reports : ∃ reports : List BatchReport, s.answers calls = reports.map .ok ∧
    reports.map (·.claimed) = (s.batches calls).map List.length ∧
    ∀ r ∈ reports, r.claimed = r.updated + r.skipped ∧ r.lost = 0
  settled : ∀ p ∈ due,
    (s.after calls).periods.get? p.id = some ((a.verdict .sync now p).record p)
  others : ∀ id, (∀ p ∈ due, p.id ≠ id) →
    (s.after calls).periods.get? id = s.periods.get? id
  exhausted : a.syncQueue (s.after calls) now = []

variable {a : Accountant} {s : Store} {now : Nat}

theorem Drained.cons (ha : a.commit = Store.commit) {calls : List Call} {due : List Period}
    (h : ∀ p ∈ a.syncQueue s now, a.Syncable now p)
    (hdrained : Drained a now (a.sync s now).2 calls due)
    (hdue : a.syncQueue s now = a.batchOf .sync s now ++ due) :
    Drained a now s (⟨a, .sync, now⟩ :: calls) (a.syncQueue s now) := by
  obtain ⟨⟨r, hr, hclaimed, hcount⟩, hrecords, hothers⟩ :=
    Accountant.sync_settles ha fun p hp => h p (hdue ▸ List.mem_append_left _ hp)
  obtain ⟨reports, hanswers, hlengths, hcounts⟩ := hdrained.reports
  refine ⟨?_, ⟨r :: reports, ?_, ?_, ?_⟩, fun p hp => ?_, fun id hid => ?_, hdrained.exhausted⟩
  · show a.batchOf .sync s now ++ (Store.batches (a.sync s now).2 calls).flatten = _
    rw [hdrained.batches, hdue]
  · show (a.sync s now).1 :: Store.answers (a.sync s now).2 calls = _
    rw [hr, hanswers, List.map_cons]
  · show r.claimed :: reports.map (·.claimed) = _ :: _
    rw [hclaimed, hlengths]
    rfl
  · exact List.forall_mem_cons.2 ⟨hcount, hcounts⟩
  · show ((a.sync s now).2.after calls).periods.get? p.id = _
    rw [hdue] at hp
    rcases List.mem_append.1 hp with hp | hp
    · rw [hdrained.others p.id fun q hq => (Accountant.ids_apart hdue p hp q hq).symm]
      exact hrecords p hp
    · exact hdrained.settled p hp
  · show ((a.sync s now).2.after calls).periods.get? id = _
    rw [hdue] at hid
    rw [hdrained.others id fun p hp => hid p (List.mem_append_right _ hp)]
    exact hothers id fun p hp => hid p (List.mem_append_left _ hp)

theorem drained_replicate (ha : a.commit = Store.commit) {k : Nat}
    (hk : (a.syncQueue s now).length ≤ k * a.settings.batchSize)
    (h : ∀ p ∈ a.syncQueue s now, a.Syncable now p) :
    Drained a now s (List.replicate k ⟨a, .sync, now⟩) (a.syncQueue s now) := by
  induction k generalizing s with
  | zero =>
    have hnone : a.syncQueue s now = [] := List.length_eq_zero_iff.1 (by omega)
    rw [hnone]
    exact ⟨rfl, ⟨[], rfl, rfl, fun r hr => absurd hr List.not_mem_nil⟩,
      fun p hp => absurd hp List.not_mem_nil, fun _ _ => rfl, hnone⟩
  | succ k ih =>
    have hqueue := Accountant.queue_sync ha h
    have hrest : Drained a now (a.sync s now).2 (List.replicate k ⟨a, .sync, now⟩)
        (a.syncQueue (a.sync s now).2 now) := by
      refine ih ?_ fun p hp => ?_
      · rw [hqueue, List.length_drop]
        rw [Nat.succ_mul] at hk
        omega
      · rw [hqueue] at hp
        exact h p (List.mem_of_mem_drop hp)
    refine Drained.cons ha h hrest ?_
    rw [hqueue, Accountant.batchOf_sync, List.take_append_drop]

theorem drained_syncsFor (ha : a.commit = Store.commit) (hbatch : 1 ≤ a.settings.batchSize)
    (h : ∀ p ∈ a.syncQueue s now, a.Syncable now p) :
    Drained a now s (a.syncsFor now (a.syncQueue s now).length) (a.syncQueue s now) := by
  refine drained_replicate ha ?_ h
  have hround := Nat.lt_div_mul_add (a := (a.syncQueue s now).length + a.settings.batchSize - 1)
    (show 0 < a.settings.batchSize from hbatch)
  omega

/-- five bytes down for every period -/
def inPairs : Accountant where
  settings := { batchSize := 2 }
  reader := fun _ => .ok (some (FieldSums.add .empty downloadField 5))

/-- used at 900 and synced at `time` -/
def syncedAt (id : Id) (time : Nat) : Period :=
  { Accountant.usedAt id 900 with counter := ⟨some 0, .none, .none, some time⟩ }

/-- two periods never synced, one synced long ago, and one synced after it was used -/
def fourPeriods : Store :=
  .ofPeriods [syncedAt 1 500, Accountant.usedAt 2 900, Accountant.usedAt 3 900, syncedAt 4 950]

theorem due_fourPeriods :
    (fourPeriods.periods.records.filter (syncDue · inPairs.settings.activityGapSecs)) =
      [syncedAt 1 500, Accountant.usedAt 2 900, Accountant.usedAt 3 900] := by
  decide +kernel

theorem syncable_fourPeriods {p : Period}
    (h : p ∈ [syncedAt 1 500, Accountant.usedAt 2 900, Accountant.usedAt 3 900]) :
    p.isClaimed 1000 = false ∧ inPairs.Syncable 1000 p := by
  have hall : ∀ p ∈ [syncedAt 1 500, Accountant.usedAt 2 900, Accountant.usedAt 3 900],
      p.isClaimed 1000 = false ∧ inPairs.syncFloor 1000 p < 1000 ∧ p.usage.last = some 900 := by
    decide +kernel
  obtain ⟨hfree, hwindow, hlast⟩ := hall p h
  refine ⟨hfree, hwindow, ⟨_, rfl⟩, fun used hused => ?_⟩
  obtain rfl : 900 = used := Option.some.inj (hlast.symm.trans hused)
  decide

end Store

end ProxyMesh
