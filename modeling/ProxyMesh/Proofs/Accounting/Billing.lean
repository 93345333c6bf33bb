import Mathlib.Logic.Relation
import ProxyMesh.Proofs.Accounting.Batches
import ProxyMesh.Proofs.Accounting.Windows

/-!
# Every byte is billed once

A counter keeps the traffic since its flow point apart from the total that is billed.  Syncs read the
window anew, forwards cut it from behind, points come late: the total is always the traffic since the
first flow point, up to the flow point of now, and what the window held at the last sync.

* `Ledger`        the store, the series, and the flow point that a period's first sync wrote;
* `Ledger.Step`   points pushed, periods touched, a sync or a forward, whatever the settings;
* `Billed`        the invariant of a counter; `Billed.push`, `later`, `synced`, `forwarded`;
* `current_eq_flow_plus_usage`   **the total is the flow and the traffic before the flow point, and
                                 after a sync it is all traffic since the first flow point**.
-/

namespace ProxyMesh

open Store (counter?)

/-- one period's account -/
structure Ledger where
  store : Store
  points : List Point
  /-- the time of the last sync or forward -/
  clock : Nat
  /-- the flow point that the period's first committed sync wrote -/
  origin : Option Nat

namespace Ledger

def start (s : Store) (clock : Nat) : Ledger := ⟨s, [], clock, none⟩

def flowPoint? (s : Store) (period : Id) : Option Nat := (s.counter? period).bind (·.flowPointAt)

def push (w : Ledger) (points : List Point) : Ledger := { w with points := w.points ++ points }

def touch (w : Ledger) (id : Id) (time : Nat) : Ledger :=
  { w with store := (w.store.touchPeriod id time).2 }

def sync (w : Ledger) (period : Id) (a : Accountant) (now : Nat) : Ledger where
  store := (a.sync w.store now).2
  points := w.points
  clock := now
  origin :=
    if period ∈ a.committedBy w.store now then
      w.origin.or (flowPoint? (a.sync w.store now).2 period)
    else w.origin

def forward (w : Ledger) (a : Accountant) (now : Nat) : Ledger :=
  { w with store := (a.forward w.store now).2, clock := now }

/-- an accountant that bills bytes as they are and reads these points; any query may fail -/
structure Reads (a : Accountant) (points : List Point) : Prop where
  factor : a.settings.correctionFactor = .one
  commit : a.commit = Store.commit
  answers : ∀ q, a.reader q = memoryReader points none q ∨ ∃ e, a.reader q = .error e

/-- points that may be pushed: those of the period count, lie in its window, and leave its sums within 64
bits -/
structure Admits (w : Ledger) (period : Id) (points : List Point) : Prop where
  window : ∀ pt ∈ points, pt.isUsageOf period = true →
    pt.Counts ∧ ∀ floor, flowPoint? w.store period = some floor → floor ≤ pt.time
  fits : (usageOf (w.points ++ points) period).Fits

inductive Step (period : Id) : Ledger → Ledger → Prop
  | push {w : Ledger} (points : List Point) (h : w.Admits period points) :
      Step period w (w.push points)
  | touch {w : Ledger} (id : Id) (time : Nat) : Step period w (w.touch id time)
  | sync {w : Ledger} (a : Accountant) (now : Nat) (hnow : w.clock ≤ now)
      (ha : Reads a w.points) : Step period w (w.sync period a now)
  | forward {w : Ledger} (a : Accountant) (now : Nat) (hnow : w.clock ≤ now)
      (ha : Reads a w.points) : Step period w (w.forward a now)

/-- what may become of the period when its store begins with an empty series -/
def Reachable (period : Id) (s : Store) (w : Ledger) : Prop :=
  ∃ clock, Relation.ReflTransGen (Step period) (start s clock) w

end Ledger

/-! ## the folds without a factor -/

section
variable {c : Counter} {floor now : Nat} {sum : Traffic}

/-- a sync whose window holds no less than before bills what it holds more -/
theorem syncedCounter_of_le (h : c.flow ≤ sum) :
    Accountant.syncedCounter c floor now sum .one =
      ⟨some floor, sum, c.current.plus (sum.minus c.flow), some now⟩ := by
  unfold Accountant.syncedCounter
  cases hz : sum.isZero with
  | false => rfl
  | true =>
    have hsum : sum = .none := Traffic.isZero_iff.1 hz
    subst hsum
    have hflow : c.flow = .none := by
      obtain ⟨hd, hu⟩ := h
      ext
      · exact Nat.le_zero.1 hd
      · exact Nat.le_zero.1 hu
    have hcur : c.current.plus (Traffic.none.minus c.flow) = c.current := by
      rw [hflow]
      exact Traffic.plus_none _
    rw [hcur, ← hflow]
    rfl

theorem foldForward_one (c : Counter) (gone : Traffic) (floor : Nat) :
    (c.foldForward gone floor .one).2 =
      ⟨some floor, c.flow.minus gone, c.current.plus (gone.minus c.flow), c.lastFlowSyncAt⟩ := rfl

end

/-! ## the invariant of a counter -/

/-- what a counter says of the points; `origin` is the first flow point -/
inductive Billed (period : Id) (points : List Point) (clock : Nat) : Option Nat → Counter → Prop
  | unset {c : Counter} (hpoint : c.flowPointAt = none) (hflow : c.flow = .none)
      (hcur : c.current = .none) : Billed period points clock none c
  | set {c : Counter} {origin floor : Nat} (hpoint : c.flowPointAt = some floor)
      (hle : origin ≤ floor)
      (hcur : c.current = c.flow.plus (usageIn points period origin floor))
      (hflow : c.flow ≤ usageIn points period floor clock) :
      Billed period points clock (some origin) c

namespace Billed

variable {period : Id} {points more : List Point} {clock now : Nat} {origin : Option Nat}
  {c : Counter}

theorem initial : Billed period points clock none .initial := .unset rfl rfl rfl

theorem push (h : Billed period points clock origin c)
    (hlate : ∀ pt ∈ more, pt.isUsageOf period = true →
      ∀ floor, c.flowPointAt = some floor → floor ≤ pt.time) :
    Billed period (points ++ more) clock origin c := by
  cases h with
  | unset hpoint hflow hcur => exact .unset hpoint hflow hcur
  | set hpoint hle hcur hflow =>
    refine .set hpoint hle ?_ (Traffic.le_trans hflow (usageIn_le_append _ _ _ _ _))
    rw [usageIn_append, usageIn_late fun pt hpt hu => hlate pt hpt hu _ hpoint,
      Traffic.plus_none]
    exact hcur

theorem later (h : Billed period points clock origin c) (hnow : clock ≤ now) :
    Billed period points now origin c := by
  cases h with
  | unset hpoint hflow hcur => exact .unset hpoint hflow hcur
  | set hpoint hle hcur hflow =>
    exact .set hpoint hle hcur (Traffic.le_trans hflow (usageIn_le_later _ _ hnow))

theorem synced {floor standard : Nat} (h : Billed period points clock origin c)
    (hnow : clock ≤ now) (hfloor : floor = c.flowPointAt.getD standard) (hlt : floor < now) :
    ∃ first, origin.or (some floor) = some first ∧ first ≤ floor ∧
      Accountant.syncedCounter c floor now (usageIn points period floor now) .one =
        ⟨some floor, usageIn points period floor now, usageIn points period first now,
          some now⟩ := by
  cases h with
  | unset hpoint hflow hcur =>
    refine ⟨floor, rfl, Nat.le_refl _, ?_⟩
    rw [syncedCounter_of_le (hflow ▸ Traffic.none_le _), hflow, hcur]
    congr 1
    exact Traffic.none_plus _
  | @set _ origin floor₀ hpoint hle hcur hflow =>
    have hsame : floor = floor₀ := by rw [hfloor, hpoint]; rfl
    subst hsame
    have hmore : c.flow ≤ usageIn points period floor now :=
      Traffic.le_trans hflow (usageIn_le_later _ _ hnow)
    refine ⟨origin, rfl, hle, ?_⟩
    rw [syncedCounter_of_le hmore, hcur, usageIn_split points period hle (Nat.le_of_lt hlt)]
    congr 1
    rw [Traffic.le_iff] at hmore
    ext <;> simp <;> omega

theorem forwarded {floor newFloor : Nat} (h : Billed period points clock origin c)
    (hpoint : c.flowPointAt = some floor) (hlt : floor < newFloor) (hnow : clock ≤ now)
    (hnew : newFloor ≤ now) :
    Billed period points now origin
      (c.foldForward (usageIn points period floor newFloor) newFloor .one).2 := by
  cases h with
  | unset hnone _ _ => exact nomatch hnone.symm.trans hpoint
  | @set _ origin floor₀ hset hle hcur hflow =>
    have hsame : floor₀ = floor := Option.some.inj (hset.symm.trans hpoint)
    subst hsame
    rw [foldForward_one]
    refine .set rfl (Nat.le_trans hle (Nat.le_of_lt hlt)) ?_ ?_
    · show c.current.plus _ = (c.flow.minus _).plus _
      rw [hcur, usageIn_split points period hle (Nat.le_of_lt hlt)]
      ext <;> simp <;> omega
    · have hmore := Traffic.le_trans hflow (usageIn_le_later points period hnow)
      rw [usageIn_split points period (Nat.le_of_lt hlt) hnew] at hmore
      show c.flow.minus _ ≤ _
      rw [Traffic.le_iff] at hmore ⊢
      simp only [Traffic.plus_download, Traffic.plus_upload, Traffic.minus_download,
        Traffic.minus_upload] at hmore ⊢
      omega

end Billed

/-! ## every step -/

namespace Ledger

variable {period : Id} {w w' : Ledger} {a : Accountant} {now : Nat}

theorem Reads.traffic_eq {points : List Point} (ha : Reads a points)
    (hcounts : ∀ pt ∈ points, pt.isUsageOf period = true → pt.Counts)
    (hfits : (usageOf points period).Fits) {start stop : Nat} {t : Traffic}
    (h : a.traffic period start stop = .ok t) : t = usageIn points period start stop := by
  unfold Accountant.traffic at h
  rcases ha.answers (usageQuery period start stop) with hr | ⟨e, hr⟩
  · rw [hr] at h
    unfold memoryReader at h
    cases hq : (usageQuery period start stop).check with
    | error e =>
      rw [hq] at h
      cases h
    | ok _ =>
      rw [hq] at h
      exact (Except.ok.inj h).symm.trans
        (windowTraffic_sumPoints hcounts (hfits.of_le (usageIn_le_usageOf _ _ _ _)))
  · rw [hr] at h
    cases h

theorem flowPoint?_of_counter? {s : Store} {c : Counter} (h : counter? s period = some c) :
    flowPoint? s period = c.flowPointAt := by
  unfold flowPoint?
  rw [h]
  rfl

theorem counter?_touchPeriod (s : Store) (id : Id) (time : Nat) (id' : Id) :
    counter? (s.touchPeriod id time).2 id' = counter? s id' := by
  unfold counter?
  rw [Store.get?_touchPeriod]
  split
  · rw [Option.map_map]; rfl
  · rfl

structure Inv (period : Id) (w : Ledger) : Prop where
  counts : ∀ pt ∈ w.points, pt.isUsageOf period = true → pt.Counts
  fits : (usageOf w.points period).Fits
  billed : ∃ c, counter? w.store period = some c ∧ Billed period w.points w.clock w.origin c

theorem Inv.start {s : Store} (h : counter? s period = some .initial) (clock : Nat) :
    (start s clock).Inv period :=
  ⟨fun _ hpt => absurd hpt List.not_mem_nil, show Traffic.none.Fits by decide, .initial, h, .initial⟩

theorem Inv.push (h : w.Inv period) {points : List Point} (hp : w.Admits period points) :
    (w.push points).Inv period := by
  obtain ⟨c, hc, hb⟩ := h.billed
  refine ⟨?_, hp.fits, c, hc, hb.push fun pt hpt hu floor hf => ?_⟩
  · intro pt hpt hu
    rcases List.mem_append.1 hpt with hpt | hpt
    · exact h.counts pt hpt hu
    · exact (hp.window pt hpt hu).1
  · exact (hp.window pt hpt hu).2 floor ((flowPoint?_of_counter? hc).trans hf)

theorem Inv.touch (h : w.Inv period) (id : Id) (time : Nat) : (w.touch id time).Inv period := by
  obtain ⟨c, hc, hb⟩ := h.billed
  exact ⟨h.counts, h.fits, c, (counter?_touchPeriod _ _ _ _).trans hc, hb⟩

/-- a sync that does not commit the period leaves its counter alone -/
theorem sync_uncommitted {c : Counter} (hc : counter? w.store period = some c)
    (ha : Reads a w.points) (hn : period ∉ a.committedBy w.store now) :
    counter? (a.sync w.store now).2 period = some c := by
  rw [Accountant.sync_eq_run]
  rcases Accountant.run_effect (a.storesSync now) (Accountant.local_syncOne ha.commit now)
    (a.syncRequest now) hc with ⟨hsame, -⟩ | ⟨p, s₁, rfl, rfl, hclaim, hget, hrun, hmem⟩
  · exact hsame
  · rw [hrun]
    rcases Accountant.syncOne_effect ha.commit hget hclaim with ⟨hsame, -⟩ | ⟨_, _, _, hstored, _⟩
    · exact hsame
    · exact absurd (hmem.2 hstored) hn

/-- a sync that commits the period: its total is all traffic since the first flow point -/
theorem sync_committed (h : w.Inv period) (hnow : w.clock ≤ now) (ha : Reads a w.points)
    (hmem : period ∈ a.committedBy w.store now) :
    ∃ first floor, first ≤ floor ∧ floor < now ∧ (w.sync period a now).origin = some first ∧
      counter? (w.sync period a now).store period =
        some ⟨some floor, usageIn w.points period floor now, usageIn w.points period first now,
          some now⟩ := by
  obtain ⟨c, hc, hb⟩ := h.billed
  rcases Accountant.run_effect (a.storesSync now) (Accountant.local_syncOne ha.commit now)
    (a.syncRequest now) hc with ⟨-, hn⟩ | ⟨p, s₁, rfl, rfl, hclaim, hget, hrun, hiff⟩
  · exact absurd hmem hn
  · rcases Accountant.syncOne_effect ha.commit hget hclaim with ⟨-, hn⟩ | ⟨sum, hlt, hsum, -, hcnt⟩
    · exact absurd (hiff.1 hmem) hn
    · rw [ha.traffic_eq h.counts h.fits hsum, ha.factor] at hcnt
      have hfloor : a.syncFloor now p =
          p.counter.flowPointAt.getD (now - a.settings.regulateSeconds) := rfl
      obtain ⟨first, horigin, hle, hnew⟩ := hb.synced hnow hfloor hlt
      rw [hnew] at hcnt
      have hstored := hrun.trans hcnt
      refine ⟨first, a.syncFloor now p, hle, hlt, ?_, hstored⟩
      show (if p.id ∈ a.committedBy w.store now then
        w.origin.or (flowPoint? (a.sync w.store now).2 p.id) else w.origin) = _
      rw [if_pos hmem, Accountant.sync_eq_run, flowPoint?_of_counter? hstored]
      exact horigin

theorem Inv.sync (h : w.Inv period) (hnow : w.clock ≤ now) (ha : Reads a w.points) :
    (w.sync period a now).Inv period := by
  refine ⟨h.counts, h.fits, ?_⟩
  by_cases hmem : period ∈ a.committedBy w.store now
  · obtain ⟨first, floor, hle, hlt, horigin, hcnt⟩ := sync_committed h hnow ha hmem
    refine ⟨_, hcnt, ?_⟩
    rw [horigin]
    refine .set rfl hle ?_ ⟨Nat.le_refl _, Nat.le_refl _⟩
    show usageIn w.points period first now = _
    rw [usageIn_split w.points period hle (Nat.le_of_lt hlt)]
    exact Traffic.plus_comm _ _
  · obtain ⟨c, hc, hb⟩ := h.billed
    refine ⟨c, sync_uncommitted hc ha hmem, ?_⟩
    have horigin : (w.sync period a now).origin = w.origin := if_neg hmem
    rw [horigin]
    exact hb.later hnow

theorem Inv.forward (h : w.Inv period) (hnow : w.clock ≤ now) (ha : Reads a w.points) :
    (w.forward a now).Inv period := by
  obtain ⟨c, hc, hb⟩ := h.billed
  refine ⟨h.counts, h.fits, ?_⟩
  show ∃ c, counter? (a.forward w.store now).2 period = some c ∧
    Billed period w.points now w.origin c
  rw [Accountant.forward_eq_run]
  rcases Accountant.run_effect (fun _ _ => true)
    (Accountant.local_forwardOne ha.commit (a.retentionFloor now)) (a.forwardRequest now) hc
    with ⟨hsame, -⟩ | ⟨p, s₁, rfl, rfl, hclaim, hget, hrun, -⟩
  · exact ⟨c, hsame, hb.later hnow⟩
  · rcases Accountant.forwardOne_effect ha.commit hget hclaim
      with hsame | ⟨floor, gone, hpoint, hlt, hgone, hcnt⟩
    · exact ⟨p.counter, hrun.trans hsame, hb.later hnow⟩
    · rw [ha.traffic_eq h.counts h.fits hgone, ha.factor] at hcnt
      have hnew : a.retentionFloor now ≤ now := Nat.sub_le _ _
      exact ⟨_, hrun.trans hcnt, hb.forwarded hpoint hlt hnow hnew⟩

theorem Inv.step (h : w.Inv period) (hs : Step period w w') : w'.Inv period := by
  cases hs with
  | push points hp => exact h.push hp
  | touch id time => exact h.touch id time
  | sync a now hnow ha => exact h.sync hnow ha
  | forward a now hnow ha => exact h.forward hnow ha

theorem Reachable.inv {s : Store} (h₀ : counter? s period = some .initial)
    (h : Reachable period s w) : w.Inv period := by
  obtain ⟨clock, hs⟩ := h
  induction hs with
  | refl => exact Inv.start h₀ clock
  | tail _ hstep ih => exact ih.step hstep

/-- **No byte is lost or billed twice.**  The total of a period is its flow and the traffic between the
first flow point and the flow point of now; right after a sync that commits the period it is all
traffic since the first flow point. -/
theorem current_eq_flow_plus_usage {s : Store} (h₀ : counter? s period = some .initial)
    (h : Reachable period s w) :
    (∃ c, counter? w.store period = some c ∧
      ((w.origin = none ∧ c.flowPointAt = none ∧ c.flow = .none ∧ c.current = .none) ∨
        ∃ first floor, w.origin = some first ∧ c.flowPointAt = some floor ∧ first ≤ floor ∧
          c.current = c.flow.plus (usageIn w.points period first floor))) ∧
    (∀ a now, w.clock ≤ now → Reads a w.points → period ∈ a.committedBy w.store now →
      ∃ first c, (w.sync period a now).origin = some first ∧
        counter? (w.sync period a now).store period = some c ∧ c.lastFlowSyncAt = some now ∧
        c.current = usageIn w.points period first now) ∧
    (∀ a now, Reads a w.points → period ∉ a.committedBy w.store now →
      counter? (w.sync period a now).store period = counter? w.store period) := by
  have hinv := h.inv h₀
  refine ⟨?_, ?_, ?_⟩
  · obtain ⟨c, hc, hb⟩ := hinv.billed
    refine ⟨c, hc, ?_⟩
    generalize w.origin = origin at hb
    cases hb with
    | unset hpoint hflow hcur => exact Or.inl ⟨rfl, hpoint, hflow, hcur⟩
    | set hpoint hle hcur _ => exact Or.inr ⟨_, _, rfl, hpoint, hle, hcur⟩
  · intro a now hnow ha hmem
    obtain ⟨first, _, _, _, horigin, hcnt⟩ := sync_committed hinv hnow ha hmem
    exact ⟨first, _, horigin, hcnt, rfl, rfl⟩
  · intro a now ha hn
    obtain ⟨c, hc, _⟩ := hinv.billed
    exact (sync_uncommitted hc ha hn).trans hc.symm

/-! ## a late point and a flow point moved past it -/

def usagePoint (time download upload : Nat) : Point :=
  ((((Point.bare usageMeasurement time).withTag "usage_type" "user").withTag "period_id" "1").withField
    downloadField (.ofNat download)).withField uploadField (.ofNat upload)

def readerOf (points : List Point) : Accountant where
  settings := {}
  reader := memoryReader points none

theorem reads_readerOf (points : List Point) : Reads (readerOf points) points :=
  ⟨rfl, rfl, fun _ => Or.inl rfl⟩

def firstPoint : Point := usagePoint 900 100 10

def latePoint : Point := usagePoint 500 7 0

/-- used and synced once -/
def syncedOnce : Ledger :=
  (((start (.ofPeriods [.fresh 1]) 0).touch 1 950).push [firstPoint]).sync 1 (readerOf [firstPoint]) 1000

/-- then a late point, which leaves the window before it was ever synced -/
def overshot : Ledger :=
  ((syncedOnce.push [latePoint]).forward (readerOf [firstPoint, latePoint]) 500000).touch 1 500000

theorem reachable_overshot : Reachable 1 (.ofPeriods [.fresh 1]) overshot := by
  refine ⟨0, ?_⟩
  have h₁ := (Relation.ReflTransGen.refl (r := Step 1)
    (a := start (.ofPeriods [.fresh 1]) 0)).tail (.touch 1 950)
  have h₂ := h₁.tail (.push [firstPoint] ?_)
  · have h₃ := h₂.tail (.sync (readerOf [firstPoint]) 1000 (by decide) (reads_readerOf _))
    have h₄ := h₃.tail (.push [latePoint] ?_)
    · have h₅ := h₄.tail (.forward (readerOf [firstPoint, latePoint]) 500000 (by decide)
        (reads_readerOf _))
      exact h₅.tail (.touch 1 500000)
    · refine ⟨fun pt hpt _ => ?_, by decide +kernel⟩
      obtain rfl := List.mem_singleton.1 hpt
      refine ⟨by decide +kernel, fun floor hfloor => ?_⟩
      have hzero : flowPoint? syncedOnce.store 1 = some 0 := by decide +kernel
      obtain rfl : 0 = floor := Option.some.inj (hzero.symm.trans hfloor)
      exact Nat.zero_le _
  · refine ⟨fun pt hpt _ => ?_, by decide +kernel⟩
    obtain rfl := List.mem_singleton.1 hpt
    refine ⟨by decide +kernel, fun floor hfloor => ?_⟩
    have hnone : flowPoint? ((start (.ofPeriods [.fresh 1]) 0).touch 1 950).store 1 = none := by
      decide +kernel
    exact nomatch hnone.symm.trans hfloor

/-- the late bytes are billed when the flow point passes them, and not again by the next sync -/
theorem current_eq_flow_plus_usage_overshot :
    counter? (Store.ofPeriods [.fresh 1]) 1 = some .initial ∧
      Reachable 1 (.ofPeriods [.fresh 1]) overshot ∧
      (∃ c, counter? overshot.store 1 = some c ∧ c.flowPointAt = some 68000 ∧
        c.current = c.flow.plus ⟨107, 10⟩) ∧
      ∃ c, counter? (overshot.sync 1 (readerOf overshot.points) 500001).store 1 = some c ∧
        c.current = ⟨107, 10⟩ := by
  have h₀ : counter? (Store.ofPeriods [.fresh 1]) 1 = some .initial := by decide +kernel
  obtain ⟨⟨c, hc, hbilled⟩, hsync, -⟩ := current_eq_flow_plus_usage h₀ reachable_overshot
  refine ⟨h₀, reachable_overshot, ⟨c, hc, ?_⟩, ?_⟩
  · have horigin : overshot.origin = some 0 := by decide +kernel
    have hpoint : flowPoint? overshot.store 1 = some 68000 := by decide +kernel
    rw [flowPoint?_of_counter? hc] at hpoint
    rcases hbilled with ⟨hnone, -⟩ | ⟨first, floor, hfirst, hfloor, -, hcur⟩
    · exact nomatch horigin.symm.trans hnone
    · obtain rfl : 0 = first := Option.some.inj (horigin.symm.trans hfirst)
      obtain rfl : 68000 = floor := Option.some.inj (hpoint.symm.trans hfloor)
      refine ⟨hpoint, hcur.trans ?_⟩
      rw [show usageIn overshot.points 1 0 68000 = ⟨107, 10⟩ by decide +kernel]
  · obtain ⟨first, c, hfirst, hc, -, hcur⟩ := hsync (readerOf overshot.points) 500001
      (by decide +kernel) (reads_readerOf _) (by decide +kernel)
    have horigin : (overshot.sync 1 (readerOf overshot.points) 500001).origin = some 0 := by
      decide +kernel
    obtain rfl : 0 = first := Option.some.inj (horigin.symm.trans hfirst)
    refine ⟨c, hc, hcur.trans ?_⟩
    decide +kernel

end Ledger

end ProxyMesh
