import ProxyMesh.Proofs.Accounting.Windows
import ProxyMesh.Proofs.Traffic.Intake
import ProxyMesh.Proofs.User.Emails

/-!
# What a report adds to the sums of a period

A report makes one point of each subject, with a field for each direction.  A query finds the points
by the tags that their subjects gave them, so what it finds is what was reported of the period.

* `Subject.isUserOf`        the subject is a user of the period;
* `isUsageIn_point`         the tags of a point say so;
* `held`, `held_addSample`  what the points hold of a subject in a direction, sample by sample;
* `usageTotal`, `usageTotal_foldl`   one direction of a period, added up over all of its users;
* `reports_exact`, `reports_present`   **a period's points hold what the report says of it**, in each
                            direction.
-/

namespace ProxyMesh

/-! ## tags and fields -/

namespace Point

theorem tag?_withTag_self (p : Point) {name value : String} (h : value ≠ "") :
    (p.withTag name value).tag? name = some value := by
  have hfull : value.isEmpty = false := by
    cases hempty : value.isEmpty with
    | false => rfl
    | true => exact absurd (String.isEmpty_iff.1 hempty) h
  unfold withTag tag?
  have hput : (p.tags.put (name, value)).get? name = some (name, value) :=
    Table.get?_put_self p.tags (name, value)
  rw [hfull]
  show (Table.get? (p.tags.put (name, value)) name).map (·.2) = some value
  rw [hput]
  rfl

theorem tag?_withTag_ne (p : Point) {name other value : String} (h : other ≠ name) :
    (p.withTag name value).tag? other = p.tag? other := by
  unfold withTag tag?
  split
  · rfl
  · show (Table.get? (p.tags.put (name, value)) other).map (·.2) = _
    rw [Table.get?_put_ne p.tags h]

@[simp] theorem fields_withTag (p : Point) (name value : String) :
    (p.withTag name value).fields = p.fields := by
  unfold withTag
  split <;> rfl

@[simp] theorem time_withTag (p : Point) (name value : String) :
    (p.withTag name value).time = p.time := by
  unfold withTag
  split <;> rfl

@[simp] theorem measurement_withTag (p : Point) (name value : String) :
    (p.withTag name value).measurement = p.measurement := by
  unfold withTag
  split <;> rfl

theorem whole?_withField_self (p : Point) (name : String) (n : Int) :
    (p.withField name (.int n)).whole? name = some n := by
  have hput : (p.fields.put (name, .int n)).get? name = some (name, .int n) :=
    Table.get?_put_self p.fields (name, .int n)
  unfold whole?
  show (Table.get? (p.fields.put (name, .int n)) name).bind _ = _
  rw [hput]
  rfl

theorem whole?_withField_ne (p : Point) {name other : String} (value : FieldValue)
    (h : other ≠ name) : (p.withField name value).whole? other = p.whole? other := by
  unfold whole?
  show (Table.get? (p.fields.put (name, value)) other).bind _ = _
  rw [Table.get?_put_ne p.fields h]

end Point

theorem Direction.field_inj {d e : Direction} (h : d.field = e.field) : d = e := by
  have hne : downloadField ≠ uploadField := by decide
  cases d <;> cases e
  · rfl
  · exact absurd h hne
  · exact absurd h.symm hne
  · rfl

/-! ## the points of subjects -/

theorem toString_ne_empty (id : Id) : toString id ≠ "" :=
  fun h => Text.numeral_ne_nil id (congrArg String.toList h)

namespace Subject

variable {s : Subject} {node period : Id} {start stop time : Nat}

def isUserOf (s : Subject) (period : Id) : Bool :=
  match s with
  | .user p _ _ => p == period
  | _ => false

theorem point_frame (node : Id) (time : Nat) (s : Subject) :
    (s.point node time).fields = .empty ∧ (s.point node time).time = time ∧
      (s.point node time).measurement = usageMeasurement := by
  cases s with
  | user p profile member => cases member <;> simp [point, Point.bare]
  | internalUser rule origin => simp [point, Point.bare]
  | inbound tag => simp [point, Point.bare]
  | outbound tag => simp [point, Point.bare]

theorem tags_user (node : Id) (time : Nat) (p profile : Id) (member : Option Id) :
    ((Subject.user p profile member).point node time).tag? "usage_type" = some "user" ∧
      ((Subject.user p profile member).point node time).tag? "period_id" = some (toString p) := by
  have hp := toString_ne_empty p
  cases member <;> simp [point, Point.tag?_withTag_ne, Point.tag?_withTag_self, hp]

theorem usageType_of_not_user (h : ∀ p profile member, s ≠ .user p profile member) :
    (s.point node time).tag? "usage_type" ≠ some "user" := by
  cases s with
  | user p profile member => exact absurd rfl (h p profile member)
  | internalUser rule origin => simp [point, Point.tag?_withTag_ne, Point.tag?_withTag_self]
  | inbound tag => simp [point, Point.tag?_withTag_ne, Point.tag?_withTag_self]
  | outbound tag => simp [point, Point.tag?_withTag_ne, Point.tag?_withTag_self]

theorem isUsageIn_point (s : Subject) : (s.point node time).isUsageIn period start stop =
    (s.isUserOf period && (decide (start ≤ time) && decide (time < stop))) := by
  obtain ⟨-, htime, hmeasurement⟩ := point_frame node time s
  unfold Point.isUsageIn Point.isUsageOf
  rw [htime, hmeasurement, beq_self_eq_true, Bool.true_and]
  congr 1
  by_cases hs : ∃ p profile member, s = .user p profile member
  · obtain ⟨p, profile, member, rfl⟩ := hs
    obtain ⟨htype, hid⟩ := tags_user node time p profile member
    rw [htype, hid, beq_self_eq_true, Bool.true_and]
    have hinj : toString p = toString period ↔ p = period := ⟨UserName.toString_inj, congrArg _⟩
    show (some (toString p) == some (toString period)) = (p == period)
    rw [Bool.eq_iff_iff, beq_iff_eq, beq_iff_eq, Option.some.injEq, hinj]
  · -- nobody else is tagged as a user
    have htype : ((s.point node time).tag? "usage_type" == some "user") = false := by
      rw [beq_eq_false_iff_ne]
      exact usageType_of_not_user fun p profile member h => hs ⟨p, profile, member, h⟩
    rw [htype, Bool.false_and]
    cases s with
    | user p profile member => exact absurd ⟨p, profile, member, rfl⟩ hs
    | internalUser rule origin => rfl
    | inbound tag => rfl
    | outbound tag => rfl

end Subject

/-! ## the points of a report -/

/-- what a sample is put into -/
def Sample.slot (x : Sample) : Subject × Direction := (x.subject, x.direction)

theorem Sample.usage?_eq_some_iff {x : Sample} {period : Id} {d : Direction} :
    x.usage? = some (period, d) ↔ x.subject.isUserOf period = true ∧ x.direction = d := by
  obtain ⟨subject, direction, value⟩ := x
  unfold usage? period? Subject.isUserOf
  cases subject <;> simp

/-- what a sample counts for a period in a direction -/
def Sample.counted (period : Id) (d : Direction) (x : Sample) : Int :=
  if x.usage? = some (period, d) then x.value else 0

/-- the points under construction, by their subjects -/
abbrev PointTable := Table (Subject × Point)

namespace PointTable

variable {t : PointTable} {node period : Id} {start stop time : Nat} {d : Direction}

/-- what the points hold of a subject in a direction -/
def held (t : PointTable) (s : Subject) (d : Direction) : Option Int :=
  (t.get? s).bind fun a => a.2.whole? d.field

/-- the point that samples of a subject go to -/
def pointOf (node : Id) (time : Nat) (t : PointTable) (s : Subject) : Point :=
  ((t.get? s).map (·.2)).getD (s.point node time)

theorem addSample_eq (node : Id) (time : Nat) (t : PointTable) (x : Sample) :
    addSample node time t x = t.put (x.subject,
      (t.pointOf node time x.subject).withField x.direction.field (.int x.value)) := rfl

theorem whole?_pointOf (t : PointTable) (s : Subject) (d : Direction) :
    (t.pointOf node time s).whole? d.field = t.held s d := by
  unfold pointOf held
  cases t.get? s with
  | none =>
    show (((s.point node time).fields).get? d.field).bind _ = none
    rw [(s.point_frame node time).1]
    rfl
  | some a => rfl

theorem held_addSample (t : PointTable) (x : Sample) (s : Subject) (d : Direction) :
    held (addSample node time t x) s d = if (s, d) = x.slot then some x.value else held t s d := by
  rw [addSample_eq]
  generalize hp : (t.pointOf node time x.subject) = p
  by_cases hs : s = x.subject
  · subst hs
    have hput : held (t.put (x.subject, p.withField x.direction.field (.int x.value))) x.subject d =
        (p.withField x.direction.field (.int x.value)).whole? d.field := by
      unfold held
      rw [show (t.put (x.subject, p.withField x.direction.field (.int x.value))).get? x.subject =
        some (x.subject, p.withField x.direction.field (.int x.value)) from Table.get?_put_self t _]
      rfl
    rw [hput]
    by_cases hd : d = x.direction
    · have hslot : (x.subject, d) = x.slot := Prod.ext rfl hd
      rw [if_pos hslot, hd]
      exact Point.whole?_withField_self p _ _
    · have hfield : d.field ≠ x.direction.field := fun h => hd (Direction.field_inj h)
      have hslot : (x.subject, d) ≠ x.slot := fun h => hd (congrArg Prod.snd h)
      rw [if_neg hslot, Point.whole?_withField_ne p _ hfield, ← hp, whole?_pointOf]
  · have hslot : (s, d) ≠ x.slot := fun h => hs (congrArg Prod.fst h)
    unfold held
    rw [if_neg hslot, Table.get?_put_ne t (a := (x.subject, _)) hs]

theorem held_foldl {xs : List Sample} {s : Subject} :
    held (xs.foldl (addSample node time) t) s d ≠ none ↔
      held t s d ≠ none ∨ ∃ x ∈ xs, x.slot = (s, d) := by
  induction xs generalizing t with
  | nil => simp
  | cons x rest ih =>
    rw [List.foldl_cons, ih, held_addSample, List.exists_mem_cons_iff]
    by_cases hx : (s, d) = x.slot
    · simp [hx]
    · have hne : x.slot ≠ (s, d) := fun h => hx h.symm
      rw [if_neg hx]
      simp [hne]

theorem held_of_mem {a : Subject × Point} (ha : a ∈ t.records) :
    held t a.1 d = a.2.whole? d.field := by
  unfold held
  rw [show t.get? a.1 = some a from Table.mem_records.1 ha]
  rfl

theorem exists_of_held {s : Subject} (h : held t s d ≠ none) :
    ∃ a ∈ t.records, a.1 = s ∧ a.2.whole? d.field ≠ none := by
  unfold held at h
  cases hget : t.get? s with
  | none =>
    rw [hget] at h
    exact absurd rfl h
  | some a =>
    rw [hget] at h
    exact ⟨a, Table.mem_of_get? hget, Table.key_of_get? hget, h⟩

/-- fields are all that a point has besides what its subject gives it -/
def Framed (node : Id) (time : Nat) (t : PointTable) : Prop :=
  ∀ a ∈ t.records, a.2 = { a.1.point node time with fields := a.2.fields }

theorem Framed.pointOf (h : Framed node time t) (s : Subject) :
    t.pointOf node time s =
      { s.point node time with fields := (t.pointOf node time s).fields } := by
  unfold PointTable.pointOf
  cases ht : t.get? s with
  | none => rfl
  | some a =>
    have ha := h a (Table.mem_of_get? ht)
    have hkey : a.1 = s := Table.key_of_get? ht
    rw [hkey] at ha
    exact ha

theorem Framed.addSample (h : Framed node time t) (x : Sample) :
    Framed node time (addSample node time t x) := by
  intro a ha
  rw [addSample_eq] at ha
  rcases mem_place ha with rfl | ha
  · have hp := h.pointOf x.subject
    generalize t.pointOf node time x.subject = p at hp
    show { p with fields := _ } = _
    rw [hp]
    rfl
  · exact h a ha

theorem Framed.foldl (h : Framed node time t) (xs : List Sample) :
    Framed node time (xs.foldl (ProxyMesh.addSample node time) t) := by
  induction xs generalizing t with
  | nil => exact h
  | cons x rest ih => exact ih (h.addSample x)

theorem Framed.isUsageIn (h : Framed node time t) {a : Subject × Point} (ha : a ∈ t.records) :
    a.2.isUsageIn period start stop =
      (a.1.isUserOf period && (decide (start ≤ time) && decide (time < stop))) := by
  rw [h a ha]
  exact Subject.isUsageIn_point a.1

/-! ### sums -/

/-- one direction of a period, added up over all of its users -/
def usageTotal (period : Id) (d : Direction) (t : PointTable) : Int :=
  (t.records.map fun a => if a.1.isUserOf period then a.2.countOf d.field else 0).sum

/-- what one subject adds to it -/
def usageHeld (period : Id) (d : Direction) (t : PointTable) (s : Subject) : Int :=
  if s.isUserOf period then (t.held s d).getD 0 else 0

theorem elim_get? (period : Id) (d : Direction) (t : PointTable) (s : Subject) :
    (t.get? s).elim 0 (fun a => if a.1.isUserOf period then a.2.countOf d.field else 0) =
      usageHeld period d t s := by
  unfold usageHeld held
  cases ht : t.get? s with
  | none => simp
  | some a =>
    have hkey : a.1 = s := Table.key_of_get? ht
    rw [← hkey]
    rfl

/-- a record that is put adds what it holds, and takes away what was held before -/
theorem usageTotal_put (t : PointTable) (a : Subject × Point) :
    usageTotal period d (t.put a) + usageHeld period d t a.1 =
      usageTotal period d t + usageHeld period d (t.put a) a.1 := by
  have hsum := sum_place (fun a : Subject × Point =>
    if a.1.isUserOf period then a.2.countOf d.field else 0) a t.records
  have hbefore := elim_get? period d t a.1
  have hafter := elim_get? period d (t.put a) a.1
  rw [show (t.put a).get? a.1 = some a from Table.get?_put_self t a, Option.elim_some] at hafter
  rw [← hbefore, ← hafter]
  exact hsum

theorem usageTotal_addSample {x : Sample} (h : held t x.subject x.direction = none) :
    usageTotal period d (addSample node time t x) = usageTotal period d t + x.counted period d := by
  have hput : usageTotal period d (addSample node time t x) + usageHeld period d t x.subject =
      usageTotal period d t + usageHeld period d (addSample node time t x) x.subject :=
    usageTotal_put t _
  have hstep : usageHeld period d (addSample node time t x) x.subject =
      usageHeld period d t x.subject + x.counted period d := by
    unfold usageHeld Sample.counted
    rw [held_addSample]
    simp only [Sample.usage?_eq_some_iff]
    by_cases huser : x.subject.isUserOf period = true
    · by_cases hd : d = x.direction
      · -- nothing was held at the slot, so nothing is taken away
        subst hd
        simp [huser, h, Sample.slot]
      · have hd' : x.direction ≠ d := fun e => hd e.symm
        simp [huser, hd, hd', Sample.slot]
    · simp [huser]
  omega

theorem usageTotal_foldl {xs : List Sample} (hnodup : (xs.map Sample.slot).Nodup)
    (hfresh : ∀ x ∈ xs, held t x.subject x.direction = none) :
    usageTotal period d (xs.foldl (addSample node time) t) =
      usageTotal period d t + (xs.map (Sample.counted period d)).sum := by
  induction xs generalizing t with
  | nil => simp
  | cons x rest ih =>
    obtain ⟨hx, hrest⟩ := List.nodup_cons.1 hnodup
    have hlater : ∀ y ∈ rest, held (addSample node time t x) y.subject y.direction = none := by
      intro y hy
      have hne : (y.subject, y.direction) ≠ x.slot :=
        fun e => hx (List.mem_map.2 ⟨y, hy, e⟩)
      rw [held_addSample, if_neg hne]
      exact hfresh y (List.mem_cons_of_mem _ hy)
    rw [List.foldl_cons, ih hrest hlater, usageTotal_addSample (hfresh x List.mem_cons_self),
      List.map_cons, List.sum_cons]
    omega

end PointTable

/-! ## what a report says of a period -/

theorem sum_map_filter {α : Type} (p : α → Bool) (f : α → Int) (l : List α) :
    ((l.filter p).map f).sum = (l.map fun a => if p a then f a else 0).sum := by
  induction l with
  | nil => rfl
  | cons a rest ih =>
    cases h : p a with
    | true => simp [h, ih]
    | false => simp [h, ih]

theorem sum_map_filterMap {α β : Type} (f : α → Option β) (g : β → Int) (l : List α) :
    ((l.filterMap f).map g).sum = (l.map fun a => (f a).elim 0 g).sum := by
  induction l with
  | nil => rfl
  | cons a rest ih =>
    cases h : f a with
    | none => simp [h, ih]
    | some b => simp [h, ih]

namespace TrafficReport

variable {r : TrafficReport}

/-- no two statistics that count are of the same subject and direction -/
def Unambiguous (r : TrafficReport) : Prop :=
  ((r.stats.filter fun st => decide (st.value ≠ 0)).filterMap fun st => classify? st.name).Nodup

instance (r : TrafficReport) : Decidable r.Unambiguous :=
  inferInstanceAs (Decidable (List.Nodup _))

/-- what the report says of a period in one direction, if it was collected in `[start, stop)` -/
def usage (r : TrafficReport) (period : Id) (start stop : Nat) (d : Direction) :
    List TrafficStat :=
  if start ≤ r.collectedAt ∧ r.collectedAt < stop then
    r.stats.filter fun st => decide (st.usage? = some (period, d))
  else []

theorem slots_samples (r : TrafficReport) : r.samples.map Sample.slot =
    (r.stats.filter fun st => decide (st.value ≠ 0)).filterMap fun st => classify? st.name := by
  unfold samples
  rw [List.filterMap_filter, List.map_filterMap, List.filterMap_filter]
  congr 1
  funext st
  cases hclass : classify? st.name with
  | none =>
    have hsample : st.sample? = none := by
      unfold TrafficStat.sample?
      rw [hclass]
      rfl
    simp [hsample]
  | some found =>
    have hsample : st.sample? = some ⟨found.1, found.2, st.value⟩ := by
      unfold TrafficStat.sample?
      rw [hclass]
      rfl
    have hcounts := TrafficStat.counts_of_sample hsample
    by_cases hvalue : st.value = 0
    · have hnot : ¬st.counts = true := fun h => hcounts.1 h hvalue
      simp [hnot, hvalue]
    · simp [hcounts.2 hvalue, hvalue, hsample, Sample.slot]

theorem elim_counted (st : TrafficStat) (period : Id) (d : Direction) :
    (if st.counts then st.sample? else none).elim 0 (Sample.counted period d) =
      if decide (st.usage? = some (period, d)) then st.value else 0 := by
  rw [st.usage?_eq]
  cases hsample : st.sample? with
  | none => simp
  | some x =>
    have hvalue := TrafficStat.value_of_sample hsample
    have hcounts := TrafficStat.counts_of_sample hsample
    by_cases hzero : st.value = 0
    · -- it does not count, and would add nothing
      have hnot : ¬st.counts = true := fun h => hcounts.1 h hzero
      simp [hnot, hzero]
    · simp [hcounts.2 hzero, Sample.counted, hvalue]

theorem sum_counted (r : TrafficReport) (period : Id) (d : Direction) :
    (r.samples.map (Sample.counted period d)).sum =
      ((r.stats.filter fun st => decide (st.usage? = some (period, d))).map (·.value)).sum := by
  unfold samples
  rw [List.filterMap_filter, sum_map_filterMap, sum_map_filter]
  exact congrArg List.sum (List.map_congr_left fun st _ => elim_counted st period d)

/-- the points of a report, by their subjects -/
def pointTable (r : TrafficReport) (node : Id) : PointTable :=
  r.samples.foldl (addSample node r.collectedAt) .empty

theorem points_buildUsage (node : Id) (r : TrafficReport) :
    (buildUsage node r).points = (r.pointTable node).records.map (·.2) := rfl

theorem framed_pointTable (r : TrafficReport) (node : Id) :
    PointTable.Framed node r.collectedAt (r.pointTable node) :=
  PointTable.Framed.foldl (fun _ ha => absurd ha List.not_mem_nil) r.samples

/-- **a period's points add up to what the report says of it** -/
theorem reports_exact (h : r.Unambiguous) (node period : Id) (start stop : Nat) (d : Direction) :
    (((buildUsage node r).points.filter (Point.isUsageIn period start stop)).map
        (·.countOf d.field)).sum =
      ((r.usage period start stop d).map (·.value)).sum := by
  have hnodup : (r.samples.map Sample.slot).Nodup := by
    rw [slots_samples]
    exact h
  have htotal : PointTable.usageTotal period d (r.pointTable node) =
      (r.samples.map (Sample.counted period d)).sum :=
    (PointTable.usageTotal_foldl hnodup fun _ _ => rfl).trans (Int.zero_add _)
  rw [sum_map_filter, points_buildUsage, List.map_map]
  have hframed : (r.pointTable node).records.map ((fun pt : Point =>
      if pt.isUsageIn period start stop then pt.countOf d.field else 0) ∘ (·.2)) =
      (r.pointTable node).records.map fun a =>
        if a.1.isUserOf period && (decide (start ≤ r.collectedAt) && decide (r.collectedAt < stop))
        then a.2.countOf d.field else 0 :=
    List.map_congr_left fun a ha => by
      show (if a.2.isUsageIn period start stop then _ else _) = _
      rw [(framed_pointTable r node).isUsageIn ha]
  rw [hframed]
  unfold usage
  by_cases hwindow : start ≤ r.collectedAt ∧ r.collectedAt < stop
  · rw [if_pos hwindow, ← sum_counted, ← htotal]
    simp [PointTable.usageTotal, hwindow]
  · rw [if_neg hwindow]
    have hout : (decide (start ≤ r.collectedAt) && decide (r.collectedAt < stop)) = false := by
      rw [Bool.and_eq_false_iff, decide_eq_false_iff_not, decide_eq_false_iff_not]
      omega
    simp [hout]

theorem reports_present (r : TrafficReport) (node period : Id) (start stop : Nat) (d : Direction) :
    (∃ pt ∈ (buildUsage node r).points, pt.isUsageIn period start stop = true ∧
        pt.whole? d.field ≠ none) ↔
      ∃ st ∈ r.usage period start stop d, st.value ≠ 0 := by
  have hwindow : (∃ st ∈ r.usage period start stop d, st.value ≠ 0) ↔
      (start ≤ r.collectedAt ∧ r.collectedAt < stop) ∧
        ∃ st ∈ r.stats, st.value ≠ 0 ∧ st.usage? = some (period, d) := by
    unfold usage
    by_cases hw : start ≤ r.collectedAt ∧ r.collectedAt < stop
    · rw [if_pos hw]
      simp only [List.mem_filter, decide_eq_true_eq, hw, and_self, true_and]
      exact exists_congr fun st => by rw [and_right_comm, and_assoc]
    · rw [if_neg hw]
      simp [hw]
  have hframed := framed_pointTable r node
  rw [hwindow, ← exists_sample_iff, points_buildUsage]
  constructor
  · rintro ⟨pt, hpt, hin, hfield⟩
    obtain ⟨a, ha, rfl⟩ := List.mem_map.1 hpt
    rw [hframed.isUsageIn ha, Bool.and_eq_true, Bool.and_eq_true, decide_eq_true_eq,
      decide_eq_true_eq] at hin
    rw [← PointTable.held_of_mem ha] at hfield
    obtain ⟨x, hx, hslot⟩ := (PointTable.held_foldl.1 hfield).resolve_left fun h => h rfl
    obtain ⟨hsubject, hdirection⟩ := Prod.mk.inj hslot
    have husage : x.usage? = some (period, d) :=
      Sample.usage?_eq_some_iff.2 ⟨hsubject ▸ hin.1, hdirection⟩
    exact ⟨hin.2, x, hx, husage⟩
  · rintro ⟨hw, x, hx, husage⟩
    obtain ⟨huser, hdirection⟩ := Sample.usage?_eq_some_iff.1 husage
    have hheld : PointTable.held (r.pointTable node) x.subject d ≠ none :=
      PointTable.held_foldl.2 (Or.inr ⟨x, hx, Prod.ext rfl hdirection⟩)
    obtain ⟨a, ha, hsubject, hfield⟩ := PointTable.exists_of_held hheld
    refine ⟨a.2, List.mem_map.2 ⟨a, ha, rfl⟩, ?_, hfield⟩
    rw [hframed.isUsageIn ha, hsubject, huser]
    simp [hw]

end TrafficReport

end ProxyMesh
