import Mathlib.Data.List.Induction
import ProxyMesh.Proofs.Traffic.Points

/-!
# One point for each subject

Many names are of one subject: what follows the numbers of a user does not count, nor do zeros in
front of them.  A direction of a point is one field, and a field that is put replaces the one that
was there.

* `TrafficReport.values`    what the statistics of a report say of a subject in a direction;
* `Subject.filled`          the point of a subject, sample by sample;
* `get?_foldl_addSample`    the table of points holds the filled point of every subject seen;
* `TrafficReport.IsPointOf` the last values of a subject, and its tags;
* `buildUsage_grouped`      **one point for each subject with traffic; it keeps the last value of
                            each direction**, so that nothing is lost exactly if the values before
                            it add up to nothing;
* `bytes_dropped`           two names of one subscriber.
-/

namespace ProxyMesh

variable {node : Id} {time : Nat}

/-! ## points, sample by sample -/

/-- the value goes into the field of its direction -/
def Point.withSample (p : Point) (x : Sample) : Point :=
  p.withField x.direction.field (.int x.value)

/-- the point of `s`, with the samples of `s` put into it one after the other -/
def Subject.filled (node : Id) (time : Nat) (xs : List Sample) (s : Subject) : Point :=
  xs.foldl (fun p x => if x.subject = s then p.withSample x else p) (s.point node time)

namespace Subject

theorem filled_append_self (xs : List Sample) (x : Sample) :
    filled node time (xs ++ [x]) x.subject = (filled node time xs x.subject).withSample x := by
  unfold filled
  rw [List.foldl_concat, if_pos rfl]

theorem filled_append_ne (xs : List Sample) {x : Sample} {s : Subject} (h : x.subject ≠ s) :
    filled node time (xs ++ [x]) s = filled node time xs s := by
  unfold filled
  rw [List.foldl_concat, if_neg h]

/-- nobody but the subject itself changes its point -/
theorem filled_of_unseen {xs : List Sample} {s : Subject} (h : ¬∃ x ∈ xs, x.subject = s) :
    filled node time xs s = s.point node time := by
  induction xs using List.reverseRecOn with
  | nil => rfl
  | append_singleton xs x ih =>
    have hx : x.subject ≠ s := fun e => h ⟨x, List.mem_concat_self, e⟩
    rw [filled_append_ne xs hx]
    exact ih fun ⟨y, hy, e⟩ => h ⟨y, List.mem_append_left _ hy, e⟩

theorem filled_frame (xs : List Sample) (s : Subject) : filled node time xs s =
    { s.point node time with fields := (filled node time xs s).fields } := by
  induction xs using List.reverseRecOn with
  | nil => rfl
  | append_singleton xs x ih =>
    by_cases hx : x.subject = s
    · subst hx
      rw [filled_append_self]
      generalize filled node time xs x.subject = p at ih
      rw [ih]
      rfl
    · rw [filled_append_ne xs hx]
      exact ih

theorem contains_filled {xs : List Sample} {s : Subject} {name : String}
    (h : (filled node time xs s).fields.contains name = true) : ∃ d : Direction, name = d.field := by
  induction xs using List.reverseRecOn with
  | nil =>
    have hbare : (filled node time [] s).fields = .empty := (s.point_frame node time).1
    rw [hbare] at h
    cases h
  | append_singleton xs x ih =>
    by_cases hx : x.subject = s
    · subst hx
      rw [filled_append_self] at h
      rcases Table.contains_put.1 h with h | h
      · exact ⟨x.direction, h⟩
      · exact ih h
    · rw [filled_append_ne xs hx] at h
      exact ih h

/-- of two samples for one direction the later one counts -/
theorem whole?_filled (xs : List Sample) (s : Subject) (d : Direction) :
    (filled node time xs s).whole? d.field =
      ((xs.filter fun x => x.slot = (s, d)).map (·.value)).getLast? := by
  induction xs using List.reverseRecOn with
  | nil =>
    show ((s.point node time).fields.get? d.field).bind _ = none
    rw [(s.point_frame node time).1]
    rfl
  | append_singleton xs x ih =>
    rw [List.filter_append, List.map_append]
    by_cases hx : x.subject = s
    · subst hx
      rw [filled_append_self]
      by_cases hd : d = x.direction
      · subst hd
        have hslot : x.slot = (x.subject, x.direction) := rfl
        rw [Point.withSample, Point.whole?_withField_self, List.filter_singleton]
        simp [hslot]
      · have hfield : d.field ≠ x.direction.field := fun e => hd (Direction.field_inj e)
        have hslot : x.slot ≠ (x.subject, d) := fun e => hd (congrArg Prod.snd e).symm
        rw [Point.withSample, Point.whole?_withField_ne _ _ hfield, ih, List.filter_singleton]
        simp [hslot]
    · have hslot : x.slot ≠ (s, d) := fun e => hx (congrArg Prod.fst e)
      rw [filled_append_ne xs hx, ih, List.filter_singleton]
      simp [hslot]

end Subject

namespace PointTable

theorem pointOf_of_get? {t : PointTable} {s : Subject} {p : Point} (h : t.get? s = some (s, p)) :
    t.pointOf node time s = p := by
  unfold pointOf
  rw [h]
  rfl

theorem get?_foldl_addSample (xs : List Sample) (s : Subject) :
    (xs.foldl (addSample node time) .empty).get? s =
      if ∃ x ∈ xs, x.subject = s then some (s, s.filled node time xs) else none := by
  induction xs using List.reverseRecOn generalizing s with
  | nil => rfl
  | append_singleton xs x ih =>
    rw [List.foldl_concat, addSample_eq]
    generalize htable : xs.foldl (addSample node time) .empty = t at ih ⊢
    by_cases hx : x.subject = s
    · subst hx
      have hseen : ∃ y ∈ xs ++ [x], y.subject = x.subject := ⟨x, List.mem_concat_self, rfl⟩
      have hbefore : pointOf node time t x.subject = x.subject.filled node time xs := by
        by_cases hold : ∃ y ∈ xs, y.subject = x.subject
        · exact pointOf_of_get? ((ih x.subject).trans (if_pos hold))
        · unfold pointOf
          rw [ih x.subject, if_neg hold, Subject.filled_of_unseen hold]
          rfl
      rw [if_pos hseen, Subject.filled_append_self, hbefore]
      exact Table.get?_put_self t (x.subject, _)
    · have hiff : (∃ y ∈ xs ++ [x], y.subject = s) ↔ ∃ y ∈ xs, y.subject = s := by
        simp [or_and_right, exists_or, hx]
      have hne : s ≠ x.subject := fun e => hx e.symm
      rw [Table.get?_put_ne t (a := (x.subject, _)) hne, ih s, Subject.filled_append_ne xs hx]
      simp only [hiff]

end PointTable

/-! ## the points of a report -/

/-- the last number is the sum if those before it add up to nothing -/
theorem getLast?_eq_sum_iff {l : List Int} :
    l.getLast?.getD 0 = l.sum ↔ l.dropLast.sum = 0 := by
  induction l using List.reverseRecOn with
  | nil => simp
  | append_singleton l n _ =>
    rw [List.getLast?_concat, Option.getD_some, List.sum_append, List.dropLast_concat]
    simp only [List.sum_singleton]
    omega

namespace TrafficReport

/-- the values other than zero that are of `s` in direction `d`, in the order of the report -/
def values (r : TrafficReport) (s : Subject) (d : Direction) : List Int :=
  (r.stats.filter fun st => decide (st.value ≠ 0 ∧ classify? st.name = some (s, d))).map (·.value)

/-- the last value of each direction, in a point with the tags of `s` -/
structure IsPointOf (r : TrafficReport) (node : Id) (s : Subject) (pt : Point) : Prop where
  frame : pt = { s.point node r.collectedAt with fields := pt.fields }
  directions : ∀ name, pt.fields.contains name = true → ∃ d : Direction, name = d.field
  last : ∀ d : Direction, pt.whole? d.field = (r.values s d).getLast?

theorem sample_of_slot (st : TrafficStat) (s : Subject) (d : Direction) :
    ((if st.counts then st.sample? else none).filter fun x => x.slot = (s, d)).map (·.value) =
      if decide (st.value ≠ 0 ∧ classify? st.name = some (s, d)) then some st.value else none := by
  cases hclass : classify? st.name with
  | none =>
    have hsample : st.sample? = none := by
      unfold TrafficStat.sample?
      rw [hclass]
      rfl
    simp [hsample]
  | some found =>
    have hsample : st.sample? = some ⟨found.1, found.2, st.value⟩ := by
      unfold TrafficStat.sample?
      rw [hclass]
      rfl
    have hcounts := TrafficStat.counts_of_sample hsample
    by_cases hvalue : st.value = 0
    · have hnot : ¬st.counts = true := fun h => hcounts.1 h hvalue
      simp [hnot, hvalue]
    · by_cases hslot : found = (s, d)
      · simp [hcounts.2 hvalue, hvalue, hsample, hslot, Sample.slot, Option.filter]
      · simp [hcounts.2 hvalue, hsample, hslot, Sample.slot, Option.filter]

theorem values_eq (r : TrafficReport) (s : Subject) (d : Direction) :
    ((r.samples.filter fun x => x.slot = (s, d)).map (·.value)) = r.values s d := by
  unfold samples values
  rw [List.filterMap_filter, List.filter_filterMap, List.map_filterMap, ← List.filterMap_eq_map,
    List.filterMap_filter]
  congr 1
  funext st
  exact sample_of_slot st s d

theorem exists_subject_iff {r : TrafficReport} {s : Subject} :
    (∃ x ∈ r.samples, x.subject = s) ↔
      ∃ st ∈ r.stats, st.value ≠ 0 ∧ ∃ d, classify? st.name = some (s, d) := by
  constructor
  · rintro ⟨x, hx, rfl⟩
    obtain ⟨st, hst, hvalue, hsample⟩ := mem_samples.1 hx
    obtain ⟨found, hclass, rfl⟩ := Option.map_eq_some_iff.1 hsample
    exact ⟨st, hst, hvalue, found.2, hclass⟩
  · rintro ⟨st, hst, hvalue, d, hclass⟩
    have hsample : st.sample? = some ⟨s, d, st.value⟩ := by
      unfold TrafficStat.sample?
      rw [hclass]
      rfl
    exact ⟨_, mem_samples.2 ⟨st, hst, hvalue, hsample⟩, rfl⟩

theorem isPointOf_filled (r : TrafficReport) (node : Id) (s : Subject) :
    r.IsPointOf node s (s.filled node r.collectedAt r.samples) where
  frame := Subject.filled_frame r.samples s
  directions _ h := Subject.contains_filled h
  last d := by rw [Subject.whole?_filled, values_eq]

theorem IsPointOf.countOf {r : TrafficReport} {s : Subject} {pt : Point}
    (h : r.IsPointOf node s pt) (d : Direction) :
    pt.countOf d.field = (r.values s d).getLast?.getD 0 := by
  unfold Point.countOf
  rw [h.last d]

theorem records_pointTable (r : TrafficReport) (node : Id) : (r.pointTable node).records =
    ((r.pointTable node).records.map key).map fun s =>
      (s, s.filled node r.collectedAt r.samples) := by
  rw [List.map_map]
  refine (List.map_id _).symm.trans (List.map_congr_left fun a ha => ?_)
  have hget : (r.pointTable node).get? a.1 = some a := Table.mem_records.1 ha
  unfold pointTable at hget
  rw [PointTable.get?_foldl_addSample] at hget
  split at hget
  · exact (Option.some.inj hget).symm
  · cases hget

theorem mem_keys_pointTable {r : TrafficReport} {s : Subject} :
    s ∈ (r.pointTable node).records.map key ↔ ∃ x ∈ r.samples, x.subject = s := by
  have hget : (r.pointTable node).get? s = _ := PointTable.get?_foldl_addSample r.samples s
  constructor
  · intro hs
    obtain ⟨a, ha, rfl⟩ := List.mem_map.1 hs
    rw [Table.mem_records.1 ha] at hget
    split at hget
    · assumption
    · cases hget
  · intro hs
    rw [if_pos hs] at hget
    exact List.mem_map.2 ⟨_, Table.mem_of_get? hget, rfl⟩

/-- **a point for each subject with traffic, holding the last value of each direction**; nothing is
lost exactly if the values before the last one add up to nothing -/
theorem buildUsage_grouped (node : Id) (r : TrafficReport) :
    ∃ (subjects : List Subject) (pointOf : Subject → Point), subjects.Nodup ∧
      (∀ s, s ∈ subjects ↔
        ∃ st ∈ r.stats, st.value ≠ 0 ∧ ∃ d, classify? st.name = some (s, d)) ∧
      (buildUsage node r).points = subjects.map pointOf ∧
      (∀ s, r.IsPointOf node s (pointOf s)) ∧
      (∀ s d, (pointOf s).countOf d.field = (r.values s d).sum ↔
        (r.values s d).dropLast.sum = 0) ∧
      (buildUsage node r).unmatched = r.stats.countP fun st =>
        decide (st.name ≠ "" ∧ st.value ≠ 0 ∧ classify? st.name = none) := by
  refine ⟨(r.pointTable node).records.map key, fun s => s.filled node r.collectedAt r.samples,
    nodup_keys (r.pointTable node).ascending, fun s => ?_, ?_, r.isPointOf_filled node,
    fun s d => ?_, ?_⟩
  · rw [mem_keys_pointTable, exists_subject_iff]
  · rw [points_buildUsage]
    conv_lhs => rw [records_pointTable]
    rw [List.map_map]
    rfl
  · rw [(r.isPointOf_filled node s).countOf d]
    exact getLast?_eq_sum_iff
  · show (r.stats.filter TrafficStat.counts).countP _ = _
    rw [List.countP_filter]
    refine List.countP_congr fun st _ => ?_
    unfold TrafficStat.sample? TrafficStat.counts
    simp [and_comm, and_assoc]

/-! ## two names of one subscriber -/

/-- a subscriber under two domains -/
def twoDomains : TrafficReport where
  collectedAt := 100
  stats := [⟨"user>>>period3.profile9@a>>>traffic>>>downlink", 5⟩,
    ⟨"user>>>period3.profile9@b>>>traffic>>>downlink", 7⟩]

/-- twelve bytes were reported, and seven are kept -/
theorem bytes_dropped :
    (twoDomains.values (.user 3 9 none) .downlink).sum = 12 ∧
      (buildUsage 5 twoDomains).points.map (·.countOf Direction.downlink.field) = [7] ∧
      (buildUsage 5 twoDomains).points.map (·.tag? "period_id") = [some "3"] ∧
      (buildUsage 5 twoDomains).unmatched = 0 := by
  refine ⟨?_, ?_, ?_, ?_⟩ <;> decide +kernel

end TrafficReport

end ProxyMesh
