import Mathlib.Data.List.Basic
import ProxyMesh.Accounting.Run
import ProxyMesh.Proofs.Tables

/-!
# The traffic of a window

* `usageIn points period start stop`   the traffic of a period's points in `[start, stop)`, added up
                                       point by point;
* `usageIn_append`, `usageIn_split`    more points, and a window cut in two;
* `usageIn_late`                       points after the window add nothing;
* `usageOf`, `usageIn_le_usageOf`      all traffic of a period, of which a window holds a part;
* `of_foldl_addPoint`, `contains_foldl_addPoint`   what is summed, and whether there is anything to be;
* `windowTraffic_sumPoints`            **the sum query of a period answers with its `usageIn`**.
-/

namespace ProxyMesh

attribute [ext] Traffic

namespace Traffic

instance : LE Traffic := ⟨fun s t => s.download ≤ t.download ∧ s.upload ≤ t.upload⟩

theorem le_iff {s t : Traffic} : s ≤ t ↔ s.download ≤ t.download ∧ s.upload ≤ t.upload := Iff.rfl

@[simp] theorem plus_download (s t : Traffic) : (s.plus t).download = s.download + t.download := rfl
@[simp] theorem plus_upload (s t : Traffic) : (s.plus t).upload = s.upload + t.upload := rfl
@[simp] theorem minus_download (s t : Traffic) : (s.minus t).download = s.download - t.download := rfl
@[simp] theorem minus_upload (s t : Traffic) : (s.minus t).upload = s.upload - t.upload := rfl
@[simp] theorem none_download : Traffic.none.download = 0 := rfl
@[simp] theorem none_upload : Traffic.none.upload = 0 := rfl

theorem none_plus (t : Traffic) : Traffic.none.plus t = t := by
  ext <;> simp

theorem plus_none (t : Traffic) : t.plus .none = t := by
  ext <;> simp

theorem plus_assoc (s t u : Traffic) : (s.plus t).plus u = s.plus (t.plus u) := by
  ext <;> simp [Nat.add_assoc]

theorem plus_comm (s t : Traffic) : s.plus t = t.plus s := by
  ext <;> simp [Nat.add_comm]

theorem le_plus (s t : Traffic) : s ≤ s.plus t := by
  rw [le_iff]
  simp

theorem le_trans {s t u : Traffic} (h₁ : s ≤ t) (h₂ : t ≤ u) : s ≤ u := by
  rw [le_iff] at *
  omega

/-- both directions are numbers of 64 bits with a sign -/
def Fits (t : Traffic) : Prop := t.download < signedBound ∧ t.upload < signedBound

instance (t : Traffic) : Decidable t.Fits :=
  inferInstanceAs (Decidable (t.download < signedBound ∧ t.upload < signedBound))

theorem Fits.of_le {s t : Traffic} (h : t.Fits) (hle : s ≤ t) : s.Fits :=
  ⟨Nat.lt_of_le_of_lt hle.1 h.1, Nat.lt_of_le_of_lt hle.2 h.2⟩

theorem none_le (t : Traffic) : Traffic.none ≤ t := by
  rw [le_iff]
  simp

theorem isZero_iff {t : Traffic} : t.isZero = true ↔ t = .none := by
  rw [Traffic.ext_iff]
  simp [isZero]

end Traffic

/-! ## points of a period -/

/-- the point counts for the usage of a period -/
def Point.isUsageOf (pt : Point) (period : Id) : Bool :=
  pt.measurement == usageMeasurement && pt.tag? "usage_type" == some "user" &&
    pt.tag? "period_id" == some (toString period)

/-- what a field counts, nothing if it is missing -/
def Point.countOf (pt : Point) (field : String) : Int := (pt.whole? field).getD 0

/-- neither direction is negative -/
def Point.Counts (pt : Point) : Prop :=
  0 ≤ pt.countOf downloadField ∧ 0 ≤ pt.countOf uploadField

instance (pt : Point) : Decidable pt.Counts :=
  inferInstanceAs (Decidable (0 ≤ pt.countOf downloadField ∧ 0 ≤ pt.countOf uploadField))

def Point.traffic (pt : Point) : Traffic :=
  ⟨(pt.countOf downloadField).toNat, (pt.countOf uploadField).toNat⟩

def totalTraffic (points : List Point) : Traffic :=
  points.foldr (fun pt t => pt.traffic.plus t) .none

/-- the traffic of all points of the period -/
def usageOf (points : List Point) (period : Id) : Traffic :=
  totalTraffic (points.filter (·.isUsageOf period))

/-- the point counts for the usage of the period in `[start, stop)` -/
def Point.isUsageIn (period : Id) (start stop : Nat) (pt : Point) : Bool :=
  pt.isUsageOf period && (decide (start ≤ pt.time) && decide (pt.time < stop))

/-- the traffic of the period's points in `[start, stop)` -/
def usageIn (points : List Point) (period : Id) (start stop : Nat) : Traffic :=
  totalTraffic (points.filter (Point.isUsageIn period start stop))

section
variable {points : List Point} {period : Id} {start stop : Nat}

theorem totalTraffic_cons (pt : Point) (points : List Point) :
    totalTraffic (pt :: points) = pt.traffic.plus (totalTraffic points) := rfl

theorem totalTraffic_append (l l' : List Point) :
    totalTraffic (l ++ l') = (totalTraffic l).plus (totalTraffic l') := by
  induction l with
  | nil => exact (Traffic.none_plus _).symm
  | cons pt rest ih =>
    rw [List.cons_append, totalTraffic_cons, ih, totalTraffic_cons, Traffic.plus_assoc]

theorem totalTraffic_le_of_sublist {l l' : List Point} (h : l.Sublist l') :
    totalTraffic l ≤ totalTraffic l' := by
  induction h with
  | slnil => exact Traffic.none_le _
  | cons pt _ ih =>
    rw [totalTraffic_cons, Traffic.plus_comm]
    exact Traffic.le_trans ih (Traffic.le_plus _ _)
  | cons_cons pt _ ih =>
    rw [totalTraffic_cons, totalTraffic_cons]
    exact ⟨Nat.add_le_add_left ih.1 _, Nat.add_le_add_left ih.2 _⟩

theorem usageIn_le_usageOf (points : List Point) (period : Id) (start stop : Nat) :
    usageIn points period start stop ≤ usageOf points period := by
  have hin : points.filter (Point.isUsageIn period start stop) =
      (points.filter (·.isUsageOf period)).filter fun pt =>
        decide (start ≤ pt.time) && decide (pt.time < stop) := by
    rw [List.filter_filter]
    exact List.filter_congr fun pt _ => Bool.and_comm _ _
  unfold usageIn usageOf
  rw [hin]
  exact totalTraffic_le_of_sublist List.filter_sublist

theorem usageIn_cons (pt : Point) (points : List Point) (period : Id) (start stop : Nat) :
    usageIn (pt :: points) period start stop =
      (if pt.isUsageIn period start stop then pt.traffic else .none).plus
        (usageIn points period start stop) := by
  unfold usageIn
  cases h : pt.isUsageIn period start stop with
  | true => rw [List.filter_cons_of_pos h, totalTraffic_cons, if_pos rfl]
  | false =>
    rw [List.filter_cons_of_neg (by simp [h]), if_neg (by simp), Traffic.none_plus]

theorem usageIn_append (l l' : List Point) (period : Id) (start stop : Nat) :
    usageIn (l ++ l') period start stop =
      (usageIn l period start stop).plus (usageIn l' period start stop) := by
  unfold usageIn
  rw [List.filter_append, totalTraffic_append]

theorem usageIn_eq_none (h : ∀ pt ∈ points, pt.isUsageIn period start stop = false) :
    usageIn points period start stop = .none := by
  unfold usageIn
  rw [List.filter_eq_nil_iff.2 fun pt hpt => by simp [h pt hpt]]
  rfl

theorem usageIn_late (h : ∀ pt ∈ points, pt.isUsageOf period = true → stop ≤ pt.time) :
    usageIn points period start stop = .none := by
  refine usageIn_eq_none fun pt hpt => ?_
  unfold Point.isUsageIn
  cases hu : pt.isUsageOf period with
  | false => rfl
  | true =>
    have hle := h pt hpt hu
    have hlt : ¬pt.time < stop := by omega
    simp [hlt]

/-- a point of a window is in exactly one of its two parts -/
theorem isUsageIn_split (pt : Point) (period : Id) {a b c : Nat} (hab : a ≤ b) (hbc : b ≤ c) :
    (if pt.isUsageIn period a c then pt.traffic else .none) =
      (if pt.isUsageIn period a b then pt.traffic else .none).plus
        (if pt.isUsageIn period b c then pt.traffic else .none) := by
  unfold Point.isUsageIn
  cases pt.isUsageOf period with
  | false => rfl
  | true =>
    by_cases hb : pt.time < b
    · have hc : pt.time < c := by omega
      have hnb : ¬b ≤ pt.time := by omega
      simp [hb, hc, hnb, Traffic.plus_none]
    · have ha : a ≤ pt.time := by omega
      have hle : b ≤ pt.time := by omega
      simp [hb, ha, hle, Traffic.none_plus]

/-- **a window cut in two** -/
theorem usageIn_split (points : List Point) (period : Id) {a b c : Nat} (hab : a ≤ b)
    (hbc : b ≤ c) :
    usageIn points period a c = (usageIn points period a b).plus (usageIn points period b c) := by
  induction points with
  | nil => rfl
  | cons pt rest ih =>
    rw [usageIn_cons, usageIn_cons pt rest period a b, usageIn_cons pt rest period b c, ih,
      isUsageIn_split pt period hab hbc]
    ext <;> simp <;> omega

theorem usageIn_le_append (l l' : List Point) (period : Id) (start stop : Nat) :
    usageIn l period start stop ≤ usageIn (l ++ l') period start stop := by
  rw [usageIn_append]
  exact Traffic.le_plus _ _

theorem usageIn_le_later (points : List Point) (period : Id) {a b c : Nat} (hbc : b ≤ c) :
    usageIn points period a b ≤ usageIn points period a c := by
  rcases Nat.le_total a b with hab | hba
  · rw [usageIn_split points period hab hbc]
    exact Traffic.le_plus _ _
  · have hnone : usageIn points period a b = .none := usageIn_eq_none fun pt _ => by
      simp only [Point.isUsageIn, Bool.and_eq_false_iff, decide_eq_false_iff_not]
      omega
    rw [hnone]
    exact Traffic.none_le _

/-! ## what a query answers -/

theorem covers_usageQuery (pt : Point) :
    (usageQuery period start stop).covers pt = pt.isUsageIn period start stop := by
  have hlt : before "usage_type" "period_id" = false := by decide
  have hgt : before "period_id" "usage_type" = true := by decide
  have htags : (usageQuery period start stop).tags.records =
      [("period_id", toString period), ("usage_type", "user")] := by
    show place ("period_id", toString period) [("usage_type", "user")] = _
    simp [place, key, hgt]
  unfold SumQuery.covers Point.isUsageIn Point.isUsageOf
  rw [htags]
  show (pt.measurement == usageMeasurement && decide (start ≤ pt.time) && decide (pt.time < stop) &&
    ((pt.tag? "period_id" == some (toString period)) &&
      ((pt.tag? "usage_type" == some "user") && true))) = _
  generalize (pt.measurement == usageMeasurement) = m
  generalize (pt.tag? "period_id" == some (toString period)) = i
  generalize (pt.tag? "usage_type" == some "user") = u
  cases m <;> cases i <;> cases u <;> simp

namespace FieldSums

variable {field other : String}

theorem of_add_self (sums : FieldSums) (field : String) (n : Int) :
    (sums.add field n).of field = wrapSigned (sums.of field + n) := by
  unfold FieldSums.of
  rw [show (sums.add field n).get? field = some (field, wrapSigned (sums.of field + n)) from
    Table.get?_put_self sums (field, wrapSigned (sums.of field + n))]
  rfl

theorem of_add_ne (sums : FieldSums) (n : Int) (h : other ≠ field) :
    (sums.add field n).of other = sums.of other := by
  unfold FieldSums.of
  rw [show (sums.add field n).get? other = sums.get? other from
    Table.get?_put_ne sums (a := (field, wrapSigned (sums.of field + n))) h]

theorem contains_add {sums : FieldSums} {n : Int} :
    (sums.add field n).contains other = true ↔ other = field ∨ sums.contains other = true :=
  Table.contains_put

end FieldSums

/-- one field of a point added to the sums -/
def addField (pt : Point) (sums : FieldSums) (field : String) : FieldSums :=
  match pt.whole? field with
  | some n => sums.add field n
  | none => sums

theorem addPoint_eq_foldl (fields : List String) (sums : FieldSums) (pt : Point) :
    addPoint fields sums pt = fields.foldl (addField pt) sums := rfl

theorem of_addField_ne (pt : Point) (sums : FieldSums) {field other : String}
    (h : other ≠ field) : (addField pt sums field).of other = sums.of other := by
  unfold addField
  cases pt.whole? field with
  | none => rfl
  | some n => exact FieldSums.of_add_ne sums n h

section
variable {fields : List String} {field : String} {sums : FieldSums}

theorem of_addField_self (pt : Point) (hsum : wrapSigned (sums.of field) = sums.of field) :
    (addField pt sums field).of field = wrapSigned (sums.of field + pt.countOf field) := by
  unfold addField Point.countOf
  cases pt.whole? field with
  | none =>
    show sums.of field = wrapSigned (sums.of field + 0)
    rw [Int.add_zero, hsum]
  | some n => exact FieldSums.of_add_self sums field n

theorem of_addPoint (hf : fields.Nodup) (h : field ∈ fields)
    (hsum : wrapSigned (sums.of field) = sums.of field) (pt : Point) :
    (addPoint fields sums pt).of field = wrapSigned (sums.of field + pt.countOf field) := by
  rw [addPoint_eq_foldl]
  have hother : ∀ (l : List String) (sums : FieldSums), field ∉ l →
      (l.foldl (addField pt) sums).of field = sums.of field := by
    intro l
    induction l with
    | nil => intro sums _; rfl
    | cons f rest ih =>
      intro sums hn
      rw [List.foldl_cons, ih _ (List.not_mem_of_not_mem_cons hn),
        of_addField_ne pt sums (List.ne_of_not_mem_cons hn)]
  induction fields generalizing sums with
  | nil => cases h
  | cons f rest ih =>
    obtain ⟨hn, hrest⟩ := List.nodup_cons.1 hf
    rw [List.foldl_cons]
    rcases List.mem_cons.1 h with rfl | h
    · rw [hother rest _ hn, of_addField_self pt hsum]
    · have hsame := of_addField_ne pt sums (ne_of_mem_of_not_mem h hn)
      rw [ih hrest h (hsame.symm ▸ hsum), hsame]

theorem of_foldl_addPoint (hf : fields.Nodup) (h : field ∈ fields) (points : List Point)
    (hsum : wrapSigned (sums.of field) = sums.of field) :
    (points.foldl (addPoint fields) sums).of field =
      wrapSigned (sums.of field + (points.map (·.countOf field)).sum) := by
  induction points generalizing sums with
  | nil => exact hsum.symm.trans (congrArg wrapSigned (Int.add_zero _).symm)
  | cons pt rest ih =>
    have hone := of_addPoint hf h hsum pt
    rw [List.foldl_cons, ih (by rw [hone, wrapSigned_wrapSigned]), hone, wrapSigned_add_left,
      List.map_cons, List.sum_cons, Int.add_assoc]

end

/-! ### what is there to be summed -/

theorem contains_addField {pt : Point} {sums : FieldSums} {field other : String} :
    (addField pt sums field).contains other = true ↔
      sums.contains other = true ∨ (other = field ∧ pt.whole? field ≠ none) := by
  unfold addField
  cases pt.whole? field with
  | none => simp
  | some n =>
    refine FieldSums.contains_add.trans ?_
    simp [or_comm]

theorem contains_addPoint {fields : List String} {field : String} {sums : FieldSums} {pt : Point} :
    (addPoint fields sums pt).contains field = true ↔
      sums.contains field = true ∨ (field ∈ fields ∧ pt.whole? field ≠ none) := by
  rw [addPoint_eq_foldl]
  induction fields generalizing sums with
  | nil => simp
  | cons f rest ih =>
    rw [List.foldl_cons, ih, contains_addField, List.mem_cons, or_and_right, or_assoc]
    have hsame : (field = f ∧ pt.whole? f ≠ none) ↔ (field = f ∧ pt.whole? field ≠ none) :=
      and_congr_right fun h => h ▸ Iff.rfl
    rw [hsame]

theorem contains_foldl_addPoint {fields : List String} {field : String} {sums : FieldSums}
    {points : List Point} :
    (points.foldl (addPoint fields) sums).contains field = true ↔
      sums.contains field = true ∨ (field ∈ fields ∧ ∃ pt ∈ points, pt.whole? field ≠ none) := by
  induction points generalizing sums with
  | nil => simp
  | cons pt rest ih =>
    rw [List.foldl_cons, ih, contains_addPoint, List.exists_mem_cons_iff, and_or_left, or_assoc]

/-- sums are decided by what they are the sums of, and by how much that is -/
theorem FieldSums.ext_of {s t : FieldSums} (hcontains : ∀ field, s.contains field = t.contains field)
    (hof : ∀ field, s.contains field = true → s.of field = t.of field) : s = t := by
  refine Table.ext_get? fun field => ?_
  have hfound := hcontains field
  have hsum := hof field
  unfold Table.contains at hfound hsum
  unfold FieldSums.of at hsum
  cases hs : s.get? field with
  | none =>
    rw [hs, Option.isSome_none] at hfound
    exact (Option.isNone_iff_eq_none.1 (Option.isSome_eq_false_iff.1 hfound.symm)).symm
  | some a =>
    rw [hs, Option.isSome_some] at hfound
    obtain ⟨b, hb⟩ := Option.isSome_iff_exists.1 hfound.symm
    rw [hs, hb] at hsum
    have hkey : a.1 = b.1 := (Table.key_of_get? hs).trans (Table.key_of_get? hb).symm
    rw [hb]
    exact congrArg some (Prod.ext hkey (hsum rfl))

theorem totalTraffic_counts (h : ∀ pt ∈ points, pt.Counts) :
    ((totalTraffic points).download : Int) = (points.map (·.countOf downloadField)).sum ∧
      ((totalTraffic points).upload : Int) = (points.map (·.countOf uploadField)).sum := by
  induction points with
  | nil => exact ⟨rfl, rfl⟩
  | cons pt rest ih =>
    obtain ⟨hd, hu⟩ := ih fun q hq => h q (List.mem_cons_of_mem _ hq)
    obtain ⟨hpd, hpu⟩ := h pt List.mem_cons_self
    rw [totalTraffic_cons, List.map_cons, List.sum_cons, List.map_cons, List.sum_cons, ← hd, ← hu]
    simp only [Traffic.plus_download, Traffic.plus_upload, Point.traffic]
    omega

/-- no answer and an answer without a field count alike -/
theorem windowTraffic_ite (sums : FieldSums) :
    windowTraffic (if sums.records.isEmpty then none else some sums) =
      ⟨(sums.of downloadField).toNat, (sums.of uploadField).toNat⟩ := by
  split
  next he =>
    have hnone : ∀ field, sums.of field = 0 := by
      intro field
      unfold FieldSums.of Table.get?
      rw [List.isEmpty_iff.1 he]
      rfl
    rw [hnone, hnone]
    rfl
  · rfl

theorem toNat_wrapSigned {n : Nat} (h : n < signedBound) : (wrapSigned (0 + (n : Int))).toNat = n := by
  have hsigned : isSigned (n : Int) = true := isSigned_iff.2 (by omega)
  rw [Int.zero_add, wrapSigned_of_isSigned hsigned]
  rfl

/-- **the sums of a period's query are its traffic in the window** -/
theorem windowTraffic_sumPoints (h : ∀ pt ∈ points, pt.isUsageOf period = true → pt.Counts)
    (hfits : (usageIn points period start stop).Fits) :
    windowTraffic (sumPoints (usageQuery period start stop) points) =
      usageIn points period start stop := by
  have hcov : points.filter (usageQuery period start stop).covers =
      points.filter (Point.isUsageIn period start stop) :=
    List.filter_congr fun pt _ => covers_usageQuery pt
  have hcounts : ∀ pt ∈ points.filter (Point.isUsageIn period start stop), pt.Counts := by
    intro pt hpt
    obtain ⟨hmem, hin⟩ := List.mem_filter.1 hpt
    exact h pt hmem (Bool.and_eq_true_iff.1 hin).1
  obtain ⟨htd, htu⟩ := totalTraffic_counts hcounts
  have hfields : [downloadField, uploadField].Nodup := by decide
  have hempty : ∀ field, FieldSums.of .empty field = 0 := fun _ => rfl
  have hzero : ∀ field, wrapSigned (FieldSums.of .empty field) = FieldSums.of .empty field := fun _ => rfl
  have hd := of_foldl_addPoint hfields (show downloadField ∈ _ by simp)
    (points.filter (Point.isUsageIn period start stop)) (hzero _)
  have hu := of_foldl_addPoint hfields (show uploadField ∈ _ by simp)
    (points.filter (Point.isUsageIn period start stop)) (hzero _)
  rw [hempty] at hd hu
  refine (windowTraffic_ite _).trans ?_
  rw [show (usageQuery period start stop).fields = [downloadField, uploadField] from rfl, hcov,
    hd, hu, ← htd, ← htu]
  unfold usageIn at *
  rw [toNat_wrapSigned hfits.1, toNat_wrapSigned hfits.2]

end
end ProxyMesh
