import ProxyMesh.Series.Line
import ProxyMesh.Proofs.Json.Spelling
import ProxyMesh.Proofs.Number.Decimals
import ProxyMesh.Proofs.Text.Chunks

/-!
# One line for each point

A batch is the lines of its points with line feeds between them.  The texts of a point are written with
backslashes in front of whatever would end their part of the line, but a line feed ends the whole line
and is written as it is.  So a batch falls into the lines of its points exactly as long as no text of
theirs holds one.

* `Point.texts`                the texts of a point, whoever chose them;
* `lineFeed_mem_lineChars`     the line feeds of a line are those of the texts;
* `splitChars_intercalate`     the pieces of a batch are those of its lines;
* `batchLines`                 what stands between the line feeds of a batch;
* `batchLines_linesText_iff`   **a batch falls into the lines of its points exactly if no text holds a
                               line feed**.
-/

namespace ProxyMesh

/-- the text of a field, if it holds one -/
def FieldValue.texts : FieldValue → List String
  | .str s => [s]
  | _ => []

/-- the measurement, the names and values of the tags, and the names and texts of the fields -/
def Point.texts (p : Point) : List String :=
  p.measurement :: (p.tags.records.flatMap fun t => [t.1, t.2]) ++
    p.fields.records.flatMap fun f => f.1 :: f.2.texts

/-! ## line feeds in a line -/

theorem mem_escape {special s : List Char} {c : Char} (hc : c ≠ '\\') :
    c ∈ escape special s ↔ c ∈ s := by
  have hone : ∀ d, (c ∈ if d = '\\' || special.contains d then ['\\', d] else [d]) ↔ c = d := by
    intro d
    split <;> simp [hc]
  unfold escape
  simp only [List.mem_flatMap, hone, exists_eq_right']

theorem not_mem_toString {c : Char} (hsign : c ≠ '-') (hc : Text.isDigit c = false) (n : Int) :
    c ∉ (toString n).toList := by
  rw [Json.Tree.toList_toString, List.mem_append]
  rintro (h | h)
  · split at h
    · exact hsign (List.mem_singleton.1 h)
    · exact List.not_mem_nil h
  · rw [Text.isDigit_of_mem_toDigits h] at hc
    exact Bool.noConfusion hc

theorem lineFeed_not_mem_float (x : Binary64) : '\n' ∉ (Layout.positional.text x).toList := by
  have hsign : '\n' ∉ (if x.isNegative then "-" else "").toList := by
    split <;> decide
  obtain ⟨whole, fraction, hspelling⟩ := Decimal.exists_spelling x.shortest
  have hdigits : '\n' ∉ (Layout.spellPositional "" x.shortest).toList := by
    have hnot : '\n' ∉ whole ++ fraction := fun h => Bool.noConfusion (hspelling.isDigit_of_mem _ h)
    obtain ⟨hwhole, hfraction⟩ := not_or.1 (mt List.mem_append.2 hnot)
    rw [hspelling.text, List.mem_append]
    rintro (h | h)
    · exact hwhole h
    · cases fraction with
      | nil => exact List.not_mem_nil h
      | cons d rest => exact hfraction ((List.mem_cons.1 h).resolve_left (by decide))
  unfold Layout.text
  simp only [Layout.positional, if_pos]
  split
  · decide
  · split
    · rw [String.toList_append, List.mem_append]
      exact not_or.2 ⟨hsign, by decide⟩
    · rw [String.toList_append, List.mem_append]
      exact not_or.2 ⟨hsign, hdigits⟩

theorem lineFeed_mem_chars (v : FieldValue) : '\n' ∈ v.chars ↔ ∃ t ∈ v.texts, '\n' ∈ t.toList := by
  cases v with
  | int n =>
    have hnot : '\n' ∉ (toString n).toList ++ ['i'] :=
      mt List.mem_append.1 (not_or.2 ⟨not_mem_toString (by decide) (by decide) n, by decide⟩)
    exact ⟨fun h => absurd h hnot, fun ⟨_, ht, _⟩ => absurd ht List.not_mem_nil⟩
  | float x => simp [FieldValue.chars, FieldValue.texts, lineFeed_not_mem_float x]
  | bool b => cases b <;> simp [FieldValue.chars, FieldValue.texts]
  | str s => simp [FieldValue.chars, FieldValue.texts, mem_escape]

theorem lineFeed_mem_tagChars (t : String × String) :
    '\n' ∈ Point.tagChars t ↔ ∃ s ∈ [t.1, t.2], '\n' ∈ s.toList := by
  simp [Point.tagChars, mem_escape]

theorem lineFeed_mem_fieldChars (f : String × FieldValue) :
    '\n' ∈ Point.fieldChars f ↔ ∃ s ∈ f.1 :: f.2.texts, '\n' ∈ s.toList := by
  simp [Point.fieldChars, mem_escape, lineFeed_mem_chars]

section
variable {c sep : Char}

/-- a character that is no separator comes from a part -/
theorem mem_intercalate (hc : c ≠ sep) (parts : List (List Char)) :
    c ∈ [sep].intercalate parts ↔ c ∈ parts.flatten := by
  induction parts with
  | nil => rfl
  | cons part more ih =>
    cases more with
    | nil => simp
    | cons next more =>
      rw [List.intercalate_cons_cons, List.mem_append, List.mem_append, ih, List.mem_singleton,
        or_iff_left hc]
      exact List.mem_append.symm

theorem mem_flatMap_texts {α : Type} {chars : α → List Char} {texts : α → List String}
    (h : ∀ a, c ∈ chars a ↔ ∃ t ∈ texts a, c ∈ t.toList) (l : List α) :
    c ∈ l.flatMap chars ↔ ∃ t ∈ l.flatMap texts, c ∈ t.toList := by
  constructor
  · intro hmem
    obtain ⟨a, ha, hc⟩ := List.mem_flatMap.1 hmem
    obtain ⟨t, ht, hc⟩ := (h a).1 hc
    exact ⟨t, List.mem_flatMap.2 ⟨a, ha, ht⟩, hc⟩
  · rintro ⟨t, hmem, hc⟩
    obtain ⟨a, ha, ht⟩ := List.mem_flatMap.1 hmem
    exact List.mem_flatMap.2 ⟨a, ha, (h a).2 ⟨t, ht, hc⟩⟩

end

theorem lineFeed_mem_lineChars (p : Point) :
    '\n' ∈ p.lineChars ↔ ∃ t ∈ p.texts, '\n' ∈ t.toList := by
  have hmeasurement : '\n' ∈ escape measurementSpecial p.measurement.toList ↔
      '\n' ∈ p.measurement.toList := mem_escape (by decide)
  have htags := mem_flatMap_texts lineFeed_mem_tagChars p.tags.records
  have hfields : '\n' ∈ [','].intercalate (p.fields.records.map Point.fieldChars) ↔ _ :=
    (mem_intercalate (by decide) _).trans
      (mem_flatMap_texts lineFeed_mem_fieldChars p.fields.records)
  have htime : '\n' ∉ (toString p.time).toList :=
    not_mem_toString (by decide) (by decide) (p.time : Int)
  have hblank : '\n' ≠ ' ' := by decide
  unfold Point.lineChars Point.texts
  simp only [List.cons_append, List.mem_append, List.mem_cons, hmeasurement, htags, hfields, htime,
    hblank, or_and_right, exists_or, exists_eq_left, or_false, false_or, or_assoc]

/-! ## pieces of a batch -/

section
variable {sep : Char}

theorem not_mem_of_mem_splitChars {piece s : List Char} (h : piece ∈ Text.splitChars sep s) :
    sep ∉ piece := by
  induction s generalizing piece with
  | nil =>
    rw [List.mem_singleton.1 h]
    exact List.not_mem_nil
  | cons c rest ih =>
    by_cases hc : c = sep
    · rw [hc, Text.splitChars_cons_sep] at h
      rcases List.mem_cons.1 h with rfl | hpiece
      · exact List.not_mem_nil
      · exact ih hpiece
    · obtain ⟨first, more, hrest⟩ := List.exists_cons_of_ne_nil (Text.splitChars_ne_nil sep rest)
      rw [hrest] at ih
      rw [Text.splitChars_cons_ne hc hrest] at h
      rcases List.mem_cons.1 h with rfl | hpiece
      · exact List.not_mem_cons_of_ne_of_not_mem (Ne.symm hc) (ih List.mem_cons_self)
      · exact ih (List.mem_cons_of_mem _ hpiece)

theorem splitChars_of_not_mem {s : List Char} (h : sep ∉ s) : Text.splitChars sep s = [s] := by
  induction s with
  | nil => rfl
  | cons c rest ih =>
    obtain ⟨hc, hrest⟩ := not_or.1 (mt List.mem_cons.2 h)
    exact Text.splitChars_cons_ne (Ne.symm hc) (ih hrest)

theorem splitChars_intercalate {parts : List (List Char)} (h : parts ≠ []) :
    Text.splitChars sep ([sep].intercalate parts) = parts.flatMap (Text.splitChars sep) := by
  induction parts with
  | nil => exact absurd rfl h
  | cons part more ih =>
    cases more with
    | nil => simp
    | cons next more =>
      rw [List.intercalate_cons_cons, List.append_assoc, List.singleton_append,
        Text.splitChars_append, ih (List.cons_ne_nil _ _)]
      exact List.flatMap_cons.symm

/-- the pieces are the parts again exactly if no part holds a separator -/
theorem flatMap_splitChars_eq_iff {parts : List (List Char)} :
    parts.flatMap (Text.splitChars sep) = parts ↔ ∀ part ∈ parts, sep ∉ part := by
  constructor
  · intro h part hpart
    rw [← h] at hpart
    obtain ⟨_, _, hpiece⟩ := List.mem_flatMap.1 hpart
    exact not_mem_of_mem_splitChars hpiece
  · intro h
    induction parts with
    | nil => rfl
    | cons part more ih =>
      obtain ⟨hpart, hmore⟩ := List.forall_mem_cons.1 h
      rw [List.flatMap_cons, splitChars_of_not_mem hpart, ih hmore]
      rfl

end

/-- what stands between the line feeds of a batch; an empty one holds nothing -/
def batchLines (text : String) : List String :=
  if text.isEmpty then [] else Text.splitAt '\n' text

theorem line?_of_fields {p : Point} (h : p.fields.records ≠ []) :
    p.line? = some (String.ofList p.lineChars) := by
  unfold Point.line?
  rw [List.isEmpty_eq_false_iff.2 h]
  rfl

theorem mem_lines_iff {points : List Point} {line : String} : line ∈ points.filterMap Point.line? ↔
    ∃ p ∈ points, p.fields.records ≠ [] ∧ line = String.ofList p.lineChars := by
  rw [List.mem_filterMap]
  refine exists_congr fun p => and_congr_right fun _ => ?_
  by_cases h : p.fields.records = []
  · have hnone : p.line? = none := by
      unfold Point.line?
      rw [h]
      rfl
    rw [hnone]
    exact ⟨nofun, fun ⟨hfields, _⟩ => absurd h hfields⟩
  · rw [line?_of_fields h, Option.some_inj, and_iff_right h, eq_comm]

/-- a batch with a line is not empty: a line holds blanks -/
theorem linesText_ne_empty {points : List Point} (h : points.filterMap Point.line? ≠ []) :
    linesText points ≠ "" := by
  obtain ⟨line, hline⟩ := List.exists_mem_of_ne_nil _ h
  obtain ⟨p, -, -, rfl⟩ := mem_lines_iff.1 hline
  have hblank : ' ' ∈ (String.ofList p.lineChars).toList := by
    rw [String.toList_ofList]
    exact List.mem_append_right _ List.mem_cons_self
  have hmem : ' ' ∈ (linesText points).toList := by
    unfold linesText
    rw [String.toList_intercalate]
    exact (mem_intercalate (by decide) _).2
      (List.mem_flatten_of_mem (List.mem_map_of_mem hline) hblank)
  exact mt String.toList_eq_nil_iff.2 (List.ne_nil_of_mem hmem)

theorem batchLines_linesText (points : List Point) : batchLines (linesText points) =
    (((points.filterMap Point.line?).map String.toList).flatMap (Text.splitChars '\n')).map
      String.ofList := by
  by_cases hnone : points.filterMap Point.line? = []
  · unfold linesText
    rw [hnone]
    rfl
  · have hlines : (points.filterMap Point.line?).map String.toList ≠ [] :=
      mt List.map_eq_nil_iff.1 hnone
    unfold batchLines Text.splitAt
    rw [String.isEmpty_eq_false_iff.2 (linesText_ne_empty hnone), ← splitChars_intercalate hlines]
    unfold linesText
    rw [String.toList_intercalate]
    rfl

/-- **A batch falls into the lines of its points exactly if no text holds a line feed**: no text of a
point that has fields. -/
theorem batchLines_linesText_iff (points : List Point) :
    batchLines (linesText points) = points.filterMap Point.line? ↔
      ∀ p ∈ points, p.fields.records ≠ [] → ∀ t ∈ p.texts, '\n' ∉ t.toList := by
  have hback : ((points.filterMap Point.line?).map String.toList).map String.ofList =
      points.filterMap Point.line? := by
    rw [List.map_map]
    exact List.map_id'' (fun _ => String.ofList_toList) _
  have hpieces : batchLines (linesText points) = points.filterMap Point.line? ↔
      ∀ part ∈ (points.filterMap Point.line?).map String.toList, '\n' ∉ part := by
    rw [← flatMap_splitChars_eq_iff, batchLines_linesText,
      ← List.map_inj_right fun _ _ => String.ofList_injective, hback]
  have hline : ∀ p : Point, '\n' ∉ (String.ofList p.lineChars).toList ↔
      ∀ t ∈ p.texts, '\n' ∉ t.toList := by
    intro p
    rw [String.toList_ofList, lineFeed_mem_lineChars]
    exact ⟨fun h t ht hmem => h ⟨t, ht, hmem⟩, fun h ⟨t, ht, hmem⟩ => h t ht hmem⟩
  rw [hpieces, List.forall_mem_map]
  constructor
  · intro h p hp hfields
    exact (hline p).1 (h _ (mem_lines_iff.2 ⟨p, hp, hfields, rfl⟩))
  · intro h line hmem
    obtain ⟨p, hp, hfields, rfl⟩ := mem_lines_iff.1 hmem
    exact (hline p).2 (h p hp hfields)

/-- the value of a tag goes on in a line of its own -/
theorem tag_breaks_line :
    let points := [((Point.bare "m" 1).withTag "tag" "a\nb").withField "v" (.bool true)]
    batchLines (linesText points) = ["m,tag=a", "b v=true 1"] ∧
      batchLines (linesText points) ≠ points.filterMap Point.line? := by decide +kernel

end ProxyMesh
