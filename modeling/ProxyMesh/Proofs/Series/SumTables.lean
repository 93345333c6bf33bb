import Mathlib.Data.List.DropRight
import Mathlib.Data.List.Forall2
import ProxyMesh.Proofs.Accounting.Windows
import ProxyMesh.Proofs.Series.Breaks
import ProxyMesh.Proofs.Text.Numerals
import ProxyMesh.Series.SumTable

/-!
# Answers are summed exactly

An answer is a sequence of tables, each with a header of its own.  Blank lines and notes, which begin with
`#`, stand in front of each table but perhaps the first; they alone end a table, so where the columns
stand has to be forgotten there and nowhere else.

* `Ended`               the lines of a text, each with a line end of either kind;
* `lines_ended`         they are its lines again, but for carriage returns at their ends;
* `SaysInt`             a decimal number of 64 bits with a sign;
* `SumTable`, `SumAnswer`  tables and the lines between them, and what the rows say;
* `Spoils`              a row that is too short, or has a value that is no number, in the place of a row;
* `foldlM_tables`       tables are read as the entries of their rows, one after the other;
* `sums_exact`          **each field has the sum of all its rows, and one spoiled row spoils the answer**.
-/

namespace ProxyMesh

/-! ## lines -/

/-- The text is these lines, each with its line end, which the last one may do without.  No line holds a
line feed. -/
inductive Ended : List String → String → Prop
  | nil : Ended [] ""
  | last {line : String} (hplain : '\n' ∉ line.toList) (h : line ≠ "") : Ended [line] line
  | cons {line : String} (hplain : '\n' ∉ line.toList) (e : Text.LineEnd) {rest : List String}
      {text : String} (h : Ended rest text) : Ended (line :: rest) (line ++ e.text ++ text)

/-- the lines, all with the same line end -/
def endLines (e : Text.LineEnd) (ls : List String) : String :=
  ls.foldr (fun line text => line ++ e.text ++ text) ""

theorem ended_endLines (e : Text.LineEnd) {ls : List String} (h : ∀ line ∈ ls, '\n' ∉ line.toList) :
    Ended ls (endLines e ls) := by
  induction ls with
  | nil => exact .nil
  | cons line rest ih =>
    obtain ⟨hline, hrest⟩ := List.forall_mem_cons.1 h
    exact .cons hline e (ih hrest)

theorem dropReturns_dropReturn (line : List Char) :
    dropReturns (String.ofList (Text.dropReturn line)) = dropReturns (String.ofList line) := by
  rcases Text.eq_dropReturn_or line with h | h
  · rw [h]
  · have hreturn : Text.dropEndWhile (· = '\r') (Text.dropReturn line ++ ['\r']) =
        Text.dropEndWhile (· = '\r') (Text.dropReturn line) :=
      Text.dropEndWhile_concat (decide_eq_true rfl) _
    rw [← h] at hreturn
    unfold dropReturns
    rw [String.toList_ofList, String.toList_ofList, hreturn]

theorem dropReturns_dropReturns (line : String) : dropReturns (dropReturns line) = dropReturns line := by
  unfold dropReturns Text.dropEndWhile
  rw [String.toList_ofList, List.reverse_reverse, List.dropWhile_idempotent]

theorem lines_cons {line : List Char} (h : '\n' ∉ line) (rest : String) :
    Text.lines (String.ofList (line ++ '\n' :: rest.toList)) =
      String.ofList (Text.dropReturn line) :: Text.lines rest := by
  obtain ⟨piece, more, hrest⟩ := List.exists_cons_of_ne_nil (Text.splitChars_ne_nil '\n' rest.toList)
  unfold Text.lines
  rw [String.toList_ofList, Text.splitChars_append, splitChars_of_not_mem h, hrest]
  rfl

/-- a line is cut off at its line end, of whichever kind -/
theorem lines_cons_end {line : String} (h : '\n' ∉ line.toList) (e : Text.LineEnd) (rest : String) :
    (Text.lines (line ++ e.text ++ rest)).map dropReturns =
      dropReturns line :: (Text.lines rest).map dropReturns := by
  cases e with
  | lf =>
    have htext : line ++ "\n" ++ rest = String.ofList (line.toList ++ '\n' :: rest.toList) := by
      rw [← String.toList_inj, String.toList_ofList, String.toList_append, String.toList_append,
        List.append_assoc]
      rfl
    show (Text.lines (line ++ "\n" ++ rest)).map dropReturns = _
    rw [htext, lines_cons h, List.map_cons, dropReturns_dropReturn, String.ofList_toList]
  | crlf =>
    have htext : line ++ "\r\n" ++ rest =
        String.ofList (line.toList ++ ['\r'] ++ '\n' :: rest.toList) := by
      rw [← String.toList_inj, String.toList_ofList, String.toList_append, String.toList_append,
        List.append_assoc, List.append_assoc]
      rfl
    have hplain : '\n' ∉ line.toList ++ ['\r'] :=
      mt List.mem_append.1 (not_or.2 ⟨h, by decide⟩)
    have hdrop : Text.dropReturn (line.toList ++ ['\r']) = line.toList := by
      unfold Text.dropReturn
      rw [List.getLast?_concat]
      exact List.dropLast_concat
    show (Text.lines (line ++ "\r\n" ++ rest)).map dropReturns = _
    rw [htext, lines_cons hplain, List.map_cons, hdrop, String.ofList_toList]

theorem lines_ended {ls : List String} {text : String} (h : Ended ls text) :
    (Text.lines text).map dropReturns = ls.map dropReturns := by
  induction h with
  | nil => rfl
  | @last line hplain hline =>
    have hpiece : line.toList.isEmpty = false :=
      List.isEmpty_eq_false_iff.2 (mt String.toList_eq_nil_iff.1 hline)
    have hlines : Text.lines line = [String.ofList line.toList] := by
      unfold Text.lines
      rw [splitChars_of_not_mem hplain, Text.closeLines, hpiece]
      rfl
    rw [hlines, String.ofList_toList]
  | cons hplain e h ih => rw [lines_cons_end hplain, ih, List.map_cons]

/-! ## numbers -/

/-- digits, at least one -/
def AreDigits (digits : List Char) : Prop := digits ≠ [] ∧ ∀ c ∈ digits, Text.isDigit c = true

/-- a decimal number that 64 bits with a sign hold, perhaps behind its sign -/
def SaysInt (s : List Char) (n : Int) : Prop :=
  isSigned n = true ∧ ∃ digits, AreDigits digits ∧
    ((s = digits ∨ s = '+' :: digits) ∧ n = Text.digitsValue digits ∨
      s = '-' :: digits ∧ n = -(Text.digitsValue digits : Int))

theorem not_areDigits_cons {c : Char} (hc : Text.isDigit c = false) (s : List Char) :
    ¬AreDigits (c :: s) := by
  intro h
  rw [h.2 c List.mem_cons_self] at hc
  cases hc

theorem readNat_bounded_iff {s : List Char} {n : Int} {p : Nat → Prop} [DecidablePred p]
    {f : Nat → Int} : ((Text.readNat s).bind fun m => if p m then some (f m) else none) = some n ↔
      AreDigits s ∧ p (Text.digitsValue s) ∧ f (Text.digitsValue s) = n := by
  rw [Option.bind_eq_some_iff]
  constructor
  · rintro ⟨m, hm, hn⟩
    obtain ⟨hdigits, rfl⟩ := Text.readNat_eq_some_iff.1 hm
    split at hn
    next hp => exact ⟨hdigits, hp, Option.some.inj hn⟩
    next => cases hn
  · rintro ⟨hdigits, hp, rfl⟩
    exact ⟨_, Text.readNat_eq_some_iff.2 ⟨hdigits, rfl⟩, if_pos hp⟩

/-- what is read as a whole number is a decimal number that 64 bits with a sign hold -/
theorem readSigned_eq_some_iff {s : List Char} {n : Int} : Text.readSigned s = some n ↔ SaysInt s n := by
  have hbound : (0 : Int) < signedBound := by decide
  unfold Text.readSigned SaysInt
  rw [isSigned_iff]
  split
  next digits =>
    have hminus : ¬AreDigits ('-' :: digits) := not_areDigits_cons (by decide) digits
    rw [readNat_bounded_iff]
    constructor
    · rintro ⟨hdigits, hfits, rfl⟩
      exact ⟨by omega, digits, hdigits, Or.inr ⟨rfl, rfl⟩⟩
    · rintro ⟨hfits, other, hdigits, ⟨rfl | h, -⟩ | ⟨h, rfl⟩⟩
      · exact absurd hdigits hminus
      · cases h
      · obtain rfl := (List.cons.inj h).2
        exact ⟨hdigits, by omega, rfl⟩
  next digits =>
    have hplus : ¬AreDigits ('+' :: digits) := not_areDigits_cons (by decide) digits
    rw [readNat_bounded_iff]
    constructor
    · rintro ⟨hdigits, hfits, rfl⟩
      exact ⟨by omega, digits, hdigits, Or.inl ⟨Or.inr rfl, rfl⟩⟩
    · rintro ⟨hfits, other, hdigits, ⟨rfl | h, rfl⟩ | ⟨h, -⟩⟩
      · exact absurd hdigits hplus
      · obtain rfl := (List.cons.inj h).2
        exact ⟨hdigits, by omega, rfl⟩
      · cases h
  next hminus hplus =>
    rw [readNat_bounded_iff]
    constructor
    · rintro ⟨hdigits, hfits, rfl⟩
      exact ⟨by omega, s, hdigits, Or.inl ⟨Or.inl rfl, rfl⟩⟩
    · rintro ⟨hfits, other, hdigits, ⟨rfl | h, rfl⟩ | ⟨h, -⟩⟩
      · exact ⟨hdigits, by omega, rfl⟩
      · exact absurd h (hplus other)
      · exact absurd h (hminus other)

instance (s : List Char) (n : Int) : Decidable (SaysInt s n) := decidable_of_iff _ readSigned_eq_some_iff

/-! ## tables -/

/-- the line of these cells -/
def lineOf (cells : List String) : String := ",".intercalate cells

/-- A header or a row: its cells hold no commas, and its line is not empty and begins with no `#`.  A
carriage return at its end would belong to the line end. -/
structure IsRecord (cells : List String) : Prop where
  comma : ∀ cell ∈ cells, ',' ∉ cell.toList
  carriageReturn : (lineOf cells).toList.getLast? ≠ some '\r'
  ne : lineOf cells ≠ ""
  mark : (lineOf cells).toList.head? ≠ some '#'

instance (cells : List String) : Decidable (IsRecord cells) :=
  decidable_of_iff ((∀ cell ∈ cells, ',' ∉ cell.toList) ∧ (lineOf cells).toList.getLast? ≠ some '\r' ∧
      lineOf cells ≠ "" ∧ (lineOf cells).toList.head? ≠ some '#')
    ⟨fun ⟨hcomma, hreturn, hne, hmark⟩ => ⟨hcomma, hreturn, hne, hmark⟩,
      fun h => ⟨h.comma, h.carriageReturn, h.ne, h.mark⟩⟩

/-- blank, or a note -/
def IsGap (line : String) : Prop := line = "" ∨ line.toList.head? = some '#'

instance (line : String) : Decidable (IsGap line) :=
  inferInstanceAs (Decidable (line = "" ∨ line.toList.head? = some '#'))

/-- a table, and the lines in front of it -/
structure SumTable where
  gap : List String
  columns : List String
  rows : List (List String)

namespace SumTable

/-- the column with the names of the fields -/
def fieldAt (t : SumTable) : Nat := t.columns.idxOf "_field"

/-- the column with the values -/
def valueAt (t : SumTable) : Nat := t.columns.idxOf "_value"

def lines (t : SumTable) : List String := t.gap ++ lineOf t.columns :: t.rows.map lineOf

/-- the row has this field and this value in the columns of the table -/
structure RowSays (t : SumTable) (row : List String) (entry : String × Int) : Prop where
  isRecord : IsRecord row
  field : row[t.fieldAt]? = some entry.1
  value : ∃ cell, row[t.valueAt]? = some cell ∧ SaysInt cell.toList entry.2

/-- the table is one, and its rows say these fields and values -/
structure Says (t : SumTable) (entries : List (String × Int)) : Prop where
  gap : ∀ line ∈ t.gap, IsGap line
  header : IsRecord t.columns
  field : "_field" ∈ t.columns
  value : "_value" ∈ t.columns
  rows : List.Forall₂ t.RowSays t.rows entries

/-- the row does not reach both columns, or its value is no number -/
def RowSpoiled (t : SumTable) (row : List String) : Prop :=
  IsRecord row ∧ (row.length ≤ t.fieldAt ∨ row.length ≤ t.valueAt ∨
    ∃ cell, row[t.valueAt]? = some cell ∧ (∀ n, ¬SaysInt cell.toList n) ∧
      Binary64.read? cell.toList = none)

/-- one row is spoiled -/
inductive Spoils : SumTable → SumTable → Prop
  | row (gap : List String) (columns row spoiled : List String) (before after : List (List String))
      (h : RowSpoiled ⟨gap, columns, before ++ row :: after⟩ spoiled) :
      Spoils ⟨gap, columns, before ++ row :: after⟩ ⟨gap, columns, before ++ spoiled :: after⟩

end SumTable

/-- the tables in their order, and the lines after the last one -/
structure SumAnswer where
  tables : List SumTable
  closing : List String

namespace SumAnswer

def lines (a : SumAnswer) : List String := a.tables.flatMap SumTable.lines ++ a.closing

/-- Its tables say this, each about its own rows.  Nothing but blank lines and notes can tell where one
table ends and the next one begins. -/
structure Says (a : SumAnswer) (entries : List (List (String × Int))) : Prop where
  tables : List.Forall₂ SumTable.Says a.tables entries
  apart : ∀ t ∈ a.tables.tail, t.gap ≠ []
  closing : ∀ line ∈ a.closing, IsGap line

/-- one row of one table is spoiled -/
inductive Spoils : SumAnswer → SumAnswer → Prop
  | table (before after : List SumTable) (closing : List String) {t t' : SumTable} (h : t.Spoils t') :
      Spoils ⟨before ++ t :: after, closing⟩ ⟨before ++ t' :: after, closing⟩

end SumAnswer

/-- what the entries of one field come to -/
def totalOf (field : String) (entries : List (String × Int)) : Int :=
  ((entries.filter (·.1 = field)).map (·.2)).sum

/-! ## reading a table -/

section
variable {cells : List String} {line : String} {sums : FieldSums}

theorem splitAt_lineOf (h : IsRecord cells) : Text.splitAt ',' (lineOf cells) = cells := by
  have hne : cells.map String.toList ≠ [] := by
    intro hnil
    rw [List.map_eq_nil_iff.1 hnil] at h
    exact h.ne rfl
  have hparts : (cells.map String.toList).flatMap (Text.splitChars ',') = cells.map String.toList :=
    flatMap_splitChars_eq_iff.2 (List.forall_mem_map.2 h.comma)
  unfold Text.splitAt lineOf
  rw [String.toList_intercalate]
  show (Text.splitChars ',' ([','].intercalate (cells.map String.toList))).map String.ofList = _
  rw [splitChars_intercalate hne, hparts, List.map_map]
  exact List.map_id'' (fun _ => String.ofList_toList) _

theorem dropReturns_lineOf (h : IsRecord cells) : dropReturns (lineOf cells) = lineOf cells := by
  unfold dropReturns
  rw [Text.dropEndWhile_of_last, String.ofList_toList]
  intro c hc
  exact decide_eq_false fun hreturn => h.carriageReturn (hreturn ▸ hc)

theorem endsTable_lineOf (h : IsRecord cells) : endsTable (lineOf cells) = false := by
  have hempty : (lineOf cells).isEmpty = false := String.isEmpty_eq_false_iff.2 h.ne
  have hmark : ((lineOf cells).toList.head? == some '#') = false := beq_eq_false_iff_ne.2 h.mark
  unfold endsTable
  rw [hempty, hmark]
  rfl

theorem endsTable_gap (h : IsGap line) : endsTable (dropReturns line) = true := by
  rcases h with rfl | hmark
  · decide
  · obtain ⟨rest, hline⟩ := List.head?_eq_some_iff.1 hmark
    have hdrop : (dropReturns line).toList.head? = some '#' := by
      unfold dropReturns
      rw [String.toList_ofList, hline, Text.dropEndWhile_cons (by decide)]
      rfl
    unfold endsTable
    rw [hdrop]
    exact Bool.or_true _

theorem step_gap (h : IsGap line) (t : TableState) :
    t.step line = .ok { t with columns := none } := by
  unfold TableState.step
  exact if_pos (endsTable_gap h)

/-- the first line of a table is read as its header -/
theorem step_header (h : IsRecord cells) : TableState.step ⟨none, sums⟩ (lineOf cells) =
    (readHeader (lineOf cells) cells).map fun columns => ⟨some columns, sums⟩ := by
  unfold TableState.step
  dsimp only
  rw [dropReturns_lineOf h, endsTable_lineOf h, splitAt_lineOf h]
  exact if_neg Bool.false_ne_true

theorem step_row (h : IsRecord cells) (columns : Nat × Nat) :
    TableState.step ⟨some columns, sums⟩ (lineOf cells) =
      (readRow columns (lineOf cells) cells).map fun (field, n) =>
        ⟨some columns, sums.add field n⟩ := by
  unfold TableState.step
  dsimp only
  rw [dropReturns_lineOf h, endsTable_lineOf h, splitAt_lineOf h]
  exact if_neg Bool.false_ne_true

theorem idxOf?_of_mem {name : String} {l : List String} (h : name ∈ l) :
    l.idxOf? name = some (l.idxOf name) := by
  induction l with
  | nil => cases h
  | cons a rest ih =>
    rw [List.idxOf?_cons, List.idxOf_cons]
    cases ha : a == name with
    | true => rfl
    | false =>
      have hrest : name ∈ rest :=
        (List.mem_cons.1 h).resolve_left fun hsame => absurd hsame.symm (beq_eq_false_iff_ne.1 ha)
      rw [ih hrest]
      rfl

theorem readHeader_eq {cells : List String} (hfield : "_field" ∈ cells) (hvalue : "_value" ∈ cells)
    (line : String) :
    readHeader line cells = .ok (cells.idxOf "_field", cells.idxOf "_value") := by
  unfold readHeader
  rw [idxOf?_of_mem hfield, idxOf?_of_mem hvalue]

theorem readRow_eq_ok {t : SumTable} {row : List String} {entry : String × Int}
    (h : t.RowSays row entry) (line : String) :
    readRow (t.fieldAt, t.valueAt) line row = .ok entry := by
  obtain ⟨cell, hcell, hnumber⟩ := h.value
  have hvalue : cellValue cell = some entry.2 := by
    unfold cellValue
    rw [readSigned_eq_some_iff.2 hnumber]
    rfl
  unfold readRow
  dsimp only
  rw [h.field, hcell]
  dsimp only
  rw [hvalue]

theorem readRow_eq_error {t : SumTable} {row : List String} (h : t.RowSpoiled row) (line : String) :
    ∃ e, readRow (t.fieldAt, t.valueAt) line row = .error e := by
  unfold readRow
  dsimp only
  cases hfield : row[t.fieldAt]? with
  | none => exact ⟨_, rfl⟩
  | some field =>
    cases hcell : row[t.valueAt]? with
    | none => exact ⟨_, rfl⟩
    | some cell =>
      have hvalue : cellValue cell = none := by
        rcases h.2 with hshort | hshort | ⟨other, hother, hnumber, hread⟩
        · rw [List.getElem?_eq_none hshort] at hfield
          cases hfield
        · rw [List.getElem?_eq_none hshort] at hcell
          cases hcell
        · rw [hcell] at hother
          cases hother
          have hsigned : Text.readSigned cell.toList = none :=
            Option.eq_none_iff_forall_ne_some.2 fun n hn => hnumber n (readSigned_eq_some_iff.1 hn)
          unfold cellValue
          rw [hsigned, hread]
          rfl
      dsimp only
      rw [hvalue]
      exact ⟨_, rfl⟩

end

/-! ## sums -/

/-- the entries added one after the other -/
def addEntries (sums : FieldSums) (entries : List (String × Int)) : FieldSums :=
  entries.foldl (fun sums entry => sums.add entry.1 entry.2) sums

theorem addEntries_append (sums : FieldSums) (entries more : List (String × Int)) :
    addEntries sums (entries ++ more) = addEntries (addEntries sums entries) more :=
  List.foldl_append

theorem totalOf_cons (field : String) (entry : String × Int) (entries : List (String × Int)) :
    totalOf field (entry :: entries) =
      (if entry.1 = field then entry.2 else 0) + totalOf field entries := by
  unfold totalOf
  rw [List.filter_cons]
  by_cases h : entry.1 = field
  · rw [if_pos h, if_pos (decide_eq_true h), List.map_cons, List.sum_cons]
  · rw [if_neg h, if_neg (mt of_decide_eq_true h), zero_add]

theorem of_addEntries (field : String) (entries : List (String × Int)) {sums : FieldSums}
    (hsum : wrapSigned (sums.of field) = sums.of field) :
    (addEntries sums entries).of field = wrapSigned (sums.of field + totalOf field entries) := by
  induction entries generalizing sums with
  | nil => exact hsum.symm.trans (congrArg wrapSigned (add_zero _).symm)
  | cons entry rest ih =>
    show (addEntries (sums.add entry.1 entry.2) rest).of field = _
    rw [totalOf_cons]
    by_cases h : entry.1 = field
    · have hadd := FieldSums.of_add_self sums entry.1 entry.2
      rw [h] at hadd
      rw [h, ih (by rw [hadd, wrapSigned_wrapSigned]), hadd, wrapSigned_add_left, if_pos rfl,
        add_assoc]
    · have hadd := FieldSums.of_add_ne sums entry.2 (Ne.symm h)
      rw [ih (hadd.symm ▸ hsum), hadd, if_neg h, zero_add]

theorem contains_addEntries (field : String) (entries : List (String × Int)) (sums : FieldSums) :
    (addEntries sums entries).contains field = true ↔
      sums.contains field = true ∨ field ∈ entries.map (·.1) := by
  induction entries generalizing sums with
  | nil => exact (or_iff_left List.not_mem_nil).symm
  | cons entry rest ih =>
    show (addEntries (sums.add entry.1 entry.2) rest).contains field = true ↔ _
    rw [ih, FieldSums.contains_add, List.map_cons, List.mem_cons, or_assoc, or_left_comm]

/-- a field has a sum if it has an entry, and the sum of all its entries then -/
theorem get?_addEntries (field : String) (entries : List (String × Int)) :
    (addEntries .empty entries).get? field =
      if field ∈ entries.map (·.1) then some (field, wrapSigned (totalOf field entries)) else none := by
  have hcontains := contains_addEntries field entries .empty
  have hzero : wrapSigned (FieldSums.of .empty field) = FieldSums.of .empty field := rfl
  have hof := of_addEntries field entries hzero
  unfold Table.contains at hcontains
  unfold FieldSums.of at hof
  cases hget : (addEntries .empty entries).get? field with
  | none =>
    rw [hget] at hcontains
    exact (if_neg fun h => Bool.false_ne_true (hcontains.2 (Or.inr h))).symm
  | some a =>
    rw [hget] at hcontains hof
    have hmem : field ∈ entries.map (·.1) := (hcontains.1 rfl).resolve_left Bool.false_ne_true
    have hsum : a.2 = wrapSigned (totalOf field entries) :=
      hof.trans (congrArg wrapSigned (zero_add _))
    rw [if_pos hmem]
    exact congrArg some (Prod.ext (Table.key_of_get? hget) hsum)

theorem isEmpty_addEntries (entries : List (String × Int)) :
    (addEntries .empty entries).records.isEmpty = true ↔ entries = [] := by
  rw [Table.isEmpty_records]
  constructor
  · intro h
    refine List.eq_nil_iff_forall_not_mem.2 fun entry hentry => ?_
    have hcontains := (contains_addEntries entry.1 entries .empty).2
      (Or.inr (List.mem_map_of_mem hentry))
    rw [h] at hcontains
    cases hcontains
  · rintro rfl field
    rfl

/-! ## reading answers -/

theorem step_dropReturns (t : TableState) (line : String) : t.step (dropReturns line) = t.step line := by
  unfold TableState.step
  rw [dropReturns_dropReturns]

/-- a text is read by its lines, whichever line ends they have -/
theorem foldlM_ended {ls : List String} {text : String} (h : Ended ls text) (t : TableState) :
    (Text.lines text).foldlM TableState.step t = ls.foldlM TableState.step t := by
  have hstep : (fun t line => TableState.step t (dropReturns line)) = TableState.step :=
    funext fun t => funext (step_dropReturns t)
  calc (Text.lines text).foldlM TableState.step t
      = ((Text.lines text).map dropReturns).foldlM TableState.step t := by
        rw [List.foldlM_map, hstep]
    _ = (ls.map dropReturns).foldlM TableState.step t := by rw [lines_ended h]
    _ = ls.foldlM TableState.step t := by rw [List.foldlM_map, hstep]

section
variable {s t : TableState} {ls : List String}

theorem foldlM_cons_ok {line : String} (h : t.step line = .ok s) (rest : List String) :
    (line :: rest).foldlM TableState.step t = rest.foldlM TableState.step s := by
  rw [List.foldlM_cons, h]
  rfl

theorem foldlM_append_ok (h : ls.foldlM TableState.step t = .ok s) (more : List String) :
    (ls ++ more).foldlM TableState.step t = more.foldlM TableState.step s := by
  rw [List.foldlM_append, h]
  rfl

theorem foldlM_append_error {e : TableError} (h : ls.foldlM TableState.step t = .error e)
    (more : List String) : (ls ++ more).foldlM TableState.step t = .error e := by
  rw [List.foldlM_append, h]
  rfl

theorem foldlM_gap {gap : List String} (h : ∀ line ∈ gap, IsGap line)
    (ht : t.columns = none ∨ gap ≠ []) :
    gap.foldlM TableState.step t = .ok { t with columns := none } := by
  induction gap generalizing t with
  | nil =>
    have hnone : t.columns = none := ht.resolve_right (absurd rfl)
    rw [← hnone]
    rfl
  | cons line rest ih =>
    obtain ⟨hline, hrest⟩ := List.forall_mem_cons.1 h
    rw [foldlM_cons_ok (step_gap hline t)]
    exact ih hrest (Or.inl rfl)

theorem step_of_rowSays {table : SumTable} {row : List String} {entry : String × Int}
    (h : table.RowSays row entry) (sums : FieldSums) :
    TableState.step ⟨some (table.fieldAt, table.valueAt), sums⟩ (lineOf row) =
      .ok ⟨some (table.fieldAt, table.valueAt), sums.add entry.1 entry.2⟩ := by
  rw [step_row h.isRecord, readRow_eq_ok h]
  rfl

theorem foldlM_rows {table : SumTable} {rows : List (List String)} {entries : List (String × Int)}
    (h : List.Forall₂ table.RowSays rows entries) (sums : FieldSums) :
    (rows.map lineOf).foldlM TableState.step ⟨some (table.fieldAt, table.valueAt), sums⟩ =
      .ok ⟨some (table.fieldAt, table.valueAt), addEntries sums entries⟩ := by
  induction h generalizing sums with
  | nil => rfl
  | cons hrow hrest ih =>
    rw [List.map_cons, foldlM_cons_ok (step_of_rowSays hrow sums)]
    exact ih _

/-- whatever comes after it, a spoiled row is refused -/
theorem foldlM_spoiled {table : SumTable} {row : List String} (h : table.RowSpoiled row)
    (sums : FieldSums) (rest : List String) :
    ∃ e, (lineOf row :: rest).foldlM TableState.step ⟨some (table.fieldAt, table.valueAt), sums⟩ =
      .error e := by
  obtain ⟨e, he⟩ := readRow_eq_error h (lineOf row)
  refine ⟨e, ?_⟩
  rw [List.foldlM_cons, step_row h.1, he]
  rfl

/-- the header is read as the places of the columns -/
theorem foldlM_header {table : SumTable} {entries : List (String × Int)} (h : table.Says entries)
    (ht : t.columns = none ∨ table.gap ≠ []) (rest : List String) :
    (table.gap ++ lineOf table.columns :: rest).foldlM TableState.step t =
      rest.foldlM TableState.step ⟨some (table.fieldAt, table.valueAt), t.sums⟩ := by
  have hheader : TableState.step ⟨none, t.sums⟩ (lineOf table.columns) =
      .ok ⟨some (table.fieldAt, table.valueAt), t.sums⟩ := by
    rw [step_header h.header, readHeader_eq h.field h.value]
    rfl
  rw [foldlM_append_ok (foldlM_gap h.gap ht), foldlM_cons_ok hheader]

theorem foldlM_table {table : SumTable} {entries : List (String × Int)} (h : table.Says entries)
    (ht : t.columns = none ∨ table.gap ≠ []) : table.lines.foldlM TableState.step t =
      .ok ⟨some (table.fieldAt, table.valueAt), addEntries t.sums entries⟩ := by
  unfold SumTable.lines
  rw [foldlM_header h ht, foldlM_rows h.rows]

theorem foldlM_tables {tables : List SumTable} {entries : List (List (String × Int))}
    (h : List.Forall₂ SumTable.Says tables entries)
    (ht : t.columns = none ∨ ∀ table ∈ tables.head?, table.gap ≠ [])
    (hapart : ∀ table ∈ tables.tail, table.gap ≠ []) :
    ∃ columns, (tables.flatMap SumTable.lines).foldlM TableState.step t =
      .ok ⟨columns, addEntries t.sums entries.flatten⟩ := by
  induction h generalizing t with
  | nil => exact ⟨t.columns, rfl⟩
  | @cons table entries tables more htable hrest ih =>
    have hgap : t.columns = none ∨ table.gap ≠ [] := ht.imp_right fun h => h table rfl
    obtain ⟨columns, hread⟩ := ih
      (t := ⟨some (table.fieldAt, table.valueAt), addEntries t.sums entries⟩)
      (Or.inr fun next hnext => hapart next (List.mem_of_mem_head? hnext))
      fun next hnext => hapart next (List.mem_of_mem_tail hnext)
    refine ⟨columns, ?_⟩
    rw [List.flatMap_cons, foldlM_append_ok (foldlM_table htable hgap), List.flatten_cons,
      addEntries_append]
    exact hread

end

/-! ### spoiled rows -/

/-- the rows before the spoiled one are read, those after it are not -/
theorem foldlM_table_spoiled {table table' : SumTable} {entries : List (String × Int)}
    (h : table.Says entries) (hspoils : table.Spoils table') {t : TableState}
    (ht : t.columns = none ∨ table.gap ≠ []) :
    ∃ e, table'.lines.foldlM TableState.step t = .error e := by
  cases hspoils with
  | row gap columns row spoiled before after hspoiled =>
    have hbefore := List.forall₂_take before.length h.rows
    rw [List.take_left] at hbefore
    obtain ⟨e, he⟩ := foldlM_spoiled hspoiled (addEntries t.sums (entries.take before.length))
      (after.map lineOf)
    refine ⟨e, ?_⟩
    show (gap ++ lineOf columns :: (before ++ spoiled :: after).map lineOf).foldlM _ t = _
    rw [foldlM_header h ht, List.map_append, foldlM_append_ok (foldlM_rows hbefore t.sums)]
    exact he

/-- the tables before the one with the spoiled row are read -/
theorem foldlM_answer_spoiled {a b : SumAnswer} {entries : List (List (String × Int))}
    (h : a.Says entries) (hspoils : a.Spoils b) :
    ∃ e, b.lines.foldlM TableState.step ⟨none, .empty⟩ = .error e := by
  cases hspoils with
  | @table before after closing table table' hspoils =>
    have hbefore := List.forall₂_take before.length h.tables
    have htable := List.forall₂_drop before.length h.tables
    rw [List.take_left] at hbefore
    rw [List.drop_left] at htable
    obtain ⟨said, -, hsaid, -, -⟩ := List.forall₂_cons_left_iff.1 htable
    -- only the first table may do without a line in front of it, and then nothing has been read yet
    have hread : ∃ t : TableState, (before.flatMap SumTable.lines).foldlM TableState.step
        ⟨none, .empty⟩ = .ok t ∧ (t.columns = none ∨ table.gap ≠ []) := by
      cases before with
      | nil => exact ⟨_, rfl, Or.inl rfl⟩
      | cons first more =>
        have hapart : ∀ t ∈ more ++ table :: after, t.gap ≠ [] := h.apart
        obtain ⟨columns, hfirst⟩ := foldlM_tables (t := ⟨none, .empty⟩) hbefore (Or.inl rfl)
          fun t ht => hapart t (List.mem_append_left _ ht)
        exact ⟨_, hfirst, Or.inr (hapart table (List.mem_append_right _ List.mem_cons_self))⟩
    obtain ⟨t, ht, hgap⟩ := hread
    obtain ⟨e, he⟩ := foldlM_table_spoiled hsaid hspoils hgap
    refine ⟨e, foldlM_append_error ?_ closing⟩
    show ((before ++ table' :: after).flatMap SumTable.lines).foldlM _ _ = _
    rw [List.flatMap_append, List.flatMap_cons, foldlM_append_ok ht]
    exact foldlM_append_error he _

/-! ### the answer as a whole -/

theorem foldlM_answer {a : SumAnswer} {entries : List (List (String × Int))} (h : a.Says entries) :
    ∃ columns, a.lines.foldlM TableState.step ⟨none, .empty⟩ =
      .ok ⟨columns, addEntries .empty entries.flatten⟩ := by
  obtain ⟨columns, hread⟩ := foldlM_tables (t := ⟨none, .empty⟩) h.tables (Or.inl rfl) h.apart
  unfold SumAnswer.lines
  rw [foldlM_append_ok hread]
  by_cases hclosing : a.closing = []
  · rw [hclosing]
    exact ⟨columns, rfl⟩
  · exact ⟨none, foldlM_gap h.closing (Or.inr hclosing)⟩

theorem flatten_eq_nil_iff {tables : List SumTable} {entries : List (List (String × Int))}
    (h : List.Forall₂ SumTable.Says tables entries) :
    entries.flatten = [] ↔ ∀ table ∈ tables, table.rows = [] := by
  induction h with
  | nil => exact iff_of_true rfl (List.forall_mem_nil _)
  | @cons table said tables more htable hrest ih =>
    have hrows : said = [] ↔ table.rows = [] := by
      rw [← List.length_eq_zero_iff, ← htable.rows.length_eq, List.length_eq_zero_iff]
    rw [List.flatten_cons, List.append_eq_nil_iff, List.forall_mem_cons, ih, hrows]

/-- Each field that has an entry has the sum of all its entries, whatever tables they stand in and
whichever ends the lines have; it is exact if it fits 64 bits.  Without rows there are no sums.  One row
that does not reach its field or its value, or whose value is no number, is enough for the whole text to be
refused. -/
theorem sums_exact {a : SumAnswer} {entries : List (List (String × Int))} (h : a.Says entries) :
    (∀ text, Ended a.lines text → ∃ result, readSums text = .ok result ∧
      (result = none ↔ ∀ table ∈ a.tables, table.rows = []) ∧
      ∀ sums, result = some sums → ∀ field, ∃ sum,
        sums.get? field = (if field ∈ entries.flatten.map (·.1) then some (field, sum) else none) ∧
        sum = wrapSigned (totalOf field entries.flatten) ∧
        (isSigned (totalOf field entries.flatten) = true → sum = totalOf field entries.flatten)) ∧
    ∀ b text, a.Spoils b → Ended b.lines text → ∃ e, readSums text = .error e := by
  constructor
  · intro text htext
    obtain ⟨columns, hread⟩ := foldlM_answer h
    have hsums : readSums text = .ok (if (addEntries .empty entries.flatten).records.isEmpty then none
        else some (addEntries .empty entries.flatten)) := by
      unfold readSums
      rw [foldlM_ended htext, hread]
      rfl
    refine ⟨_, hsums, ?_, ?_⟩
    · rw [← flatten_eq_nil_iff h.tables, ← isEmpty_addEntries]
      exact ite_eq_left_iff.trans (by simp)
    · intro sums hsome field
      split at hsome
      · cases hsome
      · cases hsome
        exact ⟨_, get?_addEntries field entries.flatten, rfl, wrapSigned_of_isSigned⟩
  · intro b text hspoils htext
    obtain ⟨e, he⟩ := foldlM_answer_spoiled h hspoils
    refine ⟨e, ?_⟩
    unfold readSums
    rw [foldlM_ended htext, he]
    rfl

def downUpTable : SumTable where
  gap := ["#group,false,true"]
  columns := ["", "_field", "_value"]
  rows := [["", "dl_bytes", "140"], ["", "up_bytes", "70"]]

/-- two tables with their columns in different orders, the second one with this row -/
def twoTables (row : List String) : SumAnswer where
  tables := [downUpTable, ⟨[""], ["_value", "table", "_field"], [row]⟩]
  closing := []

theorem sums_exact_twoTables :
    (twoTables ["-5", "1", "dl_bytes"]).Says [[("dl_bytes", 140), ("up_bytes", 70)], [("dl_bytes", -5)]] ∧
    (∃ sums, readSums (endLines .crlf (twoTables ["-5", "1", "dl_bytes"]).lines) = .ok (some sums) ∧
      sums.get? "dl_bytes" = some ("dl_bytes", 135) ∧ sums.get? "up_bytes" = some ("up_bytes", 70)) ∧
    ∃ e, readSums (endLines .lf (twoTables ["-5", "1"]).lines) = .error e := by
  have htold : (twoTables ["-5", "1", "dl_bytes"]).Says
      [[("dl_bytes", 140), ("up_bytes", 70)], [("dl_bytes", -5)]] := by
    refine ⟨.cons ⟨by decide, by decide, by decide, by decide, ?_⟩
      (.cons ⟨by decide, by decide, by decide, by decide, ?_⟩ .nil), by decide, by decide⟩
    · exact .cons ⟨by decide, rfl, _, rfl, by decide⟩ (.cons ⟨by decide, rfl, _, rfl, by decide⟩ .nil)
    · exact .cons ⟨by decide, rfl, _, rfl, by decide⟩ .nil
  have hspoils : (twoTables ["-5", "1", "dl_bytes"]).Spoils (twoTables ["-5", "1"]) :=
    .table [downUpTable] [] [] (.row [""] ["_value", "table", "_field"] ["-5", "1", "dl_bytes"]
      ["-5", "1"] [] [] ⟨by decide, Or.inl (by decide)⟩)
  obtain ⟨hsums, hrefused⟩ := sums_exact htold
  obtain ⟨result, hread, hnone, hsum⟩ := hsums _ (ended_endLines .crlf (by decide))
  refine ⟨htold, ?_, hrefused _ _ hspoils (ended_endLines .lf (by decide))⟩
  cases result with
  | none => exact absurd (hnone.1 rfl) (by decide)
  | some sums =>
    obtain ⟨_, hdown, -, hdownFits⟩ := hsum sums rfl "dl_bytes"
    obtain ⟨_, hup, -, hupFits⟩ := hsum sums rfl "up_bytes"
    rw [hdownFits (by decide)] at hdown
    rw [hupFits (by decide)] at hup
    exact ⟨sums, hread, hdown.trans (by decide), hup.trans (by decide)⟩

end ProxyMesh
