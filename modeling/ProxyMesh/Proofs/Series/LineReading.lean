import ProxyMesh.Proofs.Series.Breaks
import ProxyMesh.Proofs.Tables

/-!
# A line is read back

The parts of a line end in characters that are escaped inside them, and what is special differs from
part to part: a reader that knows which part it is in drops the backslashes, stops where the part
stops, and finds the point again.  Numbers with a fraction are left out; they are written without a
mark of their own.

* `readEscaped_escape`         an escaped text is read up to the character that ends its part;
* `readItems_flatMap`          items behind commas are read one after the other;
* `readValue_chars`, `readTag_tagBody`, `readField_fieldChars`   one value, one tag, one field;
* `readPoint?_lineChars`       **a line is read as its point**;
* `line_decodable`             **points with the same line are the same**.
-/

namespace ProxyMesh

/-- a whole number, a flag or a text -/
def FieldValue.isPlain : FieldValue → Bool
  | .float _ => false
  | _ => true

/-- a point without numbers that may have a fraction -/
def Point.Plain (p : Point) : Prop := ∀ f ∈ p.fields.records, f.2.isPlain = true

instance (p : Point) : Decidable p.Plain :=
  inferInstanceAs (Decidable (∀ f ∈ p.fields.records, _))

namespace LineReader

/-! ## the reader -/

/-- a text up to the first of `stops` that has no backslash in front of it -/
def readEscaped (stops : List Char) : List Char → List Char × List Char
  | [] => ([], [])
  | '\\' :: c :: rest => (c :: (readEscaped stops rest).1, (readEscaped stops rest).2)
  | c :: rest =>
    if c ∈ stops then ([], c :: rest)
    else (c :: (readEscaped stops rest).1, (readEscaped stops rest).2)

/-- items with a comma in front of each -/
def readItems {α : Type} (item : List Char → Option (α × List Char)) (s : List Char) :
    Option (List α × List Char) :=
  match s with
  | ',' :: rest =>
    match item rest with
    | none => none
    | some (a, more) =>
      if more.length ≤ rest.length then
        (readItems item more).map fun (items, more) => (a :: items, more)
      else none
  | s => some ([], s)
termination_by s.length

/-- the name of a tag or a field, and what stands behind its equals sign -/
def readName (s : List Char) : Option (String × List Char) :=
  let (name, s) := readEscaped keySpecial s
  (Text.stripStart ['='] s).map fun s => (String.ofList name, s)

def readTag (s : List Char) : Option ((String × String) × List Char) :=
  (readName s).map fun (name, s) =>
    let (value, s) := readEscaped keySpecial s
    ((name, String.ofList value), s)

/-- a whole number, with a sign if it is negative -/
def readInt? : List Char → Option Int
  | '-' :: digits => (Text.readNat digits).map fun n => -(n : Int)
  | digits => (Text.readNat digits).map fun n => (n : Int)

/-- the value of a field that is not a text -/
def readWord? (word : List Char) : Option FieldValue :=
  if word = "true".toList then some (.bool true)
  else if word = "false".toList then some (.bool false)
  else if word.getLast? = some 'i' then (readInt? word.dropLast).map .int
  else none

/-- what a field ends in -/
def endsField (c : Char) : Bool := c == ',' || c == ' '

def readValue : List Char → Option (FieldValue × List Char)
  | '"' :: s =>
    let (text, s) := readEscaped ['"'] s
    (Text.stripStart ['"'] s).map fun s => (.str (String.ofList text), s)
  | s => (readWord? (s.takeWhile (!endsField ·))).map fun v => (v, s.dropWhile (!endsField ·))

def readField (s : List Char) : Option ((String × FieldValue) × List Char) :=
  (readName s).bind fun (name, s) => (readValue s).map fun (value, s) => ((name, value), s)

/-- the point that a line stands for -/
def readPoint? (line : String) : Option Point := do
  let (measurement, s) := readEscaped measurementSpecial line.toList
  let (tags, s) ← readItems readTag s
  let s ← Text.stripStart [' '] s
  let (fields, s) ← readItems readField (',' :: s)
  let s ← Text.stripStart [' '] s
  let time ← Text.readNat s
  return ⟨String.ofList measurement, Table.ofList tags, Table.ofList fields, time⟩

/-! ## parts of a line -/

theorem readEscaped_backslash (stops : List Char) (c : Char) (rest : List Char) :
    readEscaped stops ('\\' :: c :: rest) =
      (c :: (readEscaped stops rest).1, (readEscaped stops rest).2) := rfl

theorem readEscaped_cons {c : Char} (hc : c ≠ '\\') (stops rest : List Char) :
    readEscaped stops (c :: rest) = if c ∈ stops then ([], c :: rest)
      else (c :: (readEscaped stops rest).1, (readEscaped stops rest).2) := by
  rw [readEscaped]
  rintro _ _ rfl
  exact absurd rfl hc

theorem readEscaped_escape {special : List Char} {c : Char} (hslash : '\\' ∉ special)
    (hc : c ∈ special) (s rest : List Char) :
    readEscaped special (escape special s ++ c :: rest) = (s, c :: rest) := by
  induction s with
  | nil =>
    show readEscaped special (c :: rest) = _
    rw [readEscaped_cons (ne_of_mem_of_not_mem hc hslash), if_pos hc]
  | cons d s ih =>
    have hcons : escape special (d :: s) =
        (if d = '\\' || special.contains d then ['\\', d] else [d]) ++ escape special s :=
      List.flatMap_cons
    rw [hcons, List.append_assoc]
    split
    next =>
      show readEscaped special ('\\' :: d :: (escape special s ++ c :: rest)) = _
      rw [readEscaped_backslash, ih]
    next hplain =>
      obtain ⟨hd, hspecial⟩ : d ≠ '\\' ∧ d ∉ special := by simpa using hplain
      show readEscaped special (d :: (escape special s ++ c :: rest)) = _
      rw [readEscaped_cons hd, if_neg hspecial, ih]

section
variable {α : Type} {item : List Char → Option (α × List Char)}

theorem readItems_comma {rest more : List Char} {a : α} (h : item rest = some (a, more))
    (hless : more.length ≤ rest.length) : readItems item (',' :: rest) =
      (readItems item more).map fun (items, more) => (a :: items, more) := by
  rw [readItems, h]
  exact if_pos hless

theorem readItems_stop {c : Char} (hc : c ≠ ',') (rest : List Char) :
    readItems item (c :: rest) = some ([], c :: rest) := by
  rw [readItems]
  rintro _ ⟨⟩
  exact hc rfl

theorem readItems_flatMap {chars : α → List Char} {l : List α}
    (h : ∀ a ∈ l, ∀ c, c = ',' ∨ c = ' ' → ∀ rest,
      item (chars a ++ c :: rest) = some (a, c :: rest))
    (rest : List Char) :
    readItems item ((l.flatMap fun a => ',' :: chars a) ++ ' ' :: rest) = some (l, ' ' :: rest) := by
  induction l with
  | nil => exact readItems_stop (by decide) rest
  | cons a l ih =>
    obtain ⟨ha, hl⟩ := List.forall_mem_cons.1 h
    obtain ⟨c, hc, more, hmore⟩ : ∃ c, (c = ',' ∨ c = ' ') ∧ ∃ more,
        (l.flatMap fun a => ',' :: chars a) ++ ' ' :: rest = c :: more := by
      cases l with
      | nil => exact ⟨' ', Or.inr rfl, rest, rfl⟩
      | cons b l => exact ⟨',', Or.inl rfl, _, rfl⟩
    have hitem := ha c hc more
    rw [List.flatMap_cons, List.append_assoc, List.cons_append, hmore,
      readItems_comma hitem (by simp), ← hmore, ih hl]
    rfl

end

/-! ## values -/

theorem readNat_toDigits (n : Nat) : Text.readNat (Nat.toDigits 10 n) = some n :=
  Text.readNat_eq_some_iff.2
    ⟨⟨Nat.toDigits_ne_nil, fun _ => Text.isDigit_of_mem_toDigits⟩, Decimal.digitsValue_toDigits n⟩

theorem readInt?_toString (n : Int) : readInt? (toString n).toList = some n := by
  rw [Json.Tree.toList_toString]
  cases n with
  | ofNat m =>
    obtain ⟨c, more, hdigits⟩ := List.exists_cons_of_ne_nil (Nat.toDigits_ne_nil (n := m) (b := 10))
    have hc : c ≠ '-' := by
      rintro rfl
      have hdigit := Text.isDigit_of_mem_toDigits (hdigits ▸ List.mem_cons_self)
      exact Bool.noConfusion hdigit
    have hread : readInt? (c :: more) = (Text.readNat (c :: more)).map fun n => (n : Int) := by
      rw [readInt?]
      rintro _ ⟨⟩
      exact hc rfl
    show readInt? (Nat.toDigits 10 m) = _
    rw [hdigits, hread, ← hdigits, readNat_toDigits]
    rfl
  | negSucc m =>
    have hread : readInt? ('-' :: Nat.toDigits 10 (m + 1)) =
        (Text.readNat (Nat.toDigits 10 (m + 1))).map fun n => -(n : Int) := rfl
    rw [decide_eq_true (Int.negSucc_lt_zero m), if_pos rfl, List.singleton_append, Int.natAbs_negSucc,
      hread, readNat_toDigits]
    rfl

theorem readWord?_int (n : Int) : readWord? ((toString n).toList ++ ['i']) = some (.int n) := by
  have hlast : ∀ word : List Char, word.getLast? ≠ some 'i' →
      (toString n).toList ++ ['i'] ≠ word := by
    rintro word hword rfl
    exact hword List.getLast?_concat
  unfold readWord?
  rw [if_neg (hlast _ (by decide)), if_neg (hlast _ (by decide)), if_pos List.getLast?_concat,
    List.dropLast_concat, readInt?_toString]
  rfl

theorem readValue_word {word : List Char} {v : FieldValue} {c : Char} (hv : readWord? word = some v)
    (hquote : '"' ∉ word) (hcomma : ',' ∉ word) (hblank : ' ' ∉ word) (hc : c = ',' ∨ c = ' ')
    (rest : List Char) : readValue (word ++ c :: rest) = some (v, c :: rest) := by
  have hend : (!endsField c) = false := by
    rcases hc with rfl | rfl <;> decide
  have hinside : ∀ d ∈ word, (!endsField d) = true := by
    intro d hd
    have hne : d ≠ ',' ∧ d ≠ ' ' := ⟨ne_of_mem_of_not_mem hd hcomma, ne_of_mem_of_not_mem hd hblank⟩
    simp [endsField, hne]
  have hplain : ∀ s, word ++ c :: rest ≠ '"' :: s := by
    intro s hs
    cases word with
    | nil =>
      obtain ⟨rfl, -⟩ := List.cons.inj hs
      exact absurd hc (by decide)
    | cons d word => exact hquote ((List.cons.inj hs).1 ▸ List.mem_cons_self)
  have hread : readValue (word ++ c :: rest) =
      (readWord? ((word ++ c :: rest).takeWhile (!endsField ·))).map fun v =>
        (v, (word ++ c :: rest).dropWhile (!endsField ·)) := by
    rw [readValue]
    exact hplain
  rw [hread, Text.takeWhile_stop hinside hend, Text.dropWhile_stop hinside hend, hv]
  rfl

theorem readValue_text (text rest : List Char) :
    readValue ('"' :: (escape ['"'] text ++ '"' :: rest)) = some (.str (String.ofList text), rest) := by
  rw [readValue, readEscaped_escape (by decide) (by decide)]
  rfl

theorem readValue_chars {v : FieldValue} (hv : v.isPlain = true) {c : Char} (hc : c = ',' ∨ c = ' ')
    (rest : List Char) : readValue (v.chars ++ c :: rest) = some (v, c :: rest) := by
  cases v with
  | float x => exact Bool.noConfusion hv
  | int n =>
    have hnot : ∀ d, d ≠ '-' → Text.isDigit d = false → d ∉ ['i'] →
        d ∉ (toString n).toList ++ ['i'] :=
      fun d hsign hdigit hmark =>
        mt List.mem_append.1 (not_or.2 ⟨not_mem_toString hsign hdigit n, hmark⟩)
    exact readValue_word (readWord?_int n) (hnot '"' (by decide) (by decide) (by decide))
      (hnot ',' (by decide) (by decide) (by decide)) (hnot ' ' (by decide) (by decide) (by decide))
      hc rest
  | bool b =>
    cases b with
    | true => exact readValue_word rfl (by decide) (by decide) (by decide) hc rest
    | false => exact readValue_word rfl (by decide) (by decide) (by decide) hc rest
  | str s =>
    have htext : FieldValue.chars (.str s) ++ c :: rest =
        '"' :: (escape ['"'] s.toList ++ '"' :: c :: rest) := by
      simp [FieldValue.chars]
    rw [htext, readValue_text, String.ofList_toList]

/-! ## tags and fields -/

theorem readName_escape (name : String) (rest : List Char) :
    readName (escape keySpecial name.toList ++ '=' :: rest) = some (name, rest) := by
  unfold readName
  rw [readEscaped_escape (by decide) (by decide)]
  show some (String.ofList name.toList, rest) = _
  rw [String.ofList_toList]

/-- a tag without its comma -/
def tagBody (t : String × String) : List Char :=
  escape keySpecial t.1.toList ++ '=' :: escape keySpecial t.2.toList

theorem readTag_tagBody (t : String × String) {c : Char} (hc : c = ',' ∨ c = ' ') (rest : List Char) :
    readTag (tagBody t ++ c :: rest) = some (t, c :: rest) := by
  have hspecial : c ∈ keySpecial := by
    rcases hc with rfl | rfl <;> decide
  unfold readTag tagBody
  rw [List.append_assoc, List.cons_append, readName_escape]
  dsimp only [Option.map_some]
  rw [readEscaped_escape (by decide) hspecial, String.ofList_toList]

theorem readField_fieldChars {f : String × FieldValue} (hf : f.2.isPlain = true) {c : Char}
    (hc : c = ',' ∨ c = ' ') (rest : List Char) :
    readField (Point.fieldChars f ++ c :: rest) = some (f, c :: rest) := by
  unfold readField Point.fieldChars
  rw [List.append_assoc, List.cons_append, readName_escape]
  dsimp only [Option.bind_some]
  rw [readValue_chars hf hc]
  rfl

/-! ## lines -/

/-- fields with commas between them, one in front of all -/
theorem cons_intercalate {parts : List (List Char)} (h : parts ≠ []) :
    ',' :: [','].intercalate parts = parts.flatMap (',' :: ·) := by
  induction parts with
  | nil => exact absurd rfl h
  | cons part more ih =>
    cases more with
    | nil => simp
    | cons next more =>
      rw [List.intercalate_cons_cons, List.append_assoc, List.singleton_append,
        ih (List.cons_ne_nil _ _)]
      rfl

section
variable {p : Point}

/-- the measurement ends where the tags begin, or where the fields do -/
theorem readEscaped_lineChars (p : Point) : readEscaped measurementSpecial p.lineChars =
    (p.measurement.toList, p.tags.records.flatMap Point.tagChars ++
      ' ' :: ([','].intercalate (p.fields.records.map Point.fieldChars) ++
        ' ' :: (toString p.time).toList)) := by
  unfold Point.lineChars
  rw [List.append_assoc]
  cases p.tags.records with
  | nil => exact readEscaped_escape (by decide) (by decide) _ _
  | cons t more => exact readEscaped_escape (by decide) (by decide) _ _

theorem readItems_fields (hfields : p.fields.records ≠ []) (hp : p.Plain) (rest : List Char) :
    readItems readField (',' :: ([','].intercalate (p.fields.records.map Point.fieldChars) ++
      ' ' :: rest)) = some (p.fields.records, ' ' :: rest) := by
  rw [← List.cons_append, cons_intercalate (mt List.map_eq_nil_iff.1 hfields), List.flatMap_map]
  exact readItems_flatMap (fun f hf c hc rest => readField_fieldChars (hp f hf) hc rest) rest

/-- **a line is read as its point** -/
theorem readPoint?_lineChars (hfields : p.fields.records ≠ []) (hp : p.Plain) :
    readPoint? (String.ofList p.lineChars) = some p := by
  have htags : ∀ rest, readItems readTag (p.tags.records.flatMap Point.tagChars ++ ' ' :: rest) =
      some (p.tags.records, ' ' :: rest) :=
    fun rest => readItems_flatMap (fun t _ c hc rest => readTag_tagBody t hc rest) rest
  have htime : Text.readNat (toString p.time).toList = some p.time := by
    show Text.readNat (Nat.repr p.time).toList = _
    rw [Nat.toList_repr, readNat_toDigits]
  have hblank : ∀ rest, Text.stripStart [' '] (' ' :: rest) = some rest :=
    fun rest => Text.stripStart_append [' '] rest
  unfold readPoint?
  rw [String.toList_ofList, readEscaped_lineChars]
  simp only [htags, hblank, readItems_fields hfields hp, htime, Option.bind_eq_bind, Option.bind_some,
    String.ofList_toList, Table.ofList_records]
  rfl

end

end LineReader

/-- **Points with the same line are the same**: a point that has fields, all of them whole numbers, flags
or texts, has a line, the line is read as the point, and no other such point has it. -/
theorem line_decodable {p : Point} (hfields : p.fields.records ≠ []) (hp : p.Plain) :
    (∃ line, p.line? = some line ∧ LineReader.readPoint? line = some p) ∧
      ∀ q : Point, q.fields.records ≠ [] → q.Plain → q.line? = p.line? → q = p := by
  have hread := LineReader.readPoint?_lineChars hfields hp
  refine ⟨⟨_, line?_of_fields hfields, hread⟩, fun q hq hplain hsame => ?_⟩
  rw [line?_of_fields hq, line?_of_fields hfields, Option.some_inj] at hsame
  rw [← hsame, LineReader.readPoint?_lineChars hq hplain, Option.some_inj] at hread
  exact hread

/-- a point whose texts hold whatever ends a part of a line -/
def crowdedPoint : Point :=
  (Point.bare "a\\, b" 1700000000).withTag "k=," "\"x y\\" |>.withField "n" (.int (-7))
    |>.withField "s =" (.str "say \"a,b c=1i\\\"") |>.withField "up" (.bool true)

def crowdedLine : String :=
  "a\\\\\\,\\ b,k\\=\\,=\"x\\ y\\\\ n=-7i,s\\ \\==\"say \\\"a,b c=1i\\\\\\\"\",up=true 1700000000"

theorem line_decodable_crowdedPoint :
    crowdedPoint.fields.records ≠ [] ∧ crowdedPoint.Plain ∧ crowdedPoint.line? = some crowdedLine ∧
      LineReader.readPoint? crowdedLine = some crowdedPoint ∧
      ∀ q : Point, q.fields.records ≠ [] → q.Plain → q.line? = some crowdedLine →
        q = crowdedPoint := by
  have hfields : crowdedPoint.fields.records ≠ [] := by decide +kernel
  have hplain : crowdedPoint.Plain := by decide +kernel
  have hline : crowdedPoint.line? = some crowdedLine := by decide +kernel
  obtain ⟨⟨line, hsome, hread⟩, hunique⟩ := line_decodable hfields hplain
  rw [hline] at hunique
  rw [hline, Option.some_inj] at hsome
  exact ⟨hfields, hplain, hline, hsome ▸ hread, hunique⟩

end ProxyMesh
