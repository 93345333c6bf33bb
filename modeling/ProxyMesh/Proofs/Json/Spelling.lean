import ProxyMesh.Json.Decoder
import ProxyMesh.Proofs.Json.Reals

/-!
# Values spelled out

A value can be spelled with blanks around its items and fields.  Both printers spell the value that
they are given, and what is spelled is read as the tree of the value, a binary64 number as the one that is
read of its text.

* `Json.Whole`, `Json.InRange`   a value without binary64 numbers, or with finite ones;
* `Json.readBack?`, `Json.printedTree`   what is read of a printed number, and of a printed value;
* `Spells`                     a text is a value written out, blanks between its parts;
* `spells_compactChars`, `spells_prettyChars`   the printers spell their value;
* `readValue_spells`           **what is spelled is read, and nothing of what follows it**;
* `read_compact`, `read_pretty`   a printed value is read as its tree.
-/

namespace ProxyMesh.Json

mutual
/-- there is no binary64 number in the value, and its whole numbers have 64 bits -/
def Whole : Json → Prop
  | .null => True
  | .bool _ => True
  | .int n => -(signedBound : Int) ≤ n ∧ n < wordBound
  | .real _ => False
  | .str _ => True
  | .arr items => WholeItems items
  | .obj fields => WholeFields fields
def WholeItems : List Json → Prop
  | [] => True
  | item :: rest => Whole item ∧ WholeItems rest
def WholeFields : List (String × Json) → Prop
  | [] => True
  | (_, item) :: rest => Whole item ∧ WholeFields rest
end

mutual
/-- the binary64 numbers in the value are finite, and its whole numbers have 64 bits -/
def InRange : Json → Prop
  | .null => True
  | .bool _ => True
  | .int n => -(signedBound : Int) ≤ n ∧ n < wordBound
  | .real x => x.isFinite = true
  | .str _ => True
  | .arr items => InRangeItems items
  | .obj fields => InRangeFields fields
def InRangeItems : List Json → Prop
  | [] => True
  | item :: rest => InRange item ∧ InRangeItems rest
def InRangeFields : List (String × Json) → Prop
  | [] => True
  | (_, item) :: rest => InRange item ∧ InRangeFields rest
end

/-- the number that is read of the text of a binary64 number, if it is in the range -/
def readBack? (x : Binary64) : Option Json :=
  (Tree.readNumeral (Layout.json.text x).toList).bind fun r => r.1.value

mutual
/-- what is read of a printed value -/
def printedTree : Json → Tree
  | .null => .null
  | .bool b => .bool b
  | .int n => .number (some (.int n))
  | .real x => .number (readBack? x)
  | .str s => .text (some s)
  | .arr items => .list (printedItems items)
  | .obj fields => .record (printedFields fields)
def printedItems : List Json → List Tree
  | [] => []
  | item :: rest => printedTree item :: printedItems rest
def printedFields : List (String × Json) → List (Option String × Tree)
  | [] => []
  | (name, item) :: rest => (some name, printedTree item) :: printedFields rest
end

/-! ## values without binary64 numbers -/

mutual
theorem Whole.inRange : ∀ {v : Json}, v.Whole → v.InRange
  | .null, _ => trivial
  | .bool _, _ => trivial
  | .int _, h => h
  | .str _, _ => trivial
  | .arr _, h => inRangeItems_of_whole h
  | .obj _, h => inRangeFields_of_whole h
theorem inRangeItems_of_whole : ∀ {items : List Json}, WholeItems items → InRangeItems items
  | [], _ => trivial
  | _ :: _, h => ⟨h.1.inRange, inRangeItems_of_whole h.2⟩
theorem inRangeFields_of_whole : ∀ {fields : List (String × Json)}, WholeFields fields →
    InRangeFields fields
  | [], _ => trivial
  | _ :: _, h => ⟨h.1.inRange, inRangeFields_of_whole h.2⟩
end

/-! ## spelled values -/

/-- nothing but blanks -/
def Blank (s : List Char) : Prop := ∀ c ∈ s, Tree.isSpace c = true

mutual
/-- the text is the value written out, without blanks around it -/
inductive Spells : Json → List Char → Prop
  | null : Spells .null "null".toList
  | bool (b : Bool) : Spells (.bool b) (if b then "true" else "false").toList
  | int (n : Int) (h : InRange (.int n)) : Spells (.int n) (toString n).toList
  | real (x : Binary64) (h : x.isFinite = true) : Spells (.real x) (Layout.json.text x).toList
  | str (s : String) : Spells (.str s) (quoteChars s.toList)
  | emptyArr : Spells (.arr []) ['[', ']']
  | arr {items : List Json} {body : List Char} (h : SpellsItems items body) :
      Spells (.arr items) ('[' :: body)
  | emptyObj : Spells (.obj []) ['\x7b', '\x7d']
  | obj {fields : List (String × Json)} {body : List Char} (h : SpellsFields fields body) :
      Spells (.obj fields) ('\x7b' :: body)
/-- the items of a list with its closing bracket -/
inductive SpellsItems : List Json → List Char → Prop
  | last {item : Json} {before text after : List Char} (hbefore : Blank before) (h : Spells item text)
      (hafter : Blank after) : SpellsItems [item] (before ++ (text ++ (after ++ [']'])))
  | cons {item : Json} {items : List Json} {before text after body : List Char}
      (hbefore : Blank before) (h : Spells item text) (hafter : Blank after)
      (hrest : SpellsItems items body) :
      SpellsItems (item :: items) (before ++ (text ++ (after ++ ',' :: body)))
/-- the fields of an object with its closing brace -/
inductive SpellsFields : List (String × Json) → List Char → Prop
  | last {n : String} {item : Json} {before gap text after : List Char} (hbefore : Blank before)
      (hgap : Blank gap) (h : Spells item text) (hafter : Blank after) :
      SpellsFields [(n, item)]
        (before ++ (quoteChars n.toList ++ ':' :: (gap ++ (text ++ (after ++ ['\x7d'])))))
  | cons {n : String} {item : Json} {fields : List (String × Json)}
      {before gap text after body : List Char} (hbefore : Blank before) (hgap : Blank gap)
      (h : Spells item text) (hafter : Blank after) (hrest : SpellsFields fields body) :
      SpellsFields ((n, item) :: fields)
        (before ++ (quoteChars n.toList ++ ':' :: (gap ++ (text ++ (after ++ ',' :: body)))))
end

/-! ## the printers -/

theorem blank_nil : Blank [] := fun _ h => absurd h List.not_mem_nil

theorem blank_newLine (depth : Nat) : Blank (newLine depth) := by
  intro c hc
  rcases List.mem_cons.1 hc with rfl | hc
  · rfl
  · rw [List.eq_of_mem_replicate hc]
    rfl

theorem blank_space : Blank [' '] := by
  intro c hc
  rw [List.mem_singleton.1 hc]
  rfl

mutual
theorem spells_compactChars : ∀ v : Json, v.InRange → Spells v (compactChars v)
  | .null, _ => .null
  | .bool b, _ => .bool b
  | .int n, h => .int n h
  | .real x, h => .real x h
  | .str s, _ => .str s
  | .arr [], _ => .emptyArr
  | .arr (item :: rest), h => .arr (spells_compactItems (item :: rest) (List.cons_ne_nil _ _) h)
  | .obj [], _ => .emptyObj
  | .obj (field :: rest), h => .obj (spells_compactFields (field :: rest) (List.cons_ne_nil _ _) h)
theorem spells_compactItems : ∀ items : List Json, items ≠ [] → InRangeItems items →
    SpellsItems items (compactItems items ++ [']'])
  | [], hne, _ => absurd rfl hne
  | [last], _, h => .last blank_nil (spells_compactChars last h.1) blank_nil
  | item :: next :: rest, _, h => by
    have hrest := spells_compactItems (next :: rest) (List.cons_ne_nil _ _) h.2
    have hall := SpellsItems.cons blank_nil (spells_compactChars item h.1) blank_nil hrest
    rw [compactItems, List.append_assoc, List.cons_append]
    · exact hall
    · exact List.cons_ne_nil _ _
theorem spells_compactFields : ∀ fields : List (String × Json), fields ≠ [] → InRangeFields fields →
    SpellsFields fields (compactFields fields ++ ['\x7d'])
  | [], hne, _ => absurd rfl hne
  | [(name, last)], _, h => by
    have hall := SpellsFields.last (n := name) blank_nil blank_nil (spells_compactChars last h.1)
      blank_nil
    rw [compactFields, List.append_assoc, List.cons_append]
    exact hall
  | (name, item) :: next :: rest, _, h => by
    have hrest := spells_compactFields (next :: rest) (List.cons_ne_nil _ _) h.2
    have hall := SpellsFields.cons (n := name) blank_nil blank_nil (spells_compactChars item h.1)
      blank_nil hrest
    rw [compactFields, List.append_assoc, List.cons_append, List.append_assoc, List.cons_append]
    · exact hall
    · exact List.cons_ne_nil _ _
end

mutual
theorem spells_prettyChars : ∀ (depth : Nat) (v : Json), v.InRange → Spells v (prettyChars depth v)
  | _, .null, _ => .null
  | _, .bool b, _ => .bool b
  | _, .int n, h => .int n h
  | _, .real x, h => .real x h
  | _, .str s, _ => .str s
  | _, .arr [], _ => .emptyArr
  | depth, .arr (item :: rest), h => by
    rw [prettyChars, List.append_assoc]
    exact .arr (spells_prettyItems (depth + 1) depth (item :: rest) (List.cons_ne_nil _ _) h)
  | _, .obj [], _ => .emptyObj
  | depth, .obj (field :: rest), h => by
    rw [prettyChars, List.append_assoc]
    exact .obj (spells_prettyFields (depth + 1) depth (field :: rest) (List.cons_ne_nil _ _) h)
theorem spells_prettyItems : ∀ (depth outer : Nat) (items : List Json), items ≠ [] → InRangeItems items →
    SpellsItems items (prettyItems depth items ++ (newLine outer ++ [']']))
  | _, _, [], hne, _ => absurd rfl hne
  | depth, outer, [last], _, h => by
    rw [prettyItems, List.append_assoc]
    exact .last (blank_newLine depth) (spells_prettyChars depth last h.1) (blank_newLine outer)
  | depth, outer, item :: next :: rest, _, h => by
    have hrest := spells_prettyItems depth outer (next :: rest) (List.cons_ne_nil _ _) h.2
    have hall := SpellsItems.cons (blank_newLine depth) (spells_prettyChars depth item h.1) blank_nil
      hrest
    rw [prettyItems, List.append_assoc, List.append_assoc, List.cons_append]
    · exact hall
    · exact List.cons_ne_nil _ _
theorem spells_prettyFields : ∀ (depth outer : Nat) (fields : List (String × Json)), fields ≠ [] →
    InRangeFields fields → SpellsFields fields (prettyFields depth fields ++ (newLine outer ++ ['\x7d']))
  | _, _, [], hne, _ => absurd rfl hne
  | depth, outer, [(name, last)], _, h => by
    have hall := SpellsFields.last (n := name) (blank_newLine depth) blank_space
      (spells_prettyChars depth last h.1) (blank_newLine outer)
    rw [prettyFields]
    simpa only [List.append_assoc, List.cons_append, List.nil_append] using hall
  | depth, outer, (name, item) :: next :: rest, _, h => by
    have hrest := spells_prettyFields depth outer (next :: rest) (List.cons_ne_nil _ _) h.2
    have hall := SpellsFields.cons (n := name) (blank_newLine depth) blank_space
      (spells_prettyChars depth item h.1) blank_nil hrest
    rw [prettyFields]
    · simpa only [List.append_assoc, List.cons_append, List.nil_append] using hall
    · exact List.cons_ne_nil _ _
end

namespace Tree

/-! ## blanks -/

section
variable {gap s : List Char} {fuel : Nat}

theorem skipSpace_blank (hgap : Blank gap) (s : List Char) : skipSpace (gap ++ s) = skipSpace s :=
  List.dropWhile_append_of_pos hgap

theorem skipSpace_cons {c : Char} (hc : isSpace c = false) (s : List Char) :
    skipSpace (c :: s) = c :: s := by
  unfold skipSpace
  rw [List.dropWhile_cons_of_neg (by rw [hc]; exact Bool.false_ne_true)]

theorem skipSpace_skipSpace (s : List Char) : skipSpace (skipSpace s) = skipSpace s := by
  induction s with
  | nil => rfl
  | cons c rest ih =>
    cases hc : isSpace c with
    | true =>
      have hstep : skipSpace (c :: rest) = skipSpace rest := List.dropWhile_cons_of_pos hc
      rw [hstep, ih]
    | false => rw [skipSpace_cons hc, skipSpace_cons hc]

theorem readValue_skipSpace (fuel : Nat) (s : List Char) :
    readValue fuel (skipSpace s) = readValue fuel s := by
  cases fuel with
  | zero => rfl
  | succ fuel =>
    unfold readValue
    rw [skipSpace_skipSpace]

theorem readItems_skipSpace (fuel : Nat) (s : List Char) :
    readItems fuel (skipSpace s) = readItems fuel s := by
  cases fuel with
  | zero => rfl
  | succ fuel =>
    unfold readItems
    rw [readValue_skipSpace]

theorem readFields_skipSpace (fuel : Nat) (s : List Char) :
    readFields fuel (skipSpace s) = readFields fuel s := by
  cases fuel with
  | zero => rfl
  | succ fuel =>
    unfold readFields
    rw [skipSpace_skipSpace]

theorem readValue_blank (hgap : Blank gap) (fuel : Nat) (s : List Char) :
    readValue fuel (gap ++ s) = readValue fuel s := by
  rw [← readValue_skipSpace, skipSpace_blank hgap, readValue_skipSpace]

/-- digits stop at a blank and at what stands behind blanks -/
theorem stops_blank (hgap : Blank gap) (hs : Stops s) : Stops (gap ++ s) := by
  cases gap with
  | nil => exact hs
  | cons c more =>
    intro d hd
    obtain rfl : c = d := Option.some.inj hd
    have hc : isSpace c = true := hgap c List.mem_cons_self
    unfold isSpace at hc
    simp only [Bool.or_eq_true, decide_eq_true_eq] at hc
    rcases hc with ((rfl | rfl) | rfl) | rfl <;> decide

end

theorem stops_cons {c : Char} (hc : c ∈ [',', ']', '\x7d']) (s : List Char) : Stops (c :: s) := by
  simp only [List.mem_cons, List.not_mem_nil, or_false] at hc
  rintro d ⟨⟩
  rcases hc with rfl | rfl | rfl <;> decide

/-! ## reading -/

theorem toList_toString (n : Int) : (toString n).toList =
    (if decide (n < 0) then ['-'] else []) ++ Nat.toDigits 10 n.natAbs := by
  cases n with
  | ofNat m =>
    show (Nat.repr m).toList = _
    rw [Nat.toList_repr]
    rfl
  | negSucc m =>
    show ("-" ++ Nat.repr (m + 1)).toList = _
    rw [String.toList_append, Nat.toList_repr, decide_eq_true (Int.negSucc_lt_zero m)]
    rfl

theorem toList_toString_eq (n : Int) :
    (toString n).toList = (numeral (decide (n < 0)) n.natAbs).chars := by
  rw [toList_toString]
  simp [numeral, Numeral.chars, Numeral.fractionChars, Numeral.exponentChars]

theorem chars_head {n : Numeral} (h : n.WellFormed) :
    ∃ c more, n.chars = c :: more ∧ (c = '-' ∨ isDigit c = true) := by
  unfold Numeral.chars
  cases n.negative with
  | true => exact ⟨'-', _, rfl, Or.inl rfl⟩
  | false =>
    obtain ⟨c, digits, hwhole⟩ := List.exists_cons_of_ne_nil h.whole_ne
    rw [hwhole]
    exact ⟨c, _, rfl, Or.inr (h.whole c (hwhole ▸ List.mem_cons_self))⟩

theorem toList_toString_head (n : Int) :
    ∃ c more, (toString n).toList = c :: more ∧ (c = '-' ∨ isDigit c = true) :=
  toList_toString_eq n ▸ chars_head (wellFormed_numeral _ _)

theorem ne_of_numberStart {c : Char} (h : c = '-' ∨ isDigit c = true) :
    isSpace c = false ∧ c ∉ [']', '\x7b', '[', '"', 'n', 't', 'f'] := by
  constructor
  · rw [Bool.eq_false_iff]
    intro hspace
    unfold isSpace at hspace
    simp only [Bool.or_eq_true, decide_eq_true_eq] at hspace
    rcases hspace with ((rfl | rfl) | rfl) | rfl <;> exact absurd h (by decide)
  · intro hmem
    simp only [List.mem_cons, List.not_mem_nil, or_false] at hmem
    rcases hmem with rfl | rfl | rfl | rfl | rfl | rfl | rfl <;> exact absurd h (by decide)

/-- a value does not start with a blank or the end of a list -/
theorem spells_head {v : Json} {text : List Char} (h : Spells v text) :
    ∃ c more, text = c :: more ∧ isSpace c = false ∧ c ≠ ']' := by
  cases h with
  | null => exact ⟨_, _, rfl, by decide⟩
  | bool b => cases b <;> exact ⟨_, _, rfl, by decide⟩
  | int n =>
    obtain ⟨c, more, hhead, hc⟩ := toList_toString_head n
    obtain ⟨hspace, hother⟩ := ne_of_numberStart hc
    exact ⟨c, more, hhead, hspace, fun he => hother (he ▸ List.mem_cons_self)⟩
  | real x hx =>
    obtain ⟨m, hm, htext⟩ := exists_numeral hx
    obtain ⟨c, more, hhead, hc⟩ := chars_head hm
    obtain ⟨hspace, hother⟩ := ne_of_numberStart hc
    exact ⟨c, more, htext.trans hhead, hspace, fun he => hother (he ▸ List.mem_cons_self)⟩
  | str s => exact ⟨_, _, rfl, by decide⟩
  | emptyArr => exact ⟨_, _, rfl, by decide⟩
  | arr => exact ⟨_, _, rfl, by decide⟩
  | emptyObj => exact ⟨_, _, rfl, by decide⟩
  | obj => exact ⟨_, _, rfl, by decide⟩

theorem spellsItems_head {items : List Json} {body : List Char} (h : SpellsItems items body)
    (rest : List Char) : ∃ c more, skipSpace (body ++ rest) = c :: more ∧ c ≠ ']' := by
  have hitem : ∀ {item : Json} {before text : List Char}, Blank before → Spells item text →
      ∀ s, ∃ c more, skipSpace ((before ++ (text ++ s)) ++ rest) = c :: more ∧ c ≠ ']' := by
    intro item before text hbefore htext s
    obtain ⟨c, more, rfl, hspace, hc⟩ := spells_head htext
    refine ⟨c, more ++ s ++ rest, ?_, hc⟩
    rw [List.append_assoc, skipSpace_blank hbefore, List.append_assoc, List.cons_append,
      skipSpace_cons hspace, List.append_assoc]
  cases h with
  | last hbefore h _ => exact hitem hbefore h _
  | cons hbefore h _ _ => exact hitem hbefore h _

theorem spellsFields_head {fields : List (String × Json)} {body : List Char}
    (h : SpellsFields fields body) (rest : List Char) :
    ∃ more, skipSpace (body ++ rest) = '"' :: more := by
  have hname : ∀ {before : List Char}, Blank before → ∀ name s,
      ∃ more, skipSpace ((before ++ (quoteChars name ++ s)) ++ rest) = '"' :: more := by
    intro before hbefore name s
    rw [List.append_assoc, skipSpace_blank hbefore]
    exact ⟨_, rfl⟩
  cases h with
  | last hbefore _ _ _ => exact hname hbefore _ _
  | cons hbefore _ _ _ _ => exact hname hbefore _ _

theorem readValue_number {c : Char} (hc : c = '-' ∨ isDigit c = true) (fuel : Nat) (s : List Char) :
    readValue (fuel + 1) (c :: s) =
      (readNumeral (c :: s)).map fun (n, rest) => (.number n.value, rest) := by
  obtain ⟨hspace, hother⟩ := ne_of_numberStart hc
  simp only [List.mem_cons, not_or] at hother
  unfold readValue
  rw [skipSpace_cons hspace]
  simp [hother]

theorem readValue_chars {n : Numeral} {rest : List Char} (h : n.WellFormed) (hrest : Stops rest)
    (fuel : Nat) : readValue (fuel + 1) (n.chars ++ rest) = some (.number n.value, rest) := by
  have hread := readNumeral_chars h hrest
  obtain ⟨c, more, hhead, hc⟩ := chars_head h
  rw [hhead, List.cons_append] at hread ⊢
  rw [readValue_number hc, hread]
  rfl

theorem readBack?_eq {x : Binary64} {n : Numeral} (h : n.WellFormed)
    (htext : (Layout.json.text x).toList = n.chars) : readBack? x = n.value := by
  have hstop : Stops [] := nofun
  have hread := readNumeral_chars h hstop
  rw [List.append_nil] at hread
  unfold readBack?
  rw [htext, hread]
  rfl

theorem readText_quoteChars (name : String) (rest : List Char) :
    ∃ more, quoteChars name.toList ++ rest = '"' :: more ∧
      readText none more = some (some name.toList, rest) := by
  refine ⟨name.toList.flatMap quoteChar ++ '"' :: rest, ?_, readText_quoted _ _⟩
  unfold quoteChars
  rw [List.cons_append, List.append_assoc, List.singleton_append]

mutual
/-- **what is spelled is read, and nothing of what follows it** -/
theorem readValue_spells : ∀ {v : Json} {text : List Char}, Spells v text → ∀ (fuel : Nat)
    (rest : List Char), text.length ≤ fuel → Stops rest →
      readValue fuel (text ++ rest) = some (v.printedTree, rest)
  | _, _, h, 0, _, hfuel, _ => by
    obtain ⟨c, more, rfl, -⟩ := spells_head h
    exact absurd hfuel (Nat.not_succ_le_zero _)
  | _, _, .null, _ + 1, _, _, _ => rfl
  | _, _, .bool true, _ + 1, _, _, _ => rfl
  | _, _, .bool false, _ + 1, _, _, _ => rfl
  | _, _, .int n hn, fuel + 1, rest, _, hrest => by
    rw [toList_toString_eq, readValue_chars (wellFormed_numeral _ _) hrest,
      Numeral.value_numeral hn.1 hn.2]
    rfl
  | _, _, .real x hx, fuel + 1, rest, _, hrest => by
    obtain ⟨m, hm, htext⟩ := exists_numeral hx
    rw [htext, readValue_chars hm hrest, printedTree, readBack?_eq hm htext]
  | _, _, .str s, fuel + 1, rest, _, _ => by
    obtain ⟨more, hquote, hread⟩ := readText_quoteChars s rest
    rw [hquote]
    show (readText none more).map _ = _
    rw [hread]
    simp [printedTree]
  | _, _, .emptyArr, _ + 1, _, _, _ => rfl
  | _, _, .arr h, fuel + 1, rest, hfuel, _ => by
    obtain ⟨c, more, hhead, hc⟩ := spellsItems_head h rest
    have hitems := readItems_spells h fuel rest (Nat.le_of_succ_le_succ hfuel)
    rw [← readItems_skipSpace, hhead] at hitems
    rw [List.cons_append, readValue, skipSpace_cons (by decide)]
    simp [hhead, hc, hitems, printedTree]
  | _, _, .emptyObj, _ + 1, _, _, _ => rfl
  | _, _, .obj h, fuel + 1, rest, hfuel, _ => by
    obtain ⟨more, hhead⟩ := spellsFields_head h rest
    have hfields := readFields_spells h fuel rest (Nat.le_of_succ_le_succ hfuel)
    rw [← readFields_skipSpace, hhead] at hfields
    rw [List.cons_append, readValue, skipSpace_cons (by decide)]
    simp [hhead, hfields, printedTree]
theorem readItems_spells : ∀ {items : List Json} {body : List Char}, SpellsItems items body →
    ∀ (fuel : Nat) (rest : List Char), body.length ≤ fuel →
      readItems fuel (body ++ rest) = some (printedItems items, rest)
  | _, _, @SpellsItems.last _ _ _ after hbefore h hafter, fuel, rest, hfuel => by
    simp only [List.length_append, List.length_cons] at hfuel
    obtain ⟨fuel, rfl⟩ : ∃ m, fuel = m + 1 := ⟨fuel - 1, by omega⟩
    have hread := readValue_spells h fuel (after ++ ']' :: rest) (by omega)
      (stops_blank hafter (stops_cons (by decide) rest))
    simp only [List.append_assoc, List.singleton_append]
    rw [readItems, readValue_blank hbefore, hread]
    simp [skipSpace_blank hafter, skipSpace_cons, isSpace, printedItems]
  | _, _, @SpellsItems.cons _ _ _ _ after body hbefore h hafter hrest, fuel, rest, hfuel => by
    simp only [List.length_append, List.length_cons] at hfuel
    obtain ⟨fuel, rfl⟩ : ∃ m, fuel = m + 1 := ⟨fuel - 1, by omega⟩
    have hread := readValue_spells h fuel (after ++ ',' :: (body ++ rest)) (by omega)
      (stops_blank hafter (stops_cons (by decide) _))
    have hmore := readItems_spells hrest fuel rest (by omega)
    simp only [List.append_assoc, List.cons_append]
    rw [readItems, readValue_blank hbefore, hread]
    simp [skipSpace_blank hafter, skipSpace_cons, isSpace, hmore, printedItems]
theorem readFields_spells : ∀ {fields : List (String × Json)} {body : List Char},
    SpellsFields fields body → ∀ (fuel : Nat) (rest : List Char), body.length ≤ fuel →
      readFields fuel (body ++ rest) = some (printedFields fields, rest)
  | _, _, @SpellsFields.last name _ _ gap spelled after hbefore hgap h hafter, fuel, rest, hfuel => by
    simp only [List.length_append, List.length_cons] at hfuel
    obtain ⟨fuel, rfl⟩ : ∃ m, fuel = m + 1 := ⟨fuel - 1, by omega⟩
    have hread := readValue_spells h fuel (after ++ '\x7d' :: rest) (by omega)
      (stops_blank hafter (stops_cons (by decide) rest))
    obtain ⟨more, hquote, hname⟩ :=
      readText_quoteChars name (':' :: (gap ++ (spelled ++ (after ++ '\x7d' :: rest))))
    simp only [List.append_assoc, List.cons_append, List.nil_append]
    rw [readFields, skipSpace_blank hbefore, hquote]
    simp [hname, readValue_blank hgap, hread, skipSpace_blank hafter, skipSpace_cons, isSpace, printedFields]
  | _, _, @SpellsFields.cons name _ _ _ gap spelled after body hbefore hgap h hafter hrest, fuel, rest,
    hfuel => by
    simp only [List.length_append, List.length_cons] at hfuel
    obtain ⟨fuel, rfl⟩ : ∃ m, fuel = m + 1 := ⟨fuel - 1, by omega⟩
    have hread := readValue_spells h fuel (after ++ ',' :: (body ++ rest)) (by omega)
      (stops_blank hafter (stops_cons (by decide) _))
    have hmore := readFields_spells hrest fuel rest (by omega)
    obtain ⟨more, hquote, hname⟩ :=
      readText_quoteChars name (':' :: (gap ++ (spelled ++ (after ++ ',' :: (body ++ rest)))))
    simp only [List.append_assoc, List.cons_append]
    rw [readFields, skipSpace_blank hbefore, hquote]
    simp [hname, readValue_blank hgap, hread, skipSpace_blank hafter, skipSpace_cons, isSpace, hmore,
      printedFields]
end

/-- a whole text that spells a value is read as its tree -/
theorem read_spells {v : Json} {text : List Char} (h : Spells v text) :
    read (String.ofList text) = some v.printedTree := by
  have hread := readValue_spells h (text.length + 1) [] (Nat.le_succ _) nofun
  rw [List.append_nil] at hread
  unfold read
  dsimp only
  rw [String.toList_ofList, hread]
  rfl

end Tree

theorem read_compact {v : Json} (h : v.InRange) : Tree.read v.compact = some v.printedTree :=
  Tree.read_spells (spells_compactChars v h)

theorem read_pretty {v : Json} (h : v.InRange) : Tree.read v.pretty = some v.printedTree :=
  Tree.read_spells (spells_prettyChars 0 v h)

end ProxyMesh.Json
