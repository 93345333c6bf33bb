import ProxyMesh.Compile.Balancers
import ProxyMesh.Proofs.Json.Values
import ProxyMesh.Proofs.Text.Chunks

/-!
# Objects spliced into a text

The objects of one fragment are printed with commas between them and spliced into the next template.  Its
text may have blanks around them and commas behind them when it is parsed.

* `Bare`                  a text that is left as it is when blanks and commas go;
* `bareText_surround`     blanks around a text and commas behind it do not count;
* `Json.Printable`        a value that is parsed back when it is printed in a list;
* `parse_joined`, `parse_wrapped`   printed values are parsed as the list of them;
* `parseObjects_eq_ok_iff`   **a text gives the items of the list that it is read as, all of them objects**;
* `objects_spliced`       **printed objects are parsed back, and nothing else passes for an object**.
-/

namespace ProxyMesh

/-! ## what goes and what stays -/

/-- neither blanks at its ends nor commas at its end -/
structure Bare (s : List Char) : Prop where
  head : ∀ c ∈ s.head?, Text.isBlank c = false
  last : ∀ c ∈ s.getLast?, Text.isBlank c = false ∧ c ≠ ','

/-- nothing but white space -/
def IsBlankText (s : String) : Prop := s.toList.all Text.isBlank = true

instance (s : String) : Decidable (IsBlankText s) :=
  inferInstanceAs (Decidable (s.toList.all Text.isBlank = true))

/-- the text with commas behind it, and white space around all of it -/
def surround (before text : String) (commas : Nat) (after : String) : String :=
  before ++ text ++ String.ofList (List.replicate commas ',') ++ after

theorem bare_nil : Bare [] := ⟨nofun, nofun⟩

theorem bare_enclosed {first last : Char} (body : List Char) (hfirst : Text.isBlank first = false)
    (hlast : Text.isBlank last = false ∧ last ≠ ',') : Bare (first :: (body ++ [last])) where
  head := by
    rintro c ⟨⟩
    exact hfirst
  last := by
    intro c hc
    rw [← List.cons_append, List.getLast?_concat] at hc
    cases hc
    exact hlast

theorem bare_separated {s t : List Char} (hs : Bare s) (ht : Bare t) (hne : s ≠ []) (htne : t ≠ []) :
    Bare (s ++ ',' :: t) where
  head := by
    rw [List.head?_append_of_ne_nil _ hne]
    exact hs.head
  last := by
    rw [← List.singleton_append, ← List.append_assoc, List.getLast?_append_of_ne_nil _ htne]
    exact ht.last

theorem bareText_surround {text before after : String} (h : Bare text.toList) (hbefore : IsBlankText before)
    (hafter : IsBlankText after) (commas : Nat) :
    bareText (surround before text commas after).toList = text.toList := by
  have hcommas : ∀ c ∈ List.replicate commas ',', c = ',' := fun c => List.eq_of_mem_replicate
  have hhead : ∀ c ∈ (text.toList ++ List.replicate commas ',').head?, Text.isBlank c = false := by
    intro c hc
    rw [List.head?_append, Option.mem_def, Option.or_eq_some_iff] at hc
    rcases hc with hc | ⟨-, hc⟩
    · exact h.head c hc
    · rw [hcommas c (List.mem_of_mem_head? hc)]
      decide
  have hlast : ∀ c ∈ (text.toList ++ List.replicate commas ',').getLast?, Text.isBlank c = false := by
    intro c hc
    rw [List.getLast?_append, Option.mem_def, Option.or_eq_some_iff] at hc
    rcases hc with hc | ⟨-, hc⟩
    · rw [hcommas c (List.mem_of_mem_getLast? hc)]
      decide
    · exact (h.last c hc).1
  unfold bareText surround
  rw [String.toList_append, String.toList_append, String.toList_append, String.toList_ofList,
    List.append_assoc, List.append_assoc, ← List.append_assoc text.toList,
    Text.trimChars_between (List.all_eq_true.1 hbefore) (List.all_eq_true.1 hafter) hhead hlast,
    Text.dropEndWhile_append_of_pos fun c hc => decide_eq_true (hcommas c hc)]
  exact Text.dropEndWhile_of_last fun c hc => decide_eq_false (h.last c hc).2

/-! ## printed values -/

namespace Json

/-- a value of 64-bit numbers that may be nested in one more list -/
structure Printable (v : Json) : Prop where
  whole : v.Whole
  ordered : v.Ordered
  nesting : v.nesting ≤ 126

theorem parse_arr {values : List Json} (h : ∀ v ∈ values, v.Printable) :
    parse (Json.arr values).compact = some (.arr values) := by
  have hparts : WholeItems values ∧ OrderedItems values ∧ nestingItems values ≤ 126 := by
    induction values with
    | nil => exact ⟨trivial, trivial, Nat.zero_le _⟩
    | cons v rest ih =>
      obtain ⟨hv, hrest⟩ := List.forall_mem_cons.1 h
      obtain ⟨hwhole, hordered, hnesting⟩ := ih hrest
      exact ⟨⟨hv.whole, hwhole⟩, ⟨hv.ordered, hordered⟩, Nat.max_le.2 ⟨hv.nesting, hnesting⟩⟩
  obtain ⟨hwhole, hordered, hnesting⟩ := hparts
  exact parse_compact (v := .arr values) hwhole hordered (Nat.succ_le_succ hnesting)

/-- digits are neither white space nor signs of a list -/
theorem isBlank_of_isDigit {c : Char} (h : Text.isDigit c = true) :
    Text.isBlank c = false ∧ c ≠ ',' ∧ c ≠ '[' := by
  have hdigits : ∀ d < 10, Text.isBlank (Nat.digitChar d) = false ∧ Nat.digitChar d ≠ ',' ∧
      Nat.digitChar d ≠ '[' := by decide
  obtain ⟨hlt, hc⟩ := Text.digitChar_digitValue h
  exact hc ▸ hdigits _ hlt

theorem bare_toString (n : Int) : Bare (toString n).toList where
  head := by
    obtain ⟨c, more, hn, hc⟩ := Tree.toList_toString_head n
    rw [hn]
    rintro d ⟨⟩
    rcases hc with rfl | hc
    · decide
    · exact (isBlank_of_isDigit hc).1
  last := by
    intro c hc
    have hdigits : c ∈ (Nat.toDigits 10 n.natAbs).getLast? := by
      rw [Tree.toList_toString, List.getLast?_append_of_ne_nil _ Nat.toDigits_ne_nil] at hc
      exact hc
    have hdigit := isBlank_of_isDigit (Text.isDigit_of_mem_toDigits (List.mem_of_mem_getLast? hdigits))
    exact ⟨hdigit.1, hdigit.2.1⟩

theorem bare_compactChars {v : Json} (h : v.Whole) : Bare (compactChars v) := by
  cases v with
  | null => exact bare_enclosed ['u', 'l'] (by decide) (by decide)
  | bool b =>
    cases b with
    | false => exact bare_enclosed ['a', 'l', 's'] (by decide) (by decide)
    | true => exact bare_enclosed ['r', 'u'] (by decide) (by decide)
  | int n => exact bare_toString n
  | real x => exact h.elim
  | str s => exact bare_enclosed _ (by decide) (by decide)
  | arr items => exact bare_enclosed _ (by decide) (by decide)
  | obj fields => exact bare_enclosed _ (by decide) (by decide)

theorem compactChars_ne_nil {v : Json} (h : v.Whole) : compactChars v ≠ [] := by
  obtain ⟨c, more, hhead, -⟩ := Tree.spells_head (spells_compactChars v h.inRange)
  rw [hhead]
  exact List.cons_ne_nil c more

theorem eq_arr_of_head {v : Json} (h : v.Whole) (hhead : (compactChars v).head? = some '[') :
    ∃ items, v = .arr items := by
  cases v with
  | null => exact absurd hhead (by decide)
  | bool b => cases b <;> exact absurd hhead (by decide)
  | int n =>
    obtain ⟨c, more, hn, hc⟩ := Tree.toList_toString_head n
    change (toString n).toList.head? = some '[' at hhead
    rw [hn] at hhead
    obtain rfl := Option.some.inj hhead
    exact absurd (by decide) (Tree.ne_of_numberStart hc).2
  | real x => exact h.elim
  | str s => cases hhead
  | arr items => exact ⟨items, rfl⟩
  | obj fields => cases hhead

theorem compactItems_cons (v w : Json) (rest : List Json) :
    compactItems (v :: w :: rest) = compactChars v ++ ',' :: compactItems (w :: rest) := rfl

theorem compactItems_ne_nil {v : Json} (h : v.Whole) (rest : List Json) :
    compactItems (v :: rest) ≠ [] := by
  cases rest with
  | nil => exact compactChars_ne_nil h
  | cons w rest => exact List.append_ne_nil_of_left_ne_nil (compactChars_ne_nil h) _

theorem bare_compactItems {values : List Json} (h : ∀ v ∈ values, v.Whole) :
    Bare (compactItems values) := by
  induction values with
  | nil => exact bare_nil
  | cons v rest ih =>
    obtain ⟨hv, hrest⟩ := List.forall_mem_cons.1 h
    cases rest with
    | nil => exact bare_compactChars hv
    | cons w rest =>
      exact bare_separated (bare_compactChars hv) (ih hrest) (compactChars_ne_nil hv)
        (compactItems_ne_nil (hrest w List.mem_cons_self) rest)

theorem head_compactItems {v : Json} (h : v.Whole) (rest : List Json) :
    (compactItems (v :: rest)).head? = (compactChars v).head? := by
  cases rest with
  | nil => rfl
  | cons w rest => exact List.head?_append_of_ne_nil _ (compactChars_ne_nil h)

end Json

theorem toList_joinCommas (values : List Json) :
    (joinCommas (values.map Json.compact)).toList = Json.compactItems values := by
  unfold joinCommas
  induction values with
  | nil => rfl
  | cons v rest ih =>
    cases rest with
    | nil =>
      rw [List.map_singleton, String.intercalate_singleton]
      exact String.toList_ofList
    | cons w rest =>
      rw [List.map_cons, List.map_cons, String.intercalate_cons_cons, ← List.map_cons,
        String.toList_append, String.toList_append, ih, Json.compactItems_cons]
      unfold Json.compact
      rw [String.toList_ofList, List.append_assoc]
      rfl

/-! ## parsing -/

/-- what does not begin like a list is put into brackets -/
theorem asList_of_head {s : List Char} (h : s.head? ≠ some '[') :
    asList s = String.ofList ('[' :: (s ++ [']'])) := by
  unfold asList
  split
  · exact absurd rfl h
  · rfl

theorem parse_nothing : Json.parse (asList []) = some (.arr []) := by
  decide +kernel

theorem onlyObjects_eq_ok_iff {items objects : List Json} :
    onlyObjects items = .ok objects ↔ items = objects ∧ ∀ v ∈ items, v.isObject = true := by
  unfold onlyObjects
  cases hfind : items.find? (!·.isObject) with
  | none =>
    have hall : ∀ v ∈ items, v.isObject = true := fun v hv => by
      simpa using List.find?_eq_none.1 hfind v hv
    exact ⟨fun h => ⟨Except.ok.inj h, hall⟩, fun h => congrArg _ h.1⟩
  | some bad =>
    have hbad : bad.isObject = false := by simpa using List.find?_some hfind
    refine ⟨nofun, fun h => ?_⟩
    rw [h.2 bad (List.mem_of_find?_eq_some hfind)] at hbad
    cases hbad

/-- A text gives the items of the list that it is read as, if all of them are objects, and nothing else. -/
theorem parseObjects_eq_ok_iff {text : String} {objects : List Json} :
    parseObjects text = .ok objects ↔ Json.parse (asList (bareText text.toList)) = some (.arr objects) ∧
      ∀ v ∈ objects, v.isObject = true := by
  unfold parseObjects
  dsimp only
  split
  next hempty =>
    rw [List.isEmpty_iff.1 hempty, parse_nothing]
    constructor
    · rintro ⟨⟩
      exact ⟨rfl, List.forall_mem_nil _⟩
    · rintro ⟨⟨⟩, -⟩
      rfl
  next =>
    split
    next items hparse =>
      rw [hparse, onlyObjects_eq_ok_iff, Option.some_inj, Json.arr.injEq]
      exact and_congr_right fun h => h ▸ Iff.rfl
    next hparse => exact ⟨nofun, fun h => absurd h.1 (hparse objects)⟩

theorem exists_error_of_parse {text : String} (h : ∀ objects,
    Json.parse (asList (bareText text.toList)) = some (.arr objects) →
      ¬∀ v ∈ objects, v.isObject = true) : ∃ e, parseObjects text = .error e := by
  cases hparsed : parseObjects text with
  | error e => exact ⟨e, rfl⟩
  | ok objects =>
    obtain ⟨hparse, hobjects⟩ := parseObjects_eq_ok_iff.1 hparsed
    exact absurd hobjects (h objects hparse)

theorem parse_arr_followed {items : List Json} (h : (Json.arr items).Whole) (rest : List Char) :
    Json.parse (String.ofList (Json.compactChars (.arr items) ++ ',' :: rest)) = none := by
  have hread := Json.Tree.readValue_spells (Json.spells_compactChars (.arr items) (Json.Whole.inRange h))
    ((Json.compactChars (.arr items) ++ ',' :: rest).length + 1) (',' :: rest)
    (by rw [List.length_append]; omega) (Json.Tree.stops_cons (by decide) rest)
  unfold Json.parse Json.Tree.read
  dsimp only
  rw [String.toList_ofList, hread]
  rfl

section
variable {values : List Json} (h : ∀ v ∈ values, v.Printable)
include h

theorem parse_joined (hlist : ∀ items rest, values ≠ .arr items :: rest) :
    Json.parse (asList (joinCommas (values.map Json.compact)).toList) = some (.arr values) := by
  rw [toList_joinCommas]
  cases values with
  | nil => exact parse_nothing
  | cons v rest =>
    have hwhole := (h v List.mem_cons_self).whole
    have hhead : (Json.compactItems (v :: rest)).head? ≠ some '[' := by
      rw [Json.head_compactItems hwhole]
      intro hbracket
      obtain ⟨items, rfl⟩ := Json.eq_arr_of_head hwhole hbracket
      exact hlist items rest rfl
    rw [asList_of_head hhead]
    exact Json.parse_arr h

/-- a list in front of other values is taken for all of them -/
theorem parse_joined_of_list {items rest : List Json} {w : Json}
    (hvalues : values = .arr items :: w :: rest) :
    Json.parse (asList (joinCommas (values.map Json.compact)).toList) = none := by
  subst hvalues
  rw [toList_joinCommas, Json.compactItems_cons]
  exact parse_arr_followed (h _ List.mem_cons_self).whole _

theorem parse_wrapped :
    Json.parse (asList ("[" ++ joinCommas (values.map Json.compact) ++ "]").toList) = some (.arr values) := by
  rw [String.toList_append, String.toList_append, toList_joinCommas]
  exact Json.parse_arr h

theorem bare_joined : Bare (joinCommas (values.map Json.compact)).toList := by
  rw [toList_joinCommas]
  exact Json.bare_compactItems fun v hv => (h v hv).whole

omit h in
theorem bare_wrapped (text : String) : Bare ("[" ++ text ++ "]").toList := by
  rw [String.toList_append, String.toList_append]
  exact bare_enclosed _ (by decide) (by decide)

end

/-- Objects that are printed with commas between them are parsed back, with white space around them and
commas behind them, and so are they within brackets.  The printed values are refused if one of them is no
object; only a single list stands for its own items then.  Whatever a text is, it gives the items of the
list that it is read as, and only if all of them are objects. -/
theorem objects_spliced {values : List Json} (h : ∀ v ∈ values, v.Printable) {before after : String}
    (hbefore : IsBlankText before) (hafter : IsBlankText after) (commas : Nat) :
    ((∀ v ∈ values, v.isObject = true) →
      parseObjects (surround before (joinCommas (values.map Json.compact)) commas after) = .ok values ∧
      parseObjects (surround before ("[" ++ joinCommas (values.map Json.compact) ++ "]") commas after) =
        .ok values) ∧
    ((∃ v ∈ values, v.isObject = false) →
      (∃ e, parseObjects (surround before ("[" ++ joinCommas (values.map Json.compact) ++ "]") commas
        after) = .error e) ∧
      ((∀ items, values ≠ [.arr items]) →
        ∃ e, parseObjects (surround before (joinCommas (values.map Json.compact)) commas after) =
          .error e)) ∧
    ∀ text objects, parseObjects text = .ok objects ↔
      Json.parse (asList (bareText text.toList)) = some (.arr objects) ∧
        ∀ v ∈ objects, v.isObject = true := by
  have hjoined : bareText (surround before (joinCommas (values.map Json.compact)) commas after).toList =
      (joinCommas (values.map Json.compact)).toList :=
    bareText_surround (bare_joined h) hbefore hafter commas
  have hwrapped : bareText (surround before ("[" ++ joinCommas (values.map Json.compact) ++ "]") commas
      after).toList = ("[" ++ joinCommas (values.map Json.compact) ++ "]").toList :=
    bareText_surround (bare_wrapped _) hbefore hafter commas
  refine ⟨fun hobjects => ⟨?_, ?_⟩, fun ⟨bad, hbad, hobject⟩ => ⟨?_, fun hsingle => ?_⟩,
    fun text objects => parseObjects_eq_ok_iff⟩
  · have hlist : ∀ items rest, values ≠ .arr items :: rest := by
      rintro items rest rfl
      exact Bool.false_ne_true (hobjects _ List.mem_cons_self)
    exact parseObjects_eq_ok_iff.2 ⟨hjoined.symm ▸ parse_joined h hlist, hobjects⟩
  · exact parseObjects_eq_ok_iff.2 ⟨hwrapped.symm ▸ parse_wrapped h, hobjects⟩
  · refine exists_error_of_parse fun objects hparse hobjects => ?_
    rw [hwrapped, parse_wrapped h] at hparse
    cases hparse
    exact absurd (hobject.symm.trans (hobjects bad hbad)) (by decide)
  · refine exists_error_of_parse fun objects hparse hobjects => ?_
    rw [hjoined] at hparse
    by_cases hlist : ∃ items rest, values = .arr items :: rest
    · obtain ⟨items, rest, hvalues⟩ := hlist
      cases rest with
      | nil => exact hsingle items hvalues
      | cons w rest =>
        rw [parse_joined_of_list h hvalues] at hparse
        cases hparse
    · rw [parse_joined h fun items rest hvalues => hlist ⟨items, rest, hvalues⟩] at hparse
      cases hparse
      exact absurd (hobject.symm.trans (hobjects bad hbad)) (by decide)

/-- a text with commas and brackets, and an object without fields -/
theorem objects_spliced_brackets :
    let values : List Json := [.obj [("port", .int 443), ("tag", .str "a,]")], .obj []]
    (∀ v ∈ values, v.Printable) ∧ IsBlankText "\n " ∧ IsBlankText "\t" ∧
      parseObjects "\n \x7b\"port\":443,\"tag\":\"a,]\"\x7d,\x7b\x7d,,\t" = .ok values := by
  intro values
  have h : ∀ v ∈ values, v.Printable := by
    intro v hv
    rcases List.mem_cons.1 hv with rfl | hv
    · exact ⟨⟨⟨by decide, by decide⟩, trivial, trivial⟩,
        ⟨by unfold Ascending; decide, trivial, trivial, trivial⟩, by decide⟩
    · obtain rfl := List.mem_singleton.1 hv
      exact ⟨trivial, ⟨List.Pairwise.nil, trivial⟩, by decide⟩
  have hbefore : IsBlankText "\n " := by decide
  have hafter : IsBlankText "\t" := by decide
  have hobjects : ∀ v ∈ values, v.isObject = true := by decide
  exact ⟨h, hbefore, hafter, ((objects_spliced h hbefore hafter 2).1 hobjects).1⟩

end ProxyMesh
