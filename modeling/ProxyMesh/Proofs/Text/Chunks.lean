import ProxyMesh.Proofs.Text.Scanning

/-!
# A text in two parts

A text that is cut at the end of a line has the lines of its two parts, up to the end of the line at
the cut: the carriage return of the last line of a part is no part of the line in the whole, and a part
may end where no line begins.  A reader that does not look at such ends finds the same in the parts.

* `LineEnd`                    a line feed, with or without a carriage return;
* `stripStart_concat`, `takeWhile_concat`, `dropWhile_concat`, `dropEndWhile_concat`, `trimChars_concat`
                               how far a reader gets in a text with one more character;
* `splitChars_append`, `splitChars_concat`   the pieces of a text that is continued;
* `IgnoresEnds`                a reader that finds nothing in blanks and passes over a carriage return;
* `filterMap_lines_append`     **what is read in a text is what is read in its two parts**.
-/

namespace ProxyMesh.Text

/-- what a line ends in -/
inductive LineEnd where
  | lf
  | crlf
deriving DecidableEq, Repr

def LineEnd.text : LineEnd → String
  | .lf => "\n"
  | .crlf => "\r\n"

/-! ## one more character -/

section
variable {lead : List Char} {p : Char → Bool} {c : Char}

theorem stripStart_concat (hc : c ∉ lead) (s : List Char) :
    stripStart lead (s ++ [c]) = (stripStart lead s).map (· ++ [c]) := by
  induction lead generalizing s with
  | nil => rfl
  | cons l lead ih =>
    obtain ⟨hl, hlead⟩ := not_or.1 (mt List.mem_cons.2 hc)
    cases s with
    | nil => exact if_neg (Ne.symm hl)
    | cons d rest =>
      rw [List.cons_append]
      unfold stripStart
      split
      · exact ih hlead rest
      · rfl

theorem takeWhile_concat (hc : p c = false) (s : List Char) :
    (s ++ [c]).takeWhile p = s.takeWhile p := by
  rw [List.takeWhile_append]
  split
  next h =>
    have hall : s.takeWhile p = s := (List.takeWhile_prefix p).eq_of_length h
    rw [List.takeWhile_cons, hc, hall]
    exact List.append_nil s
  next => rfl

theorem dropWhile_concat (hc : p c = false) (s : List Char) :
    (s ++ [c]).dropWhile p = s.dropWhile p ++ [c] := by
  rw [List.dropWhile_append]
  split
  next h => rw [List.isEmpty_iff.1 h, List.dropWhile_cons, hc]; rfl
  next => rfl

theorem dropWhile_concat_of_pos (hc : p c = true) (s : List Char) :
    (s ++ [c]).dropWhile p = if (s.dropWhile p).isEmpty then [] else s.dropWhile p ++ [c] := by
  rw [List.dropWhile_append, List.dropWhile_cons, hc]
  rfl

theorem dropEndWhile_cons (hc : p c = false) (s : List Char) :
    dropEndWhile p (c :: s) = c :: dropEndWhile p s := by
  unfold dropEndWhile
  rw [List.reverse_cons, dropWhile_concat hc, List.reverse_append]
  rfl

theorem dropEndWhile_concat (hc : p c = true) (s : List Char) :
    dropEndWhile p (s ++ [c]) = dropEndWhile p s := by
  unfold dropEndWhile
  rw [List.reverse_append, List.reverse_singleton, List.singleton_append,
    List.dropWhile_cons_of_pos hc]

theorem dropEndWhile_append_of_pos {t : List Char} (h : ∀ c ∈ t, p c = true) (s : List Char) :
    dropEndWhile p (s ++ t) = dropEndWhile p s := by
  unfold dropEndWhile
  rw [List.reverse_append, List.dropWhile_append_of_pos fun c hc => h c (List.mem_reverse.1 hc)]

theorem dropEndWhile_of_last {s : List Char} (h : ∀ c ∈ s.getLast?, p c = false) :
    dropEndWhile p s = s := by
  unfold dropEndWhile
  rw [← List.head?_reverse] at h
  cases hs : s.reverse with
  | nil => rw [List.reverse_eq_nil_iff.1 hs]; rfl
  | cons c rest =>
    rw [hs] at h
    rw [List.dropWhile_cons_of_neg (by simp [h c rfl]), ← hs, List.reverse_reverse]

theorem trimChars_between {before s after : List Char} (hbefore : ∀ c ∈ before, isBlank c = true)
    (hafter : ∀ c ∈ after, isBlank c = true) (hhead : ∀ c ∈ s.head?, isBlank c = false)
    (hlast : ∀ c ∈ s.getLast?, isBlank c = false) : trimChars (before ++ (s ++ after)) = s := by
  unfold trimChars
  rw [List.dropWhile_append_of_pos hbefore]
  cases s with
  | nil =>
    rw [List.nil_append, ← List.append_nil after, List.dropWhile_append_of_pos hafter]
    rfl
  | cons c rest =>
    rw [List.cons_append, List.dropWhile_cons_of_neg (by simp [hhead c rfl]), ← List.cons_append,
      dropEndWhile_append_of_pos hafter, dropEndWhile_of_last hlast]

theorem trimChars_concat (hc : isBlank c = true) (s : List Char) :
    trimChars (s ++ [c]) = trimChars s := by
  unfold trimChars dropEndWhile
  rw [dropWhile_concat_of_pos hc]
  split
  next h => rw [List.isEmpty_iff.1 h]
  next => rw [List.reverse_concat, List.dropWhile_cons, hc, if_pos rfl]

end

/-! ## pieces -/

section
variable {sep : Char}

theorem splitChars_ne_nil (sep : Char) (s : List Char) : splitChars sep s ≠ [] := by
  cases s with
  | nil => exact List.cons_ne_nil _ _
  | cons c rest =>
    unfold splitChars
    split
    · exact List.cons_ne_nil _ _
    · split
      · exact List.cons_ne_nil _ _
      · exact List.cons_ne_nil _ _

theorem splitChars_cons_sep (sep : Char) (s : List Char) :
    splitChars sep (sep :: s) = [] :: splitChars sep s :=
  if_pos rfl

theorem splitChars_cons_ne {c : Char} (h : c ≠ sep) {piece : List Char} {more : List (List Char)}
    {rest : List Char} (hrest : splitChars sep rest = piece :: more) :
    splitChars sep (c :: rest) = (c :: piece) :: more := by
  rw [splitChars, if_neg h, hrest]

theorem splitChars_append (s t : List Char) :
    splitChars sep (s ++ sep :: t) = splitChars sep s ++ splitChars sep t := by
  induction s with
  | nil => exact splitChars_cons_sep sep t
  | cons c rest ih =>
    by_cases h : c = sep
    · subst h
      rw [List.cons_append, splitChars_cons_sep, ih, splitChars_cons_sep, List.cons_append]
    · obtain ⟨piece, more, hrest⟩ := List.exists_cons_of_ne_nil (splitChars_ne_nil sep rest)
      rw [hrest, List.cons_append] at ih
      rw [splitChars_cons_ne h hrest, List.cons_append, splitChars_cons_ne h ih, List.cons_append]

theorem splitChars_concat (sep : Char) (s : List Char) :
    ∃ init last, splitChars sep s = init ++ [last] ∧
    ∀ c, c ≠ sep → splitChars sep (s ++ [c]) = init ++ [last ++ [c]] := by
  induction s with
  | nil =>
    refine ⟨[], [], rfl, fun c hc => ?_⟩
    exact splitChars_cons_ne hc rfl
  | cons x rest ih =>
    obtain ⟨init, last, hrest, hmore⟩ := ih
    by_cases hx : x = sep
    · subst hx
      refine ⟨[] :: init, last, ?_, fun c hc => ?_⟩
      · rw [splitChars_cons_sep, hrest, List.cons_append]
      · rw [List.cons_append, splitChars_cons_sep, hmore c hc, List.cons_append]
    · cases init with
      | nil =>
        refine ⟨[], x :: last, splitChars_cons_ne hx hrest, fun c hc => ?_⟩
        exact splitChars_cons_ne hx (hmore c hc)
      | cons piece more =>
        refine ⟨(x :: piece) :: more, last, splitChars_cons_ne hx hrest, fun c hc => ?_⟩
        exact splitChars_cons_ne hx (hmore c hc)

end

/-! ## readers -/

/-- a reader of lines that finds nothing in an empty one and does not see a carriage return at the end -/
structure IgnoresEnds {β : Type} (f : String → Option β) : Prop where
  empty : f "" = none
  ending : ∀ line : List Char, f (String.ofList (line ++ ['\r'])) = f (String.ofList line)

section
variable {β : Type} {f : String → Option β}

theorem eq_dropReturn_or (line : List Char) :
    dropReturn line = line ∨ line = dropReturn line ++ ['\r'] := by
  unfold dropReturn
  split
  next h =>
    obtain ⟨init, rfl⟩ := List.getLast?_eq_some_iff.1 h
    rw [List.dropLast_concat]
    exact Or.inr rfl
  next => exact Or.inl rfl

theorem IgnoresEnds.dropReturn (h : IgnoresEnds f) (line : List Char) :
    f (String.ofList (Text.dropReturn line)) = f (String.ofList line) := by
  rcases eq_dropReturn_or line with he | he
  · rw [he]
  · have hending := h.ending (Text.dropReturn line)
    rw [← he] at hending
    exact hending.symm

/-- such a reader finds in the pieces of a text what it finds in its lines -/
theorem IgnoresEnds.filterMap_closeLines (h : IgnoresEnds f) (pieces : List (List Char)) :
    ((closeLines pieces).map String.ofList).filterMap f =
      (pieces.map String.ofList).filterMap f := by
  fun_induction closeLines pieces with
  | case1 => rfl
  | case2 last hempty =>
    rw [List.isEmpty_iff.1 hempty]
    exact (List.filterMap_cons_none h.empty).symm
  | case3 last hfull => rfl
  | case4 line rest hmore ih =>
    rw [List.map_cons, List.filterMap_cons, h.dropReturn, ih, List.map_cons, List.filterMap_cons]

/-- the pieces of a text with a carriage return behind it -/
theorem IgnoresEnds.filterMap_return (h : IgnoresEnds f) (s : List Char) :
    ((splitChars '\n' (s ++ ['\r'])).map String.ofList).filterMap f =
      ((splitChars '\n' s).map String.ofList).filterMap f := by
  obtain ⟨init, last, hs, hmore⟩ := splitChars_concat '\n' s
  rw [hs, hmore '\r' (by decide), List.map_append, List.map_append, List.filterMap_append,
    List.filterMap_append]
  simp only [List.map_cons, List.map_nil, List.filterMap_cons, h.ending]

/-- **what is read in a text is what is read in its two parts** -/
theorem filterMap_lines_append (h : IgnoresEnds f) (e : LineEnd) (a b : String) :
    (lines (a ++ e.text ++ b)).filterMap f = (lines a).filterMap f ++ (lines b).filterMap f := by
  have hlines : ∀ s : String, (lines s).filterMap f =
      ((splitChars '\n' s.toList).map String.ofList).filterMap f :=
    fun s => h.filterMap_closeLines _
  have hcut : ∀ s t : List Char, ((splitChars '\n' (s ++ '\n' :: t)).map String.ofList).filterMap f =
      ((splitChars '\n' s).map String.ofList).filterMap f ++
        ((splitChars '\n' t).map String.ofList).filterMap f := by
    intro s t
    rw [splitChars_append, List.map_append, List.filterMap_append]
  rw [hlines, hlines, hlines, String.toList_append, String.toList_append]
  cases e with
  | lf =>
    show ((splitChars '\n' (a.toList ++ ['\n'] ++ b.toList)).map String.ofList).filterMap f = _
    rw [List.append_assoc]
    exact hcut _ _
  | crlf =>
    show ((splitChars '\n' (a.toList ++ ['\r', '\n'] ++ b.toList)).map String.ofList).filterMap f = _
    rw [show a.toList ++ ['\r', '\n'] ++ b.toList = (a.toList ++ ['\r']) ++ '\n' :: b.toList by simp,
      hcut, h.filterMap_return]

end

end ProxyMesh.Text
