import ProxyMesh.Text.Lines
import ProxyMesh.Text.Naturals

/-!
# How far a reader gets

Readers strip a text that they know, or run up to the first character of some kind.

* `stripStart_eq_some_iff`       a text is stripped from exactly the texts that begin with it;
* `takeWhile_stop`, `dropWhile_stop`   a run ends where a character of another kind stands;
* `takeWhile_ne`, `dropWhile_ne`       a run up to a sign ends at the first one;
* `cut_inj`                      a text is cut in one way at the first mark;
* `isDecimalDigit_of_isDigit`    the ten digits are decimal digits.
-/

namespace ProxyMesh.Text

section
variable {lead s rest : List Char}

theorem stripStart_eq_some_iff : stripStart lead s = some rest ↔ s = lead ++ rest := by
  induction lead generalizing s with
  | nil => exact Option.some_inj.trans Iff.rfl
  | cons l lead ih =>
    cases s with
    | nil => exact ⟨nofun, nofun⟩
    | cons c s =>
      unfold stripStart
      rw [List.cons_append, List.cons.injEq]
      split
      next hl => rw [ih, and_iff_right hl.symm]
      next hl => exact ⟨nofun, fun h => absurd h.1.symm hl⟩

theorem stripStart_append (lead rest : List Char) : stripStart lead (lead ++ rest) = some rest :=
  stripStart_eq_some_iff.2 rfl

end

section
variable {p : Char → Bool} {s : List Char} {c : Char}

theorem takeWhile_stop (hs : ∀ x ∈ s, p x = true) (hc : p c = false) (rest : List Char) :
    (s ++ c :: rest).takeWhile p = s := by
  rw [List.takeWhile_append_of_pos hs, List.takeWhile_cons, hc]
  exact List.append_nil s

theorem dropWhile_stop (hs : ∀ x ∈ s, p x = true) (hc : p c = false) (rest : List Char) :
    (s ++ c :: rest).dropWhile p = c :: rest := by
  rw [List.dropWhile_append_of_pos hs, List.dropWhile_cons, hc]
  rfl

theorem bne_of_mem (h : c ∉ s) : ∀ x ∈ s, (x != c) = true :=
  fun _ hx => bne_iff_ne.2 (ne_of_mem_of_not_mem hx h)

theorem takeWhile_ne (h : c ∉ s) (rest : List Char) : (s ++ c :: rest).takeWhile (· != c) = s :=
  takeWhile_stop (bne_of_mem h) (bne_self_eq_false c) rest

theorem dropWhile_ne (h : c ∉ s) (rest : List Char) :
    (s ++ c :: rest).dropWhile (· != c) = c :: rest :=
  dropWhile_stop (bne_of_mem h) (bne_self_eq_false c) rest

theorem cut_inj {a b mark s t : String} (hmark : mark.toList.head? = some c) (ha : c ∉ a.toList)
    (hb : c ∉ b.toList) (h : a ++ (mark ++ s) = b ++ (mark ++ t)) : a = b ∧ s = t := by
  obtain ⟨more, hmark⟩ := List.head?_eq_some_iff.1 hmark
  have hlists : a.toList ++ c :: (more ++ s.toList) = b.toList ++ c :: (more ++ t.toList) := by
    have hlists := congrArg String.toList h
    rw [String.toList_append, String.toList_append, String.toList_append, String.toList_append,
      hmark] at hlists
    exact hlists
  have hleft : a.toList = b.toList := by rw [← takeWhile_ne ha, hlists, takeWhile_ne hb]
  obtain rfl := String.toList_inj.1 hleft
  exact ⟨rfl, (String.append_right_inj mark).1 ((String.append_right_inj a).1 h)⟩

theorem not_mem_takeWhile_ne (c : Char) (s : List Char) : c ∉ s.takeWhile (· != c) := by
  intro h
  have hne := List.all_eq_true.1 List.all_takeWhile c h
  simp at hne

end

theorem isDecimalDigit_of_isDigit {c : Char} (h : isDigit c = true) : isDecimalDigit c = true := by
  have hbounds : 48 ≤ c.toNat ∧ c.toNat ≤ 57 := by
    unfold isDigit at h
    rw [Bool.and_eq_true, decide_eq_true_eq, decide_eq_true_eq] at h
    exact h
  unfold isDecimalDigit within digitBoundaries
  rw [within.go, if_pos hbounds.1, within.go, if_neg (by omega)]
  rfl

end ProxyMesh.Text
