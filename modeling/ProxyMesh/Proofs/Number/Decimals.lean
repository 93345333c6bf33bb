import ProxyMesh.Number.Layout
import ProxyMesh.Number.Reading
import ProxyMesh.Proofs.Text.Numerals
import Mathlib.Data.List.TakeWhile

/-!
# Decimal numbers are read as they are written

A decimal number is written as digits around a point, without an exponent.  Zeros behind a whole number
and zeros in front of a fraction stand for the exponent, so the digits as they are read are not always
the digits of the number.

* `ofDecimal_mul_pow`         zeros behind the digits are the exponent;
* `exists_spelling`           what is written is digits, with a fraction or without;
* `read_written`              the value of digits around a point;
* `read_spellPositional`      **a decimal number is read as the value nearest to it**.
-/

namespace ProxyMesh.Decimal

open Text (isDigit digitsValue)

section
variable {whole fraction : List Char} {c : Char}

/-- a fraction behind its point; without digits there is no point -/
def pointed : List Char → List Char
  | [] => []
  | fraction => '.' :: fraction

/-- digits before a point, and perhaps after it -/
structure Written (whole fraction : List Char) : Prop where
  whole_ne : whole ≠ []
  isDigit_of_mem : ∀ c ∈ whole ++ fraction, isDigit c = true

theorem Written.isDigit_whole (h : Written whole fraction) : ∀ c ∈ whole, isDigit c = true :=
  fun c hc => h.isDigit_of_mem c (List.mem_append_left _ hc)

theorem Written.isDigit_fraction (h : Written whole fraction) : ∀ c ∈ fraction, isDigit c = true :=
  fun c hc => h.isDigit_of_mem c (List.mem_append_right _ hc)

/-! ## what is written -/

theorem isDigit_toDigits_append_zeros (n zeros : Nat) :
    ∀ c ∈ Nat.toDigits 10 n ++ List.replicate zeros '0', isDigit c = true := by
  intro c hc
  rcases List.mem_append.1 hc with h | h
  · exact Text.isDigit_of_mem_toDigits h
  · rw [List.eq_of_mem_replicate h]
    rfl

theorem digitsValue_toDigits (n : Nat) : digitsValue (Nat.toDigits 10 n) = n := by
  rw [Text.digitsValue_eq, Nat.ofDigitChars_ten_toDigits]

theorem digitsValue_append_zeros (n zeros : Nat) :
    digitsValue (Nat.toDigits 10 n ++ List.replicate zeros '0') = n * Nat.pow 10 zeros := by
  rw [Text.digitsValue_eq, Nat.ofDigitChars_append, Nat.ofDigitChars_ten_toDigits,
    Nat.ofDigitChars_replicate_zero, Nat.mul_comm]
  rfl

theorem ofDecimal_mul_pow (negative : Bool) (n e : Nat) :
    Binary64.ofDecimal negative (n * Nat.pow 10 e) 0 = Binary64.ofDecimal negative n e := by
  rcases Nat.eq_zero_or_pos n with rfl | hn
  · simp [Binary64.ofDecimal]
  · have hdigits : Nat.toDigits 10 (n * Nat.pow 10 e) =
        Nat.toDigits 10 n ++ List.replicate e '0' := by
      rw [Text.toDigits_append_of_pos hn (fun c hc => by rw [List.eq_of_mem_replicate hc]; rfl),
        Nat.ofDigitChars_replicate_zero, Nat.mul_comm]
      rfl
    have hsize : ((Nat.toDigits 10 (n * Nat.pow 10 e)).length : Int) + 0 =
        (Nat.toDigits 10 n).length + (e : Int) := by
      rw [hdigits, List.length_append, List.length_replicate]
      omega
    have hzero : n * Nat.pow 10 e ≠ 0 := (Nat.mul_pos hn (Nat.pow_pos (by decide))).ne'
    have hone : n * Nat.pow 10 e * Nat.pow 10 0 = n * Nat.pow 10 e := Nat.mul_one _
    unfold Binary64.ofDecimal
    simp only [hsize, hzero, hn.ne', decide_false]
    exact congrArg _ (congrArg _ (congrArg (Binary64.ofRatio negative · 1) hone))

/-- the digits that a decimal number is written with -/
structure Spelling (d : Decimal) (whole fraction : List Char) : Prop extends
    Written whole fraction where
  text : (Layout.spellPositional "" d).toList = whole ++ pointed fraction
  value : Binary64.ofDecimal false (digitsValue (whole ++ fraction)) (-fraction.length) =
    Binary64.ofDecimal false d.digits d.exponent

theorem spelling_whole (n e : Nat) :
    Spelling ⟨n, .ofNat e⟩ (Nat.toDigits 10 n ++ List.replicate e '0') [] where
  whole_ne := List.append_ne_nil_of_left_ne_nil Nat.toDigits_ne_nil _
  isDigit_of_mem := by
    rw [List.append_nil]
    exact isDigit_toDigits_append_zeros n e
  text := by simp [Layout.spellPositional, Layout.zeros, pointed]
  value := by
    rw [List.append_nil, digitsValue_append_zeros]
    exact ofDecimal_mul_pow false n e

theorem spelling_among {n e k : Nat} (hk : (Nat.toDigits 10 n).length = k + 1 + (e + 1)) :
    Spelling ⟨n, .negSucc e⟩ ((Nat.toDigits 10 n).take (k + 1))
      ((Nat.toDigits 10 n).drop (k + 1)) := by
  have hplaces : e + 1 < (Nat.toDigits 10 n).length := by omega
  have hwhole : (Nat.toDigits 10 n).length - (e + 1) = k + 1 := by omega
  have htake : ((Nat.toDigits 10 n).take (k + 1)).length = k + 1 := by
    rw [List.length_take]
    omega
  have hdrop : ((Nat.toDigits 10 n).drop (k + 1)).length = e + 1 := by
    rw [List.length_drop]
    omega
  refine ⟨⟨List.ne_nil_of_length_eq_add_one htake, ?_⟩, ?_, ?_⟩
  · rw [List.take_append_drop]
    exact fun _ => Text.isDigit_of_mem_toDigits
  · obtain ⟨first, rest, hfraction⟩ := List.exists_cons_of_length_eq_add_one hdrop
    simp [Layout.spellPositional, hplaces, hwhole, hfraction, pointed]
  · rw [List.take_append_drop, digitsValue_toDigits, hdrop]
    rfl

theorem spelling_before {n e zeros : Nat} (hzeros : zeros + (Nat.toDigits 10 n).length = e + 1) :
    Spelling ⟨n, .negSucc e⟩ ['0'] (List.replicate zeros '0' ++ Nat.toDigits 10 n) := by
  have hplaces : ¬ e + 1 < (Nat.toDigits 10 n).length := by omega
  have hcount : e + 1 - (Nat.toDigits 10 n).length = zeros := by omega
  have hlength : (List.replicate zeros '0' ++ Nat.toDigits 10 n).length = e + 1 := by
    rw [List.length_append, List.length_replicate, hzeros]
  refine ⟨⟨List.cons_ne_nil _ _, ?_⟩, ?_, ?_⟩
  · intro c hc
    rw [List.singleton_append, ← List.cons_append, ← List.replicate_succ] at hc
    exact Text.isDigit_of_mem_zeros_append hc
  · obtain ⟨first, rest, hfraction⟩ := List.exists_cons_of_length_eq_add_one hlength
    simp [Layout.spellPositional, Layout.zeros, hplaces, hcount, hfraction, pointed]
  · rw [List.singleton_append, ← List.cons_append, ← List.replicate_succ,
      Text.digitsValue_zeros_append, hlength]
    rfl

theorem exists_spelling (d : Decimal) : ∃ whole fraction, Spelling d whole fraction := by
  obtain ⟨n, e | e⟩ := d
  · exact ⟨_, _, spelling_whole n e⟩
  · by_cases hplaces : e + 1 < (Nat.toDigits 10 n).length
    · obtain ⟨k, hk⟩ := Nat.exists_eq_add_of_lt hplaces
      exact ⟨_, _, spelling_among (k := k) (by omega)⟩
    · obtain ⟨zeros, hzeros⟩ := Nat.exists_eq_add_of_le' (Nat.le_of_not_lt hplaces)
      exact ⟨_, _, spelling_before hzeros.symm⟩

/-! ## what is read -/

theorem readSign_digit (hc : isDigit c = true) (s : List Char) :
    Binary64.readSign (c :: s) = (false, c :: s) := by
  have hbounds := Text.isDigit_iff.1 hc
  unfold Binary64.readSign
  split
  next h => cases h; exact absurd hbounds (by decide)
  next h => cases h; exact absurd hbounds (by decide)
  next => rfl

theorem toLower_digit (hc : isDigit c = true) : c.toLower = c := by
  have hbounds := Text.isDigit_iff.1 hc
  unfold Char.toLower
  rw [dif_neg]
  rintro ⟨h, -⟩
  have hA : 65 ≤ c.toNat := h
  omega

theorem readWord_digit (hc : isDigit c = true) (s : List Char) :
    Binary64.readWord false (c :: s) = none := by
  have hbounds := Text.isDigit_iff.1 hc
  have hother : ∀ word : String, isDigit (word.toList.headD '0') = false →
      String.ofList ((c :: s).map Char.toLower) ≠ word := by
    rintro word hword rfl
    rw [String.toList_ofList, List.map_cons, List.headD_cons, toLower_digit hc, hc] at hword
    cases hword
  unfold Binary64.readWord
  split
  next h => exact absurd h (hother _ (by decide))
  next h => exact absurd h (hother _ (by decide))
  next h => exact absurd h (hother _ (by decide))
  next => rfl

theorem takeWhile_digits {s : List Char} (hs : ∀ c ∈ s, isDigit c = true) :
    s.takeWhile isDigit = s ∧ s.dropWhile isDigit = [] :=
  ⟨List.takeWhile_eq_self_iff.2 hs, List.dropWhile_eq_nil_iff.2 hs⟩

theorem read_written (h : Written whole fraction) :
    Binary64.read? (whole ++ pointed fraction) =
      some (.ofDecimal false (digitsValue (whole ++ fraction)) (-fraction.length)) := by
  have hne : whole.isEmpty = false := List.isEmpty_eq_false_iff.2 h.whole_ne
  have hdecimal : Binary64.readDecimal false (whole ++ pointed fraction) =
      some (.ofDecimal false (digitsValue (whole ++ fraction)) (-fraction.length)) := by
    cases fraction with
    | nil =>
      obtain ⟨htake, hdrop⟩ := takeWhile_digits h.isDigit_whole
      simp [Binary64.readDecimal, pointed, htake, hdrop, hne, Binary64.readFraction,
        Binary64.readExponent]
    | cons first rest =>
      have hdot : isDigit '.' = false := by decide
      obtain ⟨htake, hdrop⟩ := takeWhile_digits h.isDigit_fraction
      unfold Binary64.readDecimal pointed
      rw [Text.takeWhile_stop h.isDigit_whole hdot, Text.dropWhile_stop h.isDigit_whole hdot]
      simp only [Binary64.readFraction, htake, hdrop, hne, Bool.false_and, Bool.false_eq_true,
        if_false, Binary64.readExponent, Option.map_some, Int.zero_sub]
  cases whole with
  | nil => exact absurd rfl h.whole_ne
  | cons first rest =>
    have hfirst : isDigit first = true := h.isDigit_whole first List.mem_cons_self
    unfold Binary64.read?
    rw [List.cons_append, readSign_digit hfirst]
    show (Binary64.readWord false _).or (Binary64.readDecimal false _) = _
    rw [readWord_digit hfirst, Option.none_or]
    exact hdecimal

/-- **a decimal number is read as the value nearest to it** -/
theorem read_spellPositional (d : Decimal) :
    Binary64.read? (Layout.spellPositional "" d).toList =
      some (.ofDecimal false d.digits d.exponent) := by
  obtain ⟨whole, fraction, h⟩ := exists_spelling d
  rw [h.text, read_written h.toWritten, h.value]

end

end ProxyMesh.Decimal
