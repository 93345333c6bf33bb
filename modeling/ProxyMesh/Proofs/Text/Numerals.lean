import ProxyMesh.Proofs.Text.Scanning

/-!
# Numbers as they are written and read

A number is written in one way, without zeros in front, and read with any number of them.

* `numeral`, `paddedNumeral`      the digits of a 64-bit number, and zeros in front of them;
* `paddedNumeral_of_digits`       digits are the numeral of their value behind some zeros;
* `readWord_eq_some_iff`          **what is read as a number is its numeral behind some zeros**;
* `takeDigits_append`             digits end where another character stands;
* `numeral_append_inj`, `numbered_inj`   numerals in front of other characters can be told apart.
-/

namespace ProxyMesh.Text

/-- the digits of a number -/
def numeral (n : UInt64) : List Char := (toString n).toList

/-- with zeros in front -/
def paddedNumeral (zeros : Nat) (n : UInt64) : List Char := List.replicate zeros '0' ++ numeral n

theorem paddedNumeral_zero (n : UInt64) : paddedNumeral 0 n = numeral n := rfl

theorem numeral_eq (n : UInt64) : numeral n = Nat.toDigits 10 n.toNat := by
  show n.toNat.repr.toList = _
  rw [Nat.toList_repr]

/-! ## digits -/

theorem isDigit_iff {c : Char} : isDigit c = true ↔ 48 ≤ c.toNat ∧ c.toNat ≤ 57 := by
  unfold isDigit
  rw [Bool.and_eq_true, decide_eq_true_eq, decide_eq_true_eq]
  exact Iff.rfl

theorem digitChar_digitValue {c : Char} (h : isDigit c = true) :
    digitValue c < 10 ∧ Nat.digitChar (digitValue c) = c := by
  obtain ⟨hlo, hhi⟩ := isDigit_iff.1 h
  have hvalue : digitValue c = c.toNat - 48 := rfl
  have hlt : c.toNat - 48 < 10 := by omega
  refine ⟨hvalue ▸ hlt, ?_⟩
  rw [hvalue]
  apply Char.toNat_inj.1
  rw [Nat.toNat_digitChar_of_lt_ten hlt]
  omega

theorem isDigit_of_mem_toDigits {c : Char} {n : Nat} (h : c ∈ Nat.toDigits 10 n) :
    isDigit c = true := by
  have hdigit : c.isDigit = true := Nat.isDigit_of_mem_toDigits (by decide) (by decide) h
  rw [Char.isDigit, Bool.and_eq_true, decide_eq_true_eq, decide_eq_true_eq] at hdigit
  exact isDigit_iff.2 hdigit

theorem digitsValue_eq (s : List Char) : digitsValue s = Nat.ofDigitChars 10 s 0 := by
  rw [Nat.ofDigitChars_eq_foldl]
  unfold digitsValue digitValue
  congr 1
  funext n c
  rw [Nat.mul_comm]

theorem isDigit_of_mem_zeros_append {zeros n : Nat} {c : Char}
    (h : c ∈ List.replicate zeros '0' ++ Nat.toDigits 10 n) : isDigit c = true := by
  rcases List.mem_append.1 h with h | h
  · rw [List.eq_of_mem_replicate h]
    rfl
  · exact isDigit_of_mem_toDigits h

theorem digitsValue_zeros_append (zeros n : Nat) :
    digitsValue (List.replicate zeros '0' ++ Nat.toDigits 10 n) = n := by
  rw [digitsValue_eq, Nat.ofDigitChars_append, Nat.ofDigitChars_replicate_zero, Nat.mul_zero,
    Nat.ofDigitChars_ten_toDigits]

theorem isDigit_of_mem_paddedNumeral {zeros : Nat} {n : UInt64} {c : Char}
    (h : c ∈ paddedNumeral zeros n) : isDigit c = true := by
  rw [paddedNumeral, numeral_eq] at h
  exact isDigit_of_mem_zeros_append h

theorem numeral_ne_nil (n : UInt64) : numeral n ≠ [] := by
  rw [numeral_eq]
  exact Nat.toDigits_ne_nil

theorem digitsValue_paddedNumeral (zeros : Nat) (n : UInt64) :
    digitsValue (paddedNumeral zeros n) = n.toNat := by
  rw [paddedNumeral, numeral_eq, digitsValue_zeros_append]

/-! ## reading -/

/-- once a digit other than zero is read, every further one is written as it is -/
theorem toDigits_append_of_pos {acc : Nat} (hacc : 0 < acc) {s : List Char}
    (hs : ∀ c ∈ s, isDigit c = true) :
    Nat.toDigits 10 acc ++ s = Nat.toDigits 10 (Nat.ofDigitChars 10 s acc) := by
  induction s generalizing acc with
  | nil => rw [List.append_nil, Nat.ofDigitChars_nil]
  | cons c rest ih =>
    obtain ⟨hlt, hchar⟩ := digitChar_digitValue (hs c List.mem_cons_self)
    have hone : Nat.toDigits 10 acc ++ [c] = Nat.toDigits 10 (10 * acc + digitValue c) := by
      rw [← Nat.toDigits_append_toDigits (by decide) hacc hlt, Nat.toDigits_of_lt_base hlt, hchar]
    calc Nat.toDigits 10 acc ++ c :: rest
        = (Nat.toDigits 10 acc ++ [c]) ++ rest := by rw [List.append_assoc]; rfl
      _ = Nat.toDigits 10 (10 * acc + digitValue c) ++ rest := by rw [hone]
      _ = Nat.toDigits 10 (Nat.ofDigitChars 10 rest (10 * acc + digitValue c)) :=
        ih (by omega) fun d hd => hs d (List.mem_cons_of_mem _ hd)

/-- digits are those of their value, behind some zeros -/
theorem toDigits_digitsValue {s : List Char} (hne : s ≠ []) (hs : ∀ c ∈ s, isDigit c = true) :
    ∃ zeros, s = List.replicate zeros '0' ++ Nat.toDigits 10 (digitsValue s) := by
  induction s with
  | nil => exact absurd rfl hne
  | cons c rest ih =>
    have hrest : ∀ d ∈ rest, isDigit d = true := fun d hd => hs d (List.mem_cons_of_mem _ hd)
    obtain ⟨hlt, hchar⟩ := digitChar_digitValue (hs c List.mem_cons_self)
    have hvalue : digitsValue (c :: rest) = Nat.ofDigitChars 10 rest (digitValue c) := by
      rw [digitsValue_eq, Nat.ofDigitChars_cons, Nat.mul_zero, Nat.zero_add]
      rfl
    by_cases hzero : digitValue c = 0
    · have hc : c = '0' := by rw [← hchar, hzero]; rfl
      rw [hzero, ← digitsValue_eq] at hvalue
      rcases rest with _ | ⟨d, more⟩
      · refine ⟨0, ?_⟩
        rw [hvalue, hc]
        rfl
      · obtain ⟨zeros, hmore⟩ := ih (List.cons_ne_nil _ _) hrest
        refine ⟨zeros + 1, ?_⟩
        rw [hvalue, List.replicate_succ, List.cons_append, ← hmore, hc]
    · refine ⟨0, ?_⟩
      have hfirst : Nat.toDigits 10 (digitValue c) = [c] := by
        rw [Nat.toDigits_of_lt_base hlt, hchar]
      rw [hvalue, ← toDigits_append_of_pos (Nat.pos_of_ne_zero hzero) hrest, hfirst]
      rfl

theorem readNat_eq_some_iff {s : List Char} {n : Nat} :
    readNat s = some n ↔ (s ≠ [] ∧ ∀ c ∈ s, isDigit c = true) ∧ digitsValue s = n := by
  have hdigits : (!s.isEmpty && s.all isDigit) = true ↔ s ≠ [] ∧ ∀ c ∈ s, isDigit c = true := by
    rw [Bool.and_eq_true, Bool.not_eq_true', List.isEmpty_eq_false_iff, List.all_eq_true]
  unfold readNat
  split
  next h => rw [Option.some.injEq, ← hdigits, and_iff_right h]
  next h => exact ⟨nofun, fun ⟨hs, _⟩ => absurd (hdigits.2 hs) h⟩

theorem readWord_paddedNumeral (zeros : Nat) (n : UInt64) :
    readWord (paddedNumeral zeros n) = some n := by
  have hne : paddedNumeral zeros n ≠ [] :=
    List.append_ne_nil_of_right_ne_nil _ (numeral_ne_nil n)
  have hread : readNat (paddedNumeral zeros n) = some n.toNat :=
    readNat_eq_some_iff.2 ⟨⟨hne, fun _ hc => isDigit_of_mem_paddedNumeral hc⟩,
      digitsValue_paddedNumeral zeros n⟩
  have hword : n.toNat < wordBound := n.toNat_lt
  unfold readWord
  rw [hread]
  show (if n.toNat < wordBound then some (UInt64.ofNat n.toNat) else none) = some n
  rw [if_pos hword, UInt64.ofNat_toNat]

/-- **what is read as a number is its numeral behind some zeros** -/
theorem readWord_eq_some_iff {s : List Char} {n : UInt64} :
    readWord s = some n ↔ ∃ zeros, s = paddedNumeral zeros n := by
  constructor
  · intro h
    unfold readWord at h
    split at h
    next m hm =>
      split at h
      next hlt =>
        obtain ⟨⟨hne, hs⟩, rfl⟩ := readNat_eq_some_iff.1 hm
        obtain rfl := Option.some.inj h
        obtain ⟨zeros, hz⟩ := toDigits_digitsValue hne hs
        have hsame : (UInt64.ofNat (digitsValue s)).toNat = digitsValue s :=
          UInt64.toNat_ofNat_of_lt hlt
        refine ⟨zeros, ?_⟩
        rw [paddedNumeral, numeral_eq, hsame]
        exact hz
      next => cases h
    next => cases h
  · rintro ⟨zeros, rfl⟩
    exact readWord_paddedNumeral zeros n

/-! ## where digits end -/

theorem takeDigits_append {digits rest : List Char} {c : Char}
    (hd : ∀ d ∈ digits, isDigit d = true) (hc : isDigit c = false) :
    takeDigits (digits ++ c :: rest) = (digits, c :: rest) := by
  unfold takeDigits
  rw [takeWhile_stop hd hc, dropWhile_stop hd hc]

theorem takeDigits_eq {s digits rest : List Char} (h : takeDigits s = (digits, rest)) :
    s = digits ++ rest := by
  obtain ⟨rfl, rfl⟩ := Prod.mk.inj h
  exact List.takeWhile_append_dropWhile.symm

theorem isDigit_of_mem_numeral {n : UInt64} {c : Char} (h : c ∈ numeral n) : isDigit c = true :=
  isDigit_of_mem_paddedNumeral (List.mem_append_right (List.replicate 0 '0') h)

theorem numeral_inj {m n : UInt64} (h : numeral m = numeral n) : m = n := by
  have hm : readWord (numeral m) = some m := readWord_paddedNumeral 0 m
  have hn : readWord (numeral n) = some n := readWord_paddedNumeral 0 n
  rw [h, hn] at hm
  exact (Option.some.inj hm).symm

theorem numeral_append_inj {m n : UInt64} {c d : Char} {s t : List Char} (hc : isDigit c = false)
    (hd : isDigit d = false) (h : numeral m ++ c :: s = numeral n ++ d :: t) :
    m = n ∧ c :: s = d :: t := by
  have hm : takeDigits (numeral m ++ c :: s) = (numeral m, c :: s) :=
    takeDigits_append (fun _ => isDigit_of_mem_numeral) hc
  have hn : takeDigits (numeral n ++ d :: t) = (numeral n, d :: t) :=
    takeDigits_append (fun _ => isDigit_of_mem_numeral) hd
  rw [h, hn] at hm
  obtain ⟨hdigits, hrest⟩ := Prod.mk.inj hm
  exact ⟨(numeral_inj hdigits).symm, hrest.symm⟩

/-- behind one mark, numbers in front of a separator can be told apart, and so can what follows it -/
theorem numbered_inj {mark separator s t : String} {m n : UInt64} {c : Char}
    (hseparator : separator.toList = [c]) (hc : isDigit c = false)
    (h : mark ++ toString m ++ separator ++ s = mark ++ toString n ++ separator ++ t) :
    m = n ∧ s = t := by
  rw [String.append_assoc, String.append_assoc, String.append_assoc, String.append_assoc,
    String.append_right_inj] at h
  have hlists : numeral m ++ c :: s.toList = numeral n ++ c :: t.toList := by
    have hlists := congrArg String.toList h
    rw [String.toList_append, String.toList_append, String.toList_append, String.toList_append,
      hseparator] at hlists
    exact hlists
  obtain ⟨hm, hrest⟩ := numeral_append_inj hc hc hlists
  exact ⟨hm, String.toList_inj.1 (List.cons.inj hrest).2⟩

end ProxyMesh.Text
