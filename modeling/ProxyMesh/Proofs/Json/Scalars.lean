import ProxyMesh.Json.Printer
import ProxyMesh.Json.Tree
import ProxyMesh.Proofs.Text.Numerals

/-!
# Numbers and texts read back

What the printer writes for a whole number of 64 bits and for a text is read as that number and that
text, whatever follows.

* `Stops`                 what follows does not go on with the digits;
* `Numeral.chars`, `WellFormed`   how a numeral is written, and what it has to keep to;
* `readNumeral_chars`     **a numeral is read up to where its digits stop**;
* `value_numeral`         a whole number has its own value, which is no binary64 value;
* `readText_quoted`       **a text between quotes is read back**, escapes and all.
-/

namespace ProxyMesh.Json

/-! ## numerals -/

namespace Numeral

def fractionChars (n : Numeral) : List Char := n.fraction.elim [] fun digits => '.' :: digits

def exponentChars (n : Numeral) : List Char :=
  n.exponent.elim [] fun e => 'e' :: (if e.1 then '-' else '+') :: e.2

/-- a numeral as it is written -/
def chars (n : Numeral) : List Char :=
  (if n.negative then ['-'] else []) ++ (n.whole ++ (n.fractionChars ++ n.exponentChars))

/-- all parts that are there have digits, and no zero stands in front of others -/
structure WellFormed (n : Numeral) : Prop where
  whole_ne : n.whole ≠ []
  whole : ∀ c ∈ n.whole, Tree.isDigit c = true
  lead : ∀ c more, n.whole ≠ '0' :: c :: more
  fraction_ne : ∀ digits ∈ n.fraction, digits ≠ []
  fraction : ∀ digits ∈ n.fraction, ∀ c ∈ digits, Tree.isDigit c = true
  exponent_ne : ∀ e ∈ n.exponent, e.2 ≠ []
  exponent : ∀ e ∈ n.exponent, ∀ c ∈ e.2, Tree.isDigit c = true

end Numeral

namespace Tree

/-- the next character is no part of a number -/
def Stops (s : List Char) : Prop :=
  ∀ c ∈ s.head?, isDigit c = false ∧ c ≠ '.' ∧ c ≠ 'e' ∧ c ≠ 'E'

theorem readDigits_append {digits rest : List Char} (hne : digits ≠ [])
    (hdigits : ∀ c ∈ digits, isDigit c = true) (hrest : ∀ c ∈ rest.head?, isDigit c = false) :
    readDigits (digits ++ rest) = some (digits, rest) := by
  have hstop : rest.takeWhile isDigit = [] ∧ rest.dropWhile isDigit = rest := by
    cases rest with
    | nil => exact ⟨rfl, rfl⟩
    | cons c more => simp [hrest c rfl]
  obtain ⟨c, more, rfl⟩ := List.exists_cons_of_ne_nil hne
  unfold readDigits
  rw [List.takeWhile_append_of_pos hdigits, List.dropWhile_append_of_pos hdigits, hstop.1, hstop.2,
    List.append_nil]

section
variable {n : Numeral} {rest : List Char} (h : n.WellFormed) (hrest : Stops rest)
include h hrest

theorem readExponent_chars : readExponent (n.exponentChars ++ rest) = some (n.exponent, rest) := by
  unfold Numeral.exponentChars
  cases he : n.exponent with
  | none =>
    cases rest with
    | nil => rfl
    | cons c more =>
      obtain ⟨-, -, hlower, hupper⟩ := hrest c rfl
      simp [readExponent, hlower, hupper]
  | some e =>
    obtain ⟨down, digits⟩ := e
    have hread := readDigits_append (h.exponent_ne _ he) (h.exponent _ he) fun c hc => (hrest c hc).1
    cases down <;> simp [readExponent, hread]

omit h in
theorem exponentChars_stops : ∀ c ∈ (n.exponentChars ++ rest).head?, isDigit c = false ∧ c ≠ '.' := by
  unfold Numeral.exponentChars
  cases n.exponent with
  | none => exact fun c hc => ⟨(hrest c hc).1, (hrest c hc).2.1⟩
  | some e =>
    rintro c ⟨⟩
    decide

theorem readFraction_chars : readFraction (n.fractionChars ++ (n.exponentChars ++ rest)) =
    some (n.fraction, n.exponentChars ++ rest) := by
  have hstop := exponentChars_stops (n := n) hrest
  unfold Numeral.fractionChars
  cases hf : n.fraction with
  | none =>
    show readFraction (n.exponentChars ++ rest) = _
    unfold readFraction
    split
    next hdot => exact absurd rfl (hstop '.' (by rw [hdot]; rfl)).2
    · rfl
  | some digits =>
    have hread := readDigits_append (h.fraction_ne _ hf) (h.fraction _ hf) fun c hc => (hstop c hc).1
    show (readDigits (digits ++ _)).map _ = _
    rw [hread]
    rfl

theorem readWhole_chars : readWhole (n.whole ++ (n.fractionChars ++ (n.exponentChars ++ rest))) =
    some (n.whole, n.fractionChars ++ (n.exponentChars ++ rest)) := by
  have hstop : ∀ c ∈ (n.fractionChars ++ (n.exponentChars ++ rest)).head?, isDigit c = false := by
    unfold Numeral.fractionChars
    cases n.fraction with
    | none => exact fun c hc => (exponentChars_stops hrest c hc).1
    | some digits =>
      rintro c ⟨⟩
      rfl
  unfold readWhole
  rw [readDigits_append h.whole_ne h.whole hstop]
  dsimp only [Option.bind_eq_bind, Option.bind_some]
  split
  next c more hzero => exact absurd hzero (h.lead c more)
  · rfl

/-- **a numeral is read up to where its digits stop** -/
theorem readNumeral_chars : readNumeral (n.chars ++ rest) = some (n, rest) := by
  have hwhole := readWhole_chars h hrest
  have hfraction := readFraction_chars h hrest
  have hexponent := readExponent_chars h hrest
  unfold readNumeral Numeral.chars
  rw [List.append_assoc, List.append_assoc, List.append_assoc]
  obtain ⟨negative, whole, fraction, exponent⟩ := n
  cases negative with
  | false =>
    obtain ⟨c, more, rfl⟩ := List.exists_cons_of_ne_nil h.whole_ne
    have hsign : c ≠ '-' := by
      rintro rfl
      exact absurd (h.whole '-' List.mem_cons_self) (by decide)
    simp only [List.cons_append] at hwhole
    simp [hsign, hwhole, hfraction, hexponent]
  | true => simp [hwhole, hfraction, hexponent]

end

/-! ## whole numbers -/

theorem toDigits_eq_cons {n : Nat} (h : 0 < n) : ∃ c rest, Nat.toDigits 10 n = c :: rest ∧ c ≠ '0' := by
  induction n using Nat.strongRecOn with
  | ind n ih =>
    by_cases hlt : n < 10
    · refine ⟨Nat.digitChar n, [], Nat.toDigits_of_lt_base hlt, fun hzero => ?_⟩
      have hval : (Nat.digitChar n).toNat = '0'.toNat := congrArg Char.toNat hzero
      rw [Nat.toNat_digitChar_of_lt_ten hlt] at hval
      have : '0'.toNat = 48 := rfl
      omega
    · obtain ⟨c, rest, hlead, hc⟩ := ih (n / 10) (by omega) (by omega)
      refine ⟨c, rest ++ [Nat.digitChar (n % 10)], ?_, hc⟩
      have hsplit : Nat.toDigits 10 (n / 10) ++ Nat.toDigits 10 (n % 10) = Nat.toDigits 10 n := by
        rw [Nat.toDigits_append_toDigits (by decide) (by omega) (by omega)]
        congr 1
        omega
      rw [← hsplit, hlead, Nat.toDigits_of_lt_base (by omega)]
      rfl

theorem isDigit_toDigits {n : Nat} : ∀ c ∈ Nat.toDigits 10 n, isDigit c = true :=
  fun _ hc => Text.isDigit_of_mem_toDigits hc

theorem toDigits_lead (n : Nat) (c : Char) (more : List Char) : Nat.toDigits 10 n ≠ '0' :: c :: more := by
  intro hzero
  rcases Nat.eq_zero_or_pos n with rfl | hpos
  · cases hzero
  · obtain ⟨d, digits, hd, hne⟩ := toDigits_eq_cons hpos
    rw [hd] at hzero
    exact hne (List.cons.inj hzero).1

/-- a whole number as it is written -/
def numeral (negative : Bool) (n : Nat) : Numeral := ⟨negative, Nat.toDigits 10 n, none, none⟩

theorem wellFormed_numeral (negative : Bool) (n : Nat) : (numeral negative n).WellFormed :=
  ⟨Nat.toDigits_ne_nil, isDigit_toDigits, toDigits_lead n, nofun, nofun, nofun, nofun⟩

end Tree

namespace Numeral

theorem le_ofDigitChars (l : List Char) (acc : Nat) : acc ≤ Nat.ofDigitChars 10 l acc := by
  induction l generalizing acc with
  | nil => exact Nat.le_refl _
  | cons c rest ih =>
    rw [Nat.ofDigitChars_cons]
    exact Nat.le_trans (by omega) (ih _)

theorem takeWhole_eq {l : List Char} {acc : Nat} (h : Nat.ofDigitChars 10 l acc ≤ significandMax) :
    takeWhole l acc = (Nat.ofDigitChars 10 l acc, 0) := by
  induction l generalizing acc with
  | nil => rfl
  | cons c rest ih =>
    have hvalue : Nat.ofDigitChars 10 (c :: rest) acc = Nat.ofDigitChars 10 rest (acc * 10 + digit c) := by
      rw [Nat.ofDigitChars_cons, Nat.mul_comm]
      rfl
    rw [hvalue] at h ⊢
    unfold takeWhole
    rw [if_pos (Nat.le_trans (le_ofDigitChars rest _) h)]
    exact ih h

theorem value_numeral {n : Int} (hlow : -(signedBound : Int) ≤ n) (hhigh : n < wordBound) :
    (Tree.numeral (decide (n < 0)) n.natAbs).value = some (.int n) := by
  have hsigned : signedBound < wordBound := by decide
  have hfits : n.natAbs ≤ significandMax := by
    unfold significandMax
    omega
  have htaken : takeWhole (Nat.toDigits 10 n.natAbs) 0 = (n.natAbs, 0) := by
    have hsame : Nat.ofDigitChars 10 (Nat.toDigits 10 n.natAbs) 0 = n.natAbs :=
      Nat.ofDigitChars_ten_toDigits
    rw [takeWhole_eq (hsame.symm ▸ hfits), hsame]
  unfold value Tree.numeral
  dsimp only
  rw [htaken]
  dsimp only
  rw [if_neg (by decide)]
  by_cases hneg : n < 0
  · have hkept : ¬((decide (n.natAbs = 0) || decide (signedBound < n.natAbs)) = true) := by
      rw [Bool.or_eq_true, decide_eq_true_eq, decide_eq_true_eq]
      omega
    have habs : (-(n.natAbs : Int)) = n := by omega
    rw [decide_eq_true hneg, if_neg (by decide), if_neg hkept, habs]
  · have habs : (n.natAbs : Int) = n := by omega
    rw [decide_eq_false hneg, if_pos (by decide), habs]

end Numeral

namespace Tree

/-! ## texts -/

/-- a character that has an escape of its own or is written as a code unit -/
theorem readText_escaped (c : Char) (hc : quoteChar c ≠ [c]) (s : List Char) :
    readText none (quoteChar c ++ s) = ahead c (readText none s) := by
  by_cases hquote : c = '"'
  · subst hquote; rfl
  by_cases hback : c = '\\'
  · subst hback; rfl
  by_cases hbell : c = '\x08'
  · subst hbell; rfl
  by_cases hfeed : c = '\x0c'
  · subst hfeed; rfl
  by_cases hline : c = '\n'
  · subst hline; rfl
  by_cases hreturn : c = '\r'
  · subst hreturn; rfl
  by_cases htab : c = '\t'
  · subst htab; rfl
  have hplain : quoteChar c = if c.toNat < 0x20 then
      ['\\', 'u', '0', '0', hexDigit (c.toNat / 16), hexDigit (c.toNat % 16)] else [c] := by
    simp [quoteChar, hquote, hback, hbell, hfeed, hline, hreturn, htab]
  have hsmall : c.toNat < 0x20 :=
    Decidable.byContradiction fun hbig => hc (hplain.trans (if_neg hbig))
  have hunit : ∀ n < 0x20, codeUnit? '0' '0' (hexDigit (n / 16)) (hexDigit (n % 16)) = some n ∧
      isLowSurrogate n = false ∧ isHighSurrogate n = false := by decide
  obtain ⟨hcode, hlow, hhigh⟩ := hunit c.toNat hsmall
  rw [hplain, if_pos hsmall]
  simp [readText, hcode, hlow, hhigh, unpaired]

theorem readText_plain (c : Char) (hc : quoteChar c = [c]) (s : List Char) :
    readText none (c :: s) = ahead c (readText none s) := by
  have hquote : c ≠ '"' := by
    rintro rfl
    exact absurd hc (by decide)
  have hback : c ≠ '\\' := by
    rintro rfl
    exact absurd hc (by decide)
  have hshown : ¬c.toNat < 0x20 := by
    intro hsmall
    have hall : ∀ n < 0x20, quoteChar (Char.ofNat n) ≠ [Char.ofNat n] := by decide
    exact hall c.toNat hsmall (by rw [Char.ofNat_toNat]; exact hc)
  rw [readText]
  · rw [if_neg hshown]
    rfl
  · exact hquote
  · exact fun _ _ _ _ _ h _ => hback h
  · exact fun _ _ h _ => hback h

/-- **a text between quotes is read back** -/
theorem readText_quoted (s rest : List Char) :
    readText none (s.flatMap quoteChar ++ '"' :: rest) = some (some s, rest) := by
  induction s with
  | nil => rfl
  | cons c more ih =>
    rw [List.flatMap_cons, List.append_assoc]
    by_cases hc : quoteChar c = [c]
    · rw [hc, List.singleton_append, readText_plain c hc, ih]
      rfl
    · rw [readText_escaped c hc, ih]
      rfl

end Tree
end ProxyMesh.Json
