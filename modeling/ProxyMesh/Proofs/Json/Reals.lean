import ProxyMesh.Proofs.Json.Scalars

/-!
# Binary64 numbers as they are written

A finite binary64 number is written as a numeral: digits with a point, with an exponent, or with both.
What is read of it is a number again; which one, is a matter of rounding.

* `Decimal.Normal`        a decimal number that is zero only without an exponent;
* `normal_shortest`       the shortest decimal number of a value is such a one;
* `exists_positional`, `exists_scientific`   digits around a point, or before an exponent;
* `exists_numeral`        **a finite number is written as a numeral**.
-/

namespace ProxyMesh

/-! ## the digits -/

/-- zero has no exponent -/
def Decimal.Normal (d : Decimal) : Prop := d.digits = 0 → d.exponent = 0

theorem Decimal.stripZeros_pos (fuel : Nat) {d : Decimal} (h : 0 < d.digits) :
    0 < (stripZeros fuel d).digits := by
  induction fuel generalizing d with
  | zero => exact h
  | succ fuel ih =>
    unfold stripZeros
    split
    next hzero =>
      rw [Bool.and_eq_true, beq_iff_eq] at hzero
      have hquotient : 0 < d.digits / 10 := by omega
      exact ih hquotient
    · exact h

namespace Binary64

theorem le_roundHalfEven (num den : Nat) : num / den ≤ roundHalfEven num den := by
  unfold roundHalfEven
  dsimp only
  split
  · exact Nat.le_refl _
  · split <;> omega

theorem gridHit_pos {i : Interval} {num den k : Nat} {e : Int} (h : gridHit i num den e = some k) :
    0 < k := by
  unfold gridHit at h
  dsimp only at h
  have hlower : ∀ {b : Bool} {n : Nat}, (b && n != 0) = true → 0 < n := by
    intro b n hb
    rw [Bool.and_eq_true, bne_iff_ne] at hb
    omega
  split at h
  next hin _ =>
    obtain rfl := Option.some.inj h
    exact Nat.lt_of_lt_of_le (hlower hin) (le_roundHalfEven _ _)
  next hin _ =>
    obtain rfl := Option.some.inj h
    exact hlower hin
  · obtain rfl := Option.some.inj h
    exact Nat.succ_pos _
  · cases h

theorem firstHit_pos (i : Interval) (num den more : Nat) (e : Int) :
    0 < (firstHit i num den more e).digits := by
  induction more generalizing e with
  | zero => exact Nat.le_max_left 1 _
  | succ more ih =>
    unfold firstHit
    split
    next hhit => exact gridHit_pos hhit
    · exact ih _

theorem normal_shortest (x : Binary64) : x.shortest.Normal := by
  unfold shortest
  split
  · exact fun _ => rfl
  · intro hzero
    have hpos := Decimal.stripZeros_pos 20 (firstHit_pos x.interval x.ratio.1 x.ratio.2 17
      (firstPlace x.ratio.1 x.ratio.2
        (((x.ratio.1.log2 : Int) - (x.ratio.2.log2 : Int)) * 30103 / 100000)))
    exact absurd hzero (Nat.pos_iff_ne_zero.1 hpos)

end Binary64

/-! ## how they are laid out -/

namespace Json

open ProxyMesh.Json.Tree (isDigit isDigit_toDigits toDigits_lead toDigits_eq_cons)

theorem isDigit_zeros (n : Nat) : ∀ c ∈ List.replicate n '0', isDigit c = true := by
  intro c hc
  rw [List.eq_of_mem_replicate hc]
  rfl

@[simp] theorem toList_zeros (n : Nat) : (Layout.zeros n).toList = List.replicate n '0' :=
  String.toList_ofList

theorem exists_positional {d : Decimal} (h : d.Normal) (negative : Bool) :
    ∃ whole fraction, (⟨negative, whole, some fraction, none⟩ : Numeral).WellFormed ∧
      (Layout.spellPositional ".0" d).toList = whole ++ '.' :: fraction := by
  obtain ⟨digits, exponent⟩ := d
  unfold Layout.spellPositional
  dsimp only
  cases exponent with
  | ofNat e =>
    refine ⟨Nat.toDigits 10 digits ++ List.replicate e '0', ['0'], ⟨?_, ?_, ?_, ?_, ?_, nofun, nofun⟩, ?_⟩
    · simp [Nat.toDigits_ne_nil]
    · intro c hc
      rcases List.mem_append.1 hc with hc | hc
      · exact isDigit_toDigits c hc
      · exact isDigit_zeros e c hc
    · intro c more hlead
      rcases Nat.eq_zero_or_pos digits with rfl | hpos
      · obtain rfl : e = 0 := Int.ofNat.inj (h rfl)
        cases hlead
      · obtain ⟨b, rest, hdigits, hb⟩ := toDigits_eq_cons hpos
        rw [hdigits, List.cons_append] at hlead
        exact hb (List.cons.inj hlead).1
    · rintro _ ⟨⟩
      exact List.cons_ne_nil _ _
    · rintro _ ⟨⟩ c hc
      rw [List.mem_singleton.1 hc]
      rfl
    · simp
  | negSucc e =>
    have hpos : 0 < digits := Nat.pos_of_ne_zero fun hzero => absurd (h hzero) (by simp)
    obtain ⟨b, rest, hdigits, hb⟩ := toDigits_eq_cons hpos
    have hall : ∀ c ∈ Nat.toDigits 10 digits, isDigit c = true := isDigit_toDigits
    by_cases hplaces : e + 1 < (Nat.toDigits 10 digits).length
    · obtain ⟨count, hcount⟩ : ∃ m, (Nat.toDigits 10 digits).length - (e + 1) = m + 1 :=
        ⟨(Nat.toDigits 10 digits).length - (e + 1) - 1, by omega⟩
      refine ⟨(Nat.toDigits 10 digits).take (count + 1), (Nat.toDigits 10 digits).drop (count + 1),
        ⟨?_, fun c hc => hall c (List.mem_of_mem_take hc), ?_, ?_, ?_, nofun, nofun⟩, ?_⟩
      · rw [hdigits]
        exact List.cons_ne_nil _ _
      · intro c more hlead
        rw [hdigits, List.take_succ_cons] at hlead
        exact hb (List.cons.inj hlead).1
      · rintro _ ⟨⟩ hnone
        have hlength := List.drop_eq_nil_iff.1 hnone
        omega
      · rintro _ ⟨⟩ c hc
        exact hall c (List.mem_of_mem_drop hc)
      · simp [hplaces, hcount]
    · refine ⟨['0'], List.replicate (e + 1 - (Nat.toDigits 10 digits).length) '0' ++
        Nat.toDigits 10 digits, ⟨List.cons_ne_nil _ _, ?_, nofun, ?_, ?_, nofun, nofun⟩, ?_⟩
      · intro c hc
        rw [List.mem_singleton.1 hc]
        rfl
      · rintro _ ⟨⟩
        simp [Nat.toDigits_ne_nil]
      · rintro _ ⟨⟩ c hc
        rcases List.mem_append.1 hc with hc | hc
        · exact isDigit_zeros _ c hc
        · exact hall c hc
      · simp [hplaces]

theorem exists_scientific (d : Decimal) (negative : Bool) :
    ∃ n : Numeral, n.negative = negative ∧ n.WellFormed ∧
      (Layout.spellScientific d).toList = n.whole ++ (n.fractionChars ++ n.exponentChars) := by
  obtain ⟨b, rest, hdigits⟩ :=
    List.exists_cons_of_ne_nil (Nat.toDigits_ne_nil (n := d.digits) (b := 10))
  have hall : ∀ c ∈ b :: rest, isDigit c = true := hdigits ▸ isDigit_toDigits
  refine ⟨⟨negative, [b], if rest = [] then none else some rest,
    some (decide (d.place < 0), Nat.toDigits 10 d.place.natAbs)⟩, rfl,
    ⟨List.cons_ne_nil _ _, ?_, nofun, ?_, ?_, ?_, ?_⟩, ?_⟩
  · intro c hc
    rw [List.mem_singleton.1 hc]
    exact hall b List.mem_cons_self
  · intro digits hd
    split at hd
    · cases hd
    · obtain rfl := Option.some.inj hd
      assumption
  · intro digits hd c hc
    split at hd
    · cases hd
    · obtain rfl := Option.some.inj hd
      exact hall c (List.mem_cons_of_mem _ hc)
  · rintro _ ⟨⟩
    exact Nat.toDigits_ne_nil
  · rintro _ ⟨⟩
    exact isDigit_toDigits
  · unfold Layout.spellScientific Numeral.fractionChars Numeral.exponentChars
    dsimp only
    rw [show (toString d.digits).toList = Nat.toDigits 10 d.digits from Nat.toList_repr, hdigits]
    cases rest with
    | nil => by_cases hneg : d.place < 0 <;> simp [hneg]
    | cons c more => by_cases hneg : d.place < 0 <;> simp [hneg]

/-- **a finite number is written as a numeral** -/
theorem exists_numeral {x : Binary64} (h : x.isFinite = true) :
    ∃ n : Numeral, n.WellFormed ∧ (Layout.json.text x).toList = n.chars := by
  have hmagnitude : x.magnitude < Binary64.infinityBits := of_decide_eq_true h
  have hnan : x.isNaN = false := decide_eq_false (by omega)
  have hinfinite : x.isInfinite = false := decide_eq_false (by omega)
  have hsign : ∀ tail : String, ((if x.isNegative then "-" else "") ++ tail).toList =
      (if x.isNegative then ['-'] else []) ++ tail.toList := by
    intro tail
    cases x.isNegative <;> simp
  unfold Layout.text
  simp only [hnan, hinfinite, Bool.false_eq_true, if_false]
  rw [hsign]
  by_cases hplace : Layout.json.isPositional x.shortest.place = true
  · obtain ⟨whole, fraction, hwell, htext⟩ := exists_positional x.normal_shortest x.isNegative
    refine ⟨_, hwell, ?_⟩
    rw [if_pos hplace, show Layout.json.wholeSuffix = ".0" from rfl, htext]
    simp [Numeral.chars, Numeral.fractionChars, Numeral.exponentChars]
  · obtain ⟨n, hnegative, hwell, htext⟩ := exists_scientific x.shortest x.isNegative
    refine ⟨n, hwell, ?_⟩
    rw [if_neg hplace, htext, ← hnegative]
    rfl

end Json
end ProxyMesh
