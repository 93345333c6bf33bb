import Mathlib.Tactic.Linarith
import Mathlib.Tactic.Ring
import ProxyMesh.Number.Scaled

/-!
# A quotient that is rounded twice

A quotient is first rounded to the places that fit and then to hundredths.  The second rounding must
not see a tie that the first one made.  A quotient of a word and a half word that is no tie is too far
from every tie for that: farther than half a unit of the last place that fits.

* `roundHalfDown_eq_iff`         between which ties a number is that is rounded to `k`;
* `Scaled.IsQuotient`            a correctly rounded quotient, however its ties are broken;
* `hundredths_of_isQuotient`     **rounded twice is rounded once**;
* `hundredths_quotient_anti`     a greater divisor never gives more, whatever is divided.
-/

namespace ProxyMesh

section
variable {num den k a b c d : Nat}

/-! ## a whole number of units -/

theorem roundHalfDown_bounds (hden : 0 < den) (num : Nat) :
    2 * roundHalfDown num den * den < 2 * num + den ∧
      2 * num ≤ (2 * roundHalfDown num den + 1) * den := by
  have hnum : den * (num / den) + num % den = num := Nat.div_add_mod num den
  have hrest : num % den < den := Nat.mod_lt num hden
  unfold roundHalfDown
  generalize num / den = q at *
  generalize num % den = r at *
  split
  · constructor <;> linarith
  · constructor <;> linarith

theorem roundHalfDown_eq_iff (hden : 0 < den) : roundHalfDown num den = k ↔
    2 * k * den < 2 * num + den ∧ 2 * num ≤ (2 * k + 1) * den := by
  constructor
  · rintro rfl
    exact roundHalfDown_bounds hden num
  · rintro ⟨hlow, hhigh⟩
    obtain ⟨hlow', hhigh'⟩ := roundHalfDown_bounds hden num
    apply Nat.le_antisymm
    · have h : 2 * roundHalfDown num den * den < (2 * k + 2) * den := by linarith
      have := Nat.lt_of_mul_lt_mul_right h
      omega
    · have h : 2 * k * den < (2 * roundHalfDown num den + 2) * den := by linarith
      have := Nat.lt_of_mul_lt_mul_right h
      omega

theorem roundHalfDown_mono (hb : 0 < b) (hd : 0 < d) (h : a * d ≤ c * b) :
    roundHalfDown a b ≤ roundHalfDown c d := by
  obtain ⟨hlow, -⟩ := roundHalfDown_bounds hb a
  obtain ⟨-, hhigh⟩ := roundHalfDown_bounds hd c
  have hlow' := Nat.mul_lt_mul_of_pos_right hlow hd
  have hhigh' := Nat.mul_le_mul_right b hhigh
  have hbetween : 2 * roundHalfDown a b * (b * d) < (2 * roundHalfDown c d + 2) * (b * d) := by
    linarith
  have := Nat.lt_of_mul_lt_mul_right hbetween
  omega

theorem roundHalfDown_congr (hb : 0 < b) (hd : 0 < d) (h : a * d = c * b) :
    roundHalfDown a b = roundHalfDown c d :=
  Nat.le_antisymm (roundHalfDown_mono hb hd h.le) (roundHalfDown_mono hd hb h.ge)

theorem roundHalfEven_bounds (hden : 0 < den) (num : Nat) :
    2 * (roundHalfEven num den * den) ≤ 2 * num + den ∧
      2 * num ≤ 2 * (roundHalfEven num den * den) + den := by
  have hnum : den * (num / den) + num % den = num := Nat.div_add_mod num den
  have hrest : num % den < den := Nat.mod_lt num hden
  unfold roundHalfEven
  dsimp only
  generalize num / den = q at *
  generalize num % den = r at *
  split
  · constructor <;> linarith
  · split
    · constructor <;> linarith
    · -- a tie is half a unit away from both neighbours
      have htie : 2 * r = den := by omega
      rcases Nat.mod_two_eq_zero_or_one q with hq | hq
      · rw [hq]
        constructor <;> linarith
      · rw [hq]
        constructor <;> linarith

theorem roundHalfEven_of_whole (hden : 0 < den) (h : num % den = 0) :
    roundHalfEven num den = num / den := by
  unfold roundHalfEven
  dsimp only
  rw [h, if_pos (by omega)]

theorem even_of_tie (hden : 0 < den) (h : 2 * num = (2 * k + 1) * den) :
    roundHalfEven num den % 2 = 0 := by
  have hwhole : num / den = k := by
    apply Nat.div_eq_of_lt_le
    · linarith
    · linarith
  have hnum : den * (num / den) + num % den = num := Nat.div_add_mod num den
  have htie : 2 * (num % den) = den := by
    rw [hwhole] at hnum
    linarith
  unfold roundHalfEven
  dsimp only
  rw [htie, if_neg (Nat.lt_irrefl den), if_neg (Nat.lt_irrefl den)]
  omega

theorem roundHalfEven_mono (hb : 0 < b) (hd : 0 < d) (h : a * d ≤ c * b) :
    roundHalfEven a b ≤ roundHalfEven c d := by
  by_contra hlt
  obtain ⟨i, hi⟩ : ∃ i, roundHalfEven a b = i := ⟨_, rfl⟩
  obtain ⟨j, hj⟩ : ∃ j, roundHalfEven c d = j := ⟨_, rfl⟩
  have hlow := Nat.mul_le_mul_right d (roundHalfEven_bounds hb a).1
  have hhigh := Nat.mul_le_mul_right b (roundHalfEven_bounds hd c).2
  rw [hi] at hlow
  rw [hj] at hhigh
  have hnext : i = j + 1 := by
    have hbetween : 2 * i * (b * d) ≤ (2 * j + 2) * (b * d) := by linarith
    have := Nat.le_of_mul_le_mul_right hbetween (Nat.mul_pos hb hd)
    omega
  subst hnext
  -- both are on the tie between the two results, and of those only one is even
  have hc : 2 * c = (2 * j + 1) * d := by
    apply Nat.eq_of_mul_eq_mul_right hb
    linarith
  have ha : 2 * a = (2 * j + 1) * b := by
    apply Nat.eq_of_mul_eq_mul_right hd
    linarith
  have hleft := even_of_tie hb ha
  have hright := even_of_tie hd hc
  omega

end

/-! ## a number with places -/

namespace Scaled

/-- a quotient rounded to the nearest, in whichever way ties are broken: exact, or with all places that
there may be, or with so many that it would not fit with one more -/
structure IsQuotient (x : Scaled) (num den : Nat) : Prop where
  low : 2 * (num * 10 ^ x.places) ≤ 2 * (x.mantissa * den) + den
  high : 2 * (x.mantissa * den) ≤ 2 * (num * 10 ^ x.places) + den
  fine : x.mantissa * den = num * 10 ^ x.places ∨ x.places = placesMax ∨
    mantissaBound * den ≤ num * 10 ^ (x.places + 1) + den

section
variable {num den limit places : Nat} {x : Scaled}

theorem pow_pos_ten (n : Nat) : 0 < 10 ^ n := Nat.pow_pos (by decide)

theorem mantissaOf_eq (num den places : Nat) :
    mantissaOf num den places = roundHalfEven (num * 10 ^ places) den := rfl

theorem hundredths_eq (x : Scaled) :
    x.hundredths = roundHalfDown (100 * x.mantissa) (10 ^ x.places) := rfl

theorem fitPlaces_le : fitPlaces num den limit ≤ limit := by
  induction limit with
  | zero => exact Nat.le_refl 0
  | succ limit ih =>
    unfold fitPlaces
    split
    · exact Nat.le_refl _
    · exact Nat.le_succ_of_le ih

theorem not_fits (hmore : fitPlaces num den limit < places) (hlimit : places ≤ limit) :
    mantissaBound ≤ mantissaOf num den places := by
  induction limit with
  | zero => omega
  | succ limit ih =>
    unfold fitPlaces at hmore
    split at hmore
    · omega
    next hnot =>
      rcases Nat.lt_or_eq_of_le hlimit with hlt | rfl
      · exact ih hmore (by omega)
      · exact Nat.le_of_not_lt hnot

theorem fits_of_pos (h : 0 < fitPlaces num den limit) :
    mantissaOf num den (fitPlaces num den limit) < mantissaBound := by
  induction limit with
  | zero => exact absurd h (Nat.lt_irrefl 0)
  | succ limit ih =>
    unfold fitPlaces at h ⊢
    split
    next hfits => exact hfits
    next hnot =>
      rw [if_neg hnot] at h
      exact ih h

theorem isQuotient_quotient (hden : 0 < den) (num : Nat) : (quotient num den).IsQuotient num den := by
  unfold quotient
  split
  next hwhole =>
    have hexact : num / den * den = num * 10 ^ 0 := by
      rw [Nat.div_mul_cancel (Nat.dvd_of_mod_eq_zero hwhole), Nat.pow_zero, Nat.mul_one]
    exact ⟨by dsimp only; omega, by dsimp only; omega, Or.inl hexact⟩
  next =>
    obtain ⟨p, hp⟩ : ∃ p, fitPlaces num den placesMax = p := ⟨_, rfl⟩
    rw [hp]
    obtain ⟨hhigh, hlow⟩ := roundHalfEven_bounds hden (num * 10 ^ p)
    refine ⟨hlow, hhigh, ?_⟩
    have hle : p ≤ placesMax := hp ▸ fitPlaces_le
    rcases Nat.lt_or_eq_of_le hle with hlt | heq
    · have hmore : fitPlaces num den placesMax < p + 1 := by omega
      have hnext := Nat.mul_le_mul_right den (not_fits hmore hlt)
      have hbound := (roundHalfEven_bounds hden (num * 10 ^ (p + 1))).1
      rw [mantissaOf_eq] at hnext
      have hfull : mantissaBound * den ≤ num * 10 ^ (p + 1) + den := by omega
      exact Or.inr (Or.inr hfull)
    · exact Or.inr (Or.inl heq)

/-- the places of a quotient that is not exact are fine enough for every divisor -/
theorem fine_enough (h : x.IsQuotient num den) (hnum : num < wordBound) (hpos : 0 < den)
    (hden : den < halfWordBound) (hinexact : x.mantissa * den ≠ num * 10 ^ x.places) :
    100 * den < 10 ^ x.places := by
  rcases h.fine with hexact | hplaces | hfull
  · exact absurd hexact hinexact
  · rw [hplaces]
    unfold placesMax halfWordBound at *
    omega
  · by_contra hcoarse
    have hsmall : 10 ^ x.places ≤ 100 * den := Nat.le_of_not_lt hcoarse
    have hnum' : num * 10 ^ x.places ≤ (wordBound - 1) * (100 * den) :=
      Nat.mul_le_mul (Nat.le_sub_one_of_lt hnum) hsmall
    rw [Nat.pow_succ, ← Nat.mul_assoc] at hfull
    unfold mantissaBound wordBound at *
    omega

/-- **rounded twice is rounded once** -/
theorem hundredths_of_isQuotient (h : x.IsQuotient num den) (hnum : num < wordBound)
    (hpos : 0 < den) (hden : den < halfWordBound) :
    x.hundredths = roundHalfDown (100 * num) den := by
  have hunit : 0 < 10 ^ x.places := pow_pos_ten _
  by_cases hexact : x.mantissa * den = num * 10 ^ x.places
  · apply roundHalfDown_congr hunit hpos
    linarith
  have hfine := fine_enough h hnum hpos hden hexact
  obtain ⟨hlow, hhigh⟩ := h
  obtain ⟨k, hk⟩ : ∃ k, roundHalfDown (100 * num) den = k := ⟨_, rfl⟩
  obtain ⟨habove, hbelow⟩ := (roundHalfDown_eq_iff hpos).1 hk
  rw [hk]
  rw [hundredths_eq]
  generalize hP : 10 ^ x.places = P at *
  refine (roundHalfDown_eq_iff hunit).2 ⟨?_, ?_⟩
  · -- the quotient is above the lower tie by more than the first rounding takes away
    have hscaled := Nat.mul_le_mul_right P (Nat.succ_le_of_lt habove)
    apply Nat.lt_of_mul_lt_mul_left (a := den)
    linarith
  · rcases Nat.lt_or_eq_of_le hbelow with hlt | htie
    · have hscaled := Nat.mul_le_mul_right P (Nat.succ_le_of_lt hlt)
      apply Nat.le_of_mul_le_mul_left _ hpos
      linarith
    · -- a tie has three places, so the first rounding has nothing to add to it
      have hthree : 3 ≤ x.places := by
        by_contra hfew
        have hle := Nat.pow_le_pow_right (show 0 < 10 by decide) (show x.places ≤ 2 by omega)
        omega
      obtain ⟨Q, hQ⟩ : 10 ^ 3 ∣ P := hP ▸ Nat.pow_dvd_pow 10 hthree
      have hnum : num * P = 5 * (2 * k + 1) * Q * den := by
        calc num * P = 5 * Q * (2 * (100 * num)) := by rw [hQ]; ring
          _ = 5 * (2 * k + 1) * Q * den := by rw [htie]; ring
      have hnear : 2 * x.mantissa * den ≤ (2 * (5 * (2 * k + 1) * Q) + 1) * den := by linarith
      have hle := Nat.le_of_mul_le_mul_right hnear hpos
      have hmantissa : x.mantissa ≤ 5 * (2 * k + 1) * Q := by omega
      rw [hQ]
      linarith

/-! ## greater divisors -/

/-- the value of a quotient is that of its mantissa with the places that fit, also if it is whole -/
theorem hundredths_quotient (hden : 0 < den) (num : Nat) : (quotient num den).hundredths =
    roundHalfDown (100 * mantissaOf num den (fitPlaces num den placesMax))
      (10 ^ fitPlaces num den placesMax) := by
  unfold quotient
  split
  next hwhole =>
    obtain ⟨q, rfl⟩ := Nat.dvd_of_mod_eq_zero hwhole
    generalize fitPlaces (den * q) den placesMax = p
    have hmod : den * q * 10 ^ p % den = 0 := by
      rw [Nat.mul_assoc, Nat.mul_mod_right]
    have hmantissa : mantissaOf (den * q) den p = q * 10 ^ p := by
      rw [mantissaOf_eq, roundHalfEven_of_whole hden hmod, Nat.mul_assoc, Nat.mul_div_cancel_left _ hden]
    rw [hmantissa, Nat.mul_div_cancel_left _ hden]
    apply roundHalfDown_congr (pow_pos_ten 0) (pow_pos_ten p)
    linarith
  next => rfl

variable {den' : Nat}

theorem mantissaOf_anti (hden : 0 < den) (hle : den ≤ den') (num places : Nat) :
    mantissaOf num den' places ≤ mantissaOf num den places :=
  roundHalfEven_mono (Nat.lt_of_lt_of_le hden hle) hden (Nat.mul_le_mul_left _ hle)

theorem fitPlaces_mono (hden : 0 < den) (hle : den ≤ den') (num : Nat) :
    fitPlaces num den limit ≤ fitPlaces num den' limit := by
  by_contra hlt
  have hpos : 0 < fitPlaces num den limit := by omega
  have hfits := fits_of_pos hpos
  have hnot := not_fits (Nat.lt_of_not_le hlt) fitPlaces_le
  have hanti := mantissaOf_anti hden hle num (fitPlaces num den limit)
  omega

/-- a quotient for which one more place did not fit has a mantissa near the bound -/
theorem mantissaBound_le (hden : 0 < den)
    (h : mantissaBound ≤ mantissaOf num den (places + 1)) :
    mantissaBound ≤ 10 * mantissaOf num den places := by
  rw [mantissaOf_eq] at h ⊢
  have hmore := (roundHalfEven_bounds hden (num * 10 ^ (places + 1))).1
  have hplaces := (roundHalfEven_bounds hden (num * 10 ^ places)).2
  have hten : num * 10 ^ (places + 1) = 10 * (num * 10 ^ places) := by ring
  rw [hten] at hmore h
  have hfull := Nat.mul_le_mul_right den h
  generalize roundHalfEven (num * 10 ^ places) den = m at *
  have hscaled : 2 * mantissaBound * den ≤ (20 * m + 11) * den := by linarith
  have hle := Nat.le_of_mul_le_mul_right hscaled hden
  -- the bound ends in 6, so eleven too few for twice of it are none too few
  unfold mantissaBound at *
  omega

/-- **a greater divisor never gives more** -/
theorem hundredths_quotient_anti (hden : 0 < den) (hle : den ≤ den') (num : Nat) :
    (quotient num den').hundredths ≤ (quotient num den).hundredths := by
  have hden' : 0 < den' := Nat.lt_of_lt_of_le hden hle
  rw [hundredths_quotient hden, hundredths_quotient hden']
  have hplaces : fitPlaces num den placesMax ≤ fitPlaces num den' placesMax :=
    fitPlaces_mono hden hle num
  obtain ⟨p, hp⟩ : ∃ p, fitPlaces num den placesMax = p := ⟨_, rfl⟩
  obtain ⟨p', hp'⟩ : ∃ p', fitPlaces num den' placesMax = p' := ⟨_, rfl⟩
  rw [hp, hp'] at hplaces ⊢
  apply roundHalfDown_mono (pow_pos_ten p') (pow_pos_ten p)
  rcases Nat.lt_or_eq_of_le hplaces with hlt | rfl
  · -- the smaller quotient fits, and the greater one nearly fills the mantissa with fewer places
    have hfits : mantissaOf num den' p' < mantissaBound := hp' ▸ fits_of_pos (by omega)
    have hlimit : p' ≤ placesMax := hp' ▸ fitPlaces_le
    have hmore : fitPlaces num den placesMax < p + 1 := hp ▸ Nat.lt_succ_self p
    have hnot : mantissaBound ≤ mantissaOf num den (p + 1) := not_fits hmore (by omega)
    have hfull := mantissaBound_le hden hnot
    have hmantissa : mantissaOf num den' p' ≤ 10 * mantissaOf num den p := by omega
    have hten : 10 ^ (p + 1) ≤ 10 ^ p' := Nat.pow_le_pow_right (by decide) hlt
    calc 100 * mantissaOf num den' p' * 10 ^ p
        ≤ 100 * (10 * mantissaOf num den p) * 10 ^ p :=
          Nat.mul_le_mul_right _ (Nat.mul_le_mul_left _ hmantissa)
      _ = 100 * mantissaOf num den p * 10 ^ (p + 1) := by ring
      _ ≤ 100 * mantissaOf num den p * 10 ^ p' := Nat.mul_le_mul_left _ hten
  · exact Nat.mul_le_mul_right _ (Nat.mul_le_mul_left _ (mantissaOf_anti hden hle num p))

end
end Scaled
end ProxyMesh
