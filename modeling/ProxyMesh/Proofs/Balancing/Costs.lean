import Mathlib.Algebra.Order.Field.Basic
import Mathlib.Algebra.Order.BigOperators.Group.List
import Mathlib.Data.Rat.Cast.Order
import Mathlib.Tactic.FieldSimp
import Mathlib.Tactic.Linarith
import ProxyMesh.Proofs.Balancing.Weights
import ProxyMesh.Proofs.Number.Quotients

/-!
# Costs are the exact ratios, rounded once

A cost is computed with a quotient that is rounded already.  It comes out as if the exact quotient had
been rounded to hundredths.

* `Cost.value`, `IsNearest`   what a cost is worth, and which hundredth is nearest to a number;
* `isNearest_roundHalfDown`   hundredths of a quotient, in whole numbers;
* `cost_anti`                 of two weights the greater one costs no more;
* `costs_nearest`             **a cost is the nearest hundredth, and no member of a plan costs more than
                              a lighter one**.
-/

namespace ProxyMesh.Balancing

/-- what a cost is worth -/
def Cost.value (c : Cost) : ℚ := c.hundredths / 100

/-- no number of hundredths is nearer to `x` than `k`, and one that is as near is no nearer to zero -/
def IsNearest (k : ℤ) (x : ℚ) : Prop :=
  ∀ j : ℤ, |(k : ℚ) / 100 - x| ≤ |(j : ℚ) / 100 - x| ∧
    (|(j : ℚ) / 100 - x| = |(k : ℚ) / 100 - x| → |k| ≤ |j|)

section
variable {num den total weight weight' : Nat}

/-- how far a number of hundredths is from a quotient, in hundredths of the divisor's parts -/
theorem distance_eq (hden : 0 < den) (j : ℤ) :
    |(j : ℚ) / 100 - (num : ℚ) / den| = (|j * den - 100 * num| : ℤ) / (100 * den : ℚ) := by
  have hpos : (0 : ℚ) < 100 * den := by positivity
  have hone : (j : ℚ) / 100 - num / den = (j * den - 100 * num) / (100 * den) := by
    field_simp
  rw [hone, abs_div, abs_of_pos hpos]
  push_cast
  rfl

theorem isNearest_roundHalfDown (hden : 0 < den) (num : Nat) :
    IsNearest (roundHalfDown (100 * num) den) ((num : ℚ) / den) := by
  obtain ⟨hlow, hhigh⟩ := roundHalfDown_bounds hden (100 * num)
  generalize roundHalfDown (100 * num) den = k at *
  have hpos : (0 : ℚ) < 100 * den := by positivity
  intro j
  rw [distance_eq hden, distance_eq hden, div_le_div_iff_of_pos_right hpos,
    div_left_inj' hpos.ne', Int.cast_le, Int.cast_inj]
  have hlow' : 2 * (k * den : ℤ) < 2 * (100 * num) + den := by
    have h : 2 * (k * den) < 2 * (100 * num) + den := by linarith
    exact_mod_cast h
  have hhigh' : 2 * (100 * num : ℤ) ≤ 2 * (k * den) + den := by
    have h : 2 * (100 * num) ≤ 2 * (k * den) + den := by linarith
    exact_mod_cast h
  have hden' : (0 : ℤ) < den := by exact_mod_cast hden
  generalize (100 * num : ℤ) = n at *
  have hnear : 2 * |(k : ℤ) * den - n| ≤ den := by
    rcases abs_cases ((k : ℤ) * den - n) with ⟨he, -⟩ | ⟨he, -⟩
    · rw [he]
      linarith
    · rw [he]
      linarith
  rcases lt_trichotomy j k with hj | rfl | hj
  · have hstep : (j + 1) * (den : ℤ) ≤ k * den := mul_le_mul_of_nonneg_right hj hden'.le
    have hfar : (den : ℤ) < 2 * |j * den - n| := by
      have hneg := neg_le_abs (j * den - n)
      linarith
    exact ⟨by linarith, fun he => by linarith⟩
  · exact ⟨le_refl _, fun _ => le_refl _⟩
  · have hstep : (k + 1 : ℤ) * den ≤ j * den := mul_le_mul_of_nonneg_right hj hden'.le
    have hfar : (den : ℤ) ≤ 2 * |j * den - n| := by
      have hself := le_abs_self (j * den - n)
      linarith
    refine ⟨by linarith, fun _ => ?_⟩
    exact abs_le_abs_of_nonneg (Int.natCast_nonneg k) hj.le

/-! ## costs -/

theorem hundredths_cost (h : 0 < weight) :
    (cost total weight).hundredths = max 1 (Scaled.quotient total weight).hundredths := by
  unfold cost
  rw [if_neg h.ne']
  dsimp only
  split
  next hle => exact (max_eq_left hle).symm
  next hgt => exact (max_eq_right (Nat.le_of_not_le hgt)).symm

theorem value_cost (h : 0 < weight) : (cost total weight).value =
    max (1 / 100 : ℚ) ((Scaled.quotient total weight).hundredths / 100) := by
  unfold Cost.value
  rw [hundredths_cost h, Nat.cast_max, ← max_div_div_right (by norm_num), Nat.cast_one]

theorem cost_anti (h : 0 < weight) (hle : weight ≤ weight') :
    (cost total weight').value ≤ (cost total weight).value := by
  have hanti := Scaled.hundredths_quotient_anti h hle total
  unfold Cost.value
  rw [hundredths_cost h, hundredths_cost (Nat.lt_of_lt_of_le h hle)]
  have hmax := max_le_max (le_refl 1) hanti
  apply div_le_div_of_nonneg_right _ (by norm_num)
  exact_mod_cast hmax

theorem weightOf_pos {candidates : List Candidate} {c : Candidate} (hc : c ∈ candidates)
    (hweight : 0 < c.weight) : 0 < weightOf candidates c.tag := by
  have hmem : c.weight ∈ weightsOf candidates c.tag :=
    List.mem_map_of_mem (List.mem_filter.2 ⟨hc, decide_eq_true rfl⟩)
  have hsum : c.weight ≤ (weightsOf candidates c.tag).sum := List.le_sum_of_mem hmem
  have hmax : 0 < weightMax := by decide
  unfold weightOf
  omega

/-- **Costs are the exact ratios, rounded once.**  For every total of 64 bits and weight of 32 bits the
cost is the hundredth nearest to the total over the weight, of two as near the smaller one, and at
least one hundredth.  A greater weight costs no more, and so no member of a plan costs more than a
lighter one. -/
theorem costs_nearest :
    (∀ (total : UInt64) (weight : UInt32), 1 ≤ weight → ∃ k : ℤ,
      IsNearest k ((total.toNat : ℚ) / weight.toNat) ∧
        (cost total.toNat weight.toNat).value = max (1 / 100 : ℚ) ((k : ℚ) / 100)) ∧
      (∀ total weight weight', 1 ≤ weight → weight ≤ weight' →
        (cost total weight').value ≤ (cost total weight).value) ∧
      ∀ choose candidates p, Plan.compile choose candidates = some p →
        ∀ light ∈ p.costs, ∀ heavy ∈ p.costs,
          weightOf candidates light.1 ≤ weightOf candidates heavy.1 →
            heavy.2.value ≤ light.2.value := by
  refine ⟨fun total weight hweight => ?_, fun _ _ _ => cost_anti, ?_⟩
  · have hpos : 0 < weight.toNat := UInt32.le_iff_toNat_le.1 hweight
    have hquotient := Scaled.hundredths_of_isQuotient
      (Scaled.isQuotient_quotient hpos total.toNat) total.toNat_lt hpos weight.toNat_lt
    refine ⟨_, isNearest_roundHalfDown hpos total.toNat, ?_⟩
    rw [value_cost hpos, hquotient, Int.cast_natCast]
  · intro choose candidates p hplan light hlight heavy hheavy hle
    rw [Plan.compile_costs hplan] at hlight hheavy
    obtain ⟨tag, htag, rfl⟩ := List.mem_map.1 hlight
    obtain ⟨tag', -, rfl⟩ := List.mem_map.1 hheavy
    rw [Plan.selector_eq hplan] at htag
    obtain ⟨c, hc, rfl, hweight⟩ := mem_tags.1 htag
    exact cost_anti (weightOf_pos hc hweight) hle

/-- nine over eight lies half way between two hundredths, and the smaller one is taken -/
theorem costs_nearest_tie :
    (1 : UInt32) ≤ 8 ∧ IsNearest 112 (((9 : UInt64).toNat : ℚ) / (8 : UInt32).toNat) ∧
      (cost 9 8).value = 112 / 100 ∧ (cost 9 9).value ≤ (cost 9 8).value := by
  obtain ⟨hnearest, hanti, -⟩ := costs_nearest
  obtain ⟨k, hk, hvalue⟩ := hnearest 9 8 (by decide)
  have hcost : cost (9 : UInt64).toNat (8 : UInt32).toNat = ⟨112, false⟩ := by decide +kernel
  have hworth : (cost 9 8).value = 112 / 100 := congrArg Cost.value hcost
  have hmax : (112 / 100 : ℚ) = max (1 / 100) ((k : ℚ) / 100) := hworth.symm.trans hvalue
  have hk' : k = 112 := by
    rcases max_choice (1 / 100 : ℚ) ((k : ℚ) / 100) with h | h
    · rw [h] at hmax
      norm_num at hmax
    · rw [h] at hmax
      have he : (k : ℚ) = 112 := by linarith
      exact_mod_cast he
  exact ⟨by decide, hk' ▸ hk, hworth, hanti 9 8 9 (by decide) (by decide)⟩

end

end ProxyMesh.Balancing
