import ProxyMesh.Number.Binary64

/-!
# Quotients with decimal places

A scaled number is `mantissa / 10 ^ places`, with a mantissa of 96 bits and up to 28 places.

* `Scaled.quotient`     the quotient of two whole numbers, without places if it is whole, otherwise with
                        as many as fit; the last one is rounded, a tie to the even digit;
* `Scaled.hundredths`   a scaled number rounded to two places, a tie toward zero.
-/

namespace ProxyMesh

/-- the quotient rounded to the nearest whole number, a tie toward zero -/
def roundHalfDown (num den : Nat) : Nat :=
  if den < 2 * (num % den) then num / den + 1 else num / den

/-- `mantissa / 10 ^ places` -/
structure Scaled where
  mantissa : Nat
  places : Nat
deriving DecidableEq, Repr

namespace Scaled

/-- two to the power of 96 -/
def mantissaBound : Nat := 0x1000000000000000000000000

def placesMax : Nat := 28

/-- the mantissa of the quotient with so many places -/
def mantissaOf (num den places : Nat) : Nat := roundHalfEven (num * Nat.pow 10 places) den

/-- the most places, `limit` of them at most, with which the quotient fits -/
def fitPlaces (num den : Nat) : Nat → Nat
  | 0 => 0
  | limit + 1 =>
    if mantissaOf num den (limit + 1) < mantissaBound then limit + 1 else fitPlaces num den limit

def quotient (num den : Nat) : Scaled :=
  if num % den = 0 then ⟨num / den, 0⟩
  else
    let places := fitPlaces num den placesMax
    ⟨mantissaOf num den places, places⟩

/-- rounded to two places -/
def hundredths (x : Scaled) : Nat := roundHalfDown (100 * x.mantissa) (Nat.pow 10 x.places)

example : quotient 2 3 = ⟨6666666666666666666666666667, 28⟩ ∧ (quotient 2 3).hundredths = 67 := by
  decide +kernel
example : quotient 18446744073709551615 7 = ⟨26352491533870788021428571429, 10⟩ := by
  decide +kernel

end Scaled

end ProxyMesh
