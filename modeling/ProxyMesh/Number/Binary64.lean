import ProxyMesh.Number.Bounds

/-!
# Binary64 values, held by their bits

A finite value is `± significand * 2 ^ scale`.  Everything here is exact arithmetic on naturals.

* `ofRatio`     the value nearest a quotient, a tie to the even neighbour, infinite above the range;
* `ofDecimal`   the value nearest `digits * 10 ^ exponent`;
* `ratio`       the quotient that a finite value stands for;
* `mul`         the product, rounded once;
* `toCount`     rounded to a whole number, halves away from zero, held to 64 bits.
-/

namespace ProxyMesh

/-- a binary64 value -/
structure Binary64 where
  bits : UInt64
deriving DecidableEq, Repr, Inhabited

/-- the quotient rounded to the nearest whole number, a tie to the even one -/
def roundHalfEven (num den : Nat) : Nat :=
  let whole := num / den
  let twice := 2 * (num % den)
  if twice < den then whole else if den < twice then whole + 1 else whole + whole % 2

/-- the quotient rounded to the nearest whole number, a tie away from zero -/
def roundHalfUp (num den : Nat) : Nat := (2 * num + den) / (2 * den)

namespace Binary64

def signBit : Nat := signedBound

/-- the leading bit of a normal significand, which is not stored -/
def hiddenBit : Nat := 0x10000000000000

def infinityBits : Nat := 2047 * hiddenBit

/-- sign and magnitude bits put together -/
def ofMagnitude (negative : Bool) (magnitude : Nat) : Binary64 :=
  ⟨UInt64.ofNat (if negative then signBit + magnitude else magnitude)⟩

def zero : Binary64 := ⟨0⟩
def infinity (negative : Bool) : Binary64 := ofMagnitude negative infinityBits
def nan (negative : Bool) : Binary64 := ofMagnitude negative (infinityBits + hiddenBit / 2)

def isNegative (x : Binary64) : Bool := signBit ≤ x.bits.toNat
def magnitude (x : Binary64) : Nat := x.bits.toNat % signBit
def exponentField (x : Binary64) : Nat := x.magnitude / hiddenBit
def isNaN (x : Binary64) : Bool := infinityBits < x.magnitude
def isInfinite (x : Binary64) : Bool := x.magnitude = infinityBits
def isFinite (x : Binary64) : Bool := x.magnitude < infinityBits
def isZero (x : Binary64) : Bool := x.magnitude = 0
/-- finite, and neither zero nor subnormal -/
def isNormal (x : Binary64) : Bool := 0 < x.exponentField && x.exponentField < 2047

def neg (x : Binary64) : Binary64 := ofMagnitude (!x.isNegative) x.magnitude

/-- the whole number in front of the power of two -/
def significand (x : Binary64) : Nat :=
  if x.exponentField = 0 then x.magnitude else x.magnitude % hiddenBit + hiddenBit

/-- the power of two -/
def scale (x : Binary64) : Int := (max x.exponentField 1 : Nat) - 1075

/-- numerator and denominator of `num / den / 2 ^ k` -/
def scaleDown (num den : Nat) : Int → Nat × Nat
  | .ofNat k => (num, den * Nat.pow 2 k)
  | .negSucc k => (num * Nat.pow 2 (k + 1), den)

/-- numerator and denominator of the absolute value -/
def ratio (x : Binary64) : Nat × Nat := scaleDown x.significand 1 (-x.scale)

/-- the power of two at which the quotient has 53 bits, never below that of the subnormals -/
def scaleOf (num den : Nat) : Int :=
  let k : Int := (num.log2 : Int) - (den.log2 : Int) - 52
  let (n, d) := scaleDown num den k
  max (if hiddenBit * d ≤ n then k else k - 1) (-1074)

/-- the value nearest `num / den`, a tie to the even neighbour -/
def ofRatio (negative : Bool) (num den : Nat) : Binary64 :=
  if num = 0 then ofMagnitude negative 0
  else
    let k := scaleOf num den
    let (n, d) := scaleDown num den k
    ofMagnitude negative (min ((k + 1074).toNat * hiddenBit + roundHalfEven n d) infinityBits)

def ofNat (n : Nat) : Binary64 := ofRatio false n 1

/-- the value nearest `digits * 10 ^ exponent`; exponents far out of range are not multiplied out -/
def ofDecimal (negative : Bool) (digits : Nat) (exponent : Int) : Binary64 :=
  let size : Int := (Nat.toDigits 10 digits).length + exponent
  if digits = 0 || size < -330 then ofMagnitude negative 0
  else if 310 < size then infinity negative
  else match exponent with
    | .ofNat e => ofRatio negative (digits * Nat.pow 10 e) 1
    | .negSucc e => ofRatio negative digits (Nat.pow 10 (e + 1))

/-- the product, rounded once; a product that has no value is not a number -/
def mul (x y : Binary64) : Binary64 :=
  let negative := x.isNegative != y.isNegative
  if x.isNaN || y.isNaN || (x.isZero && y.isInfinite) || (x.isInfinite && y.isZero) then nan false
  else if x.isInfinite || y.isInfinite then infinity negative
  else
    let (n₁, d₁) := x.ratio
    let (n₂, d₂) := y.ratio
    ofRatio negative (n₁ * n₂) (d₁ * d₂)

/-- the quotient of finite values, `y` not zero, rounded once -/
def div (x y : Binary64) : Binary64 :=
  let (n₁, d₁) := x.ratio
  let (n₂, d₂) := y.ratio
  ofRatio (x.isNegative != y.isNegative) (n₁ * d₂) (d₁ * n₂)

/-- the largest 64-bit number -/
def countMax : Nat := wordBound - 1

/-- rounded to a whole number, halves away from zero, and held to 64 bits -/
def toCount (x : Binary64) : Nat :=
  if x.isNaN || x.isNegative then 0
  else if x.isInfinite then countMax
  else let (n, d) := x.ratio; min (roundHalfUp n d) countMax

/-- the value rounded to a whole number, halves away from zero, held to signed 64 bits -/
def roundToInt64 (x : Binary64) : Int :=
  if x.isNaN then 0
  else
    let whole : Nat := if x.isInfinite then wordBound else let (n, d) := x.ratio; roundHalfUp n d
    if x.isNegative then -(min whole signedBound : Nat) else (min whole (signedBound - 1) : Nat)

def one : Binary64 := ofNat 1

example : one.bits = 0x3FF0000000000000 := by decide +kernel
example : (ofDecimal false 1 (-1)).bits = 0x3FB999999999999A := by decide +kernel
example : (ofDecimal true 5 (-324)).bits = 0x8000000000000001 := by decide +kernel
example : (ofDecimal false 17976931348623157 292).bits = 0x7FEFFFFFFFFFFFFF := by decide +kernel

end Binary64

end ProxyMesh
