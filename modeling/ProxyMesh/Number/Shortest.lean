import ProxyMesh.Number.Binary64

/-!
# The fewest decimal digits that read back

A decimal is `digits * 10 ^ exponent`.  The reals that round to a value form an interval, its ends
counting exactly when the significand is even.  On the grid of `n` digits only the two neighbours
of the value can be nearest to it, so the first grid with a neighbour in the interval decides.

* `Decimal.place`      the exponent of the first digit;
* `Binary64.interval`  the reals that round to the value;
* `Binary64.shortest`  the shortest decimal in it, of two the nearer, of two as near the even one.
-/

namespace ProxyMesh

/-- `digits * 10 ^ exponent` -/
structure Decimal where
  digits : Nat
  exponent : Int
deriving DecidableEq, Repr

namespace Decimal

def digitCount (n : Nat) : Nat := (Nat.toDigits 10 n).length

/-- the exponent of the first digit -/
def place (d : Decimal) : Int := d.exponent + digitCount d.digits - 1

/-- trailing zeros moved into the exponent, at most `fuel` of them -/
def stripZeros : Nat → Decimal → Decimal
  | 0, d => d
  | fuel + 1, d =>
    if d.digits != 0 && d.digits % 10 == 0 then stripZeros fuel ⟨d.digits / 10, d.exponent + 1⟩ else d

end Decimal

namespace Binary64

/-- the reals that round to a value, in units of `unit` -/
structure Interval where
  low : Nat
  mid : Nat
  high : Nat
  closed : Bool
  unitNum : Nat
  unitDen : Nat

/-- in quarters of the last place; below a power of two the grid is twice as fine -/
def interval (x : Binary64) : Interval :=
  let m := x.significand
  let (un, ud) := scaleDown 1 1 (2 - x.scale)
  let below := if m = hiddenBit && 1 < x.exponentField then 1 else 2
  ⟨4 * m - below, 4 * m, 4 * m + 2, m % 2 = 0, un, ud⟩

/-- `a / b` lies in the interval -/
def Interval.contains (i : Interval) (a b : Nat) : Bool :=
  let value := a * i.unitDen
  let low := i.low * i.unitNum * b
  let high := i.high * i.unitNum * b
  if i.closed then low ≤ value && value ≤ high else low < value && value < high

/-- numerator and denominator of `digits * 10 ^ exponent` -/
def decimalRatio (digits : Nat) : Int → Nat × Nat
  | .ofNat e => (digits * Nat.pow 10 e, 1)
  | .negSucc e => (digits, Nat.pow 10 (e + 1))

/-- the exponent of the first digit of `num / den`, looked for next to `guess` -/
def firstPlace (num den : Nat) (guess : Int) : Int :=
  let reaches (e : Int) : Bool := let (a, b) := decimalRatio 1 e; a * den ≤ num * b
  if reaches (guess + 1) then guess + 1
  else if reaches guess then guess
  else if reaches (guess - 1) then guess - 1
  else guess - 2

/-- a neighbour of `num / den` on the grid of step `10 ^ e` that lies in the interval -/
def gridHit (i : Interval) (num den : Nat) (e : Int) : Option Nat :=
  let (a, b) := decimalRatio 1 e
  let n := num * b
  let d := den * a
  let lower := n / d
  let inside (k : Nat) : Bool := i.contains (k * a) b
  match inside lower && lower != 0, inside (lower + 1) with
  | true, true => some (roundHalfEven n d)
  | true, false => some lower
  | false, true => some (lower + 1)
  | false, false => none

/-- the first grid with a hit, from the exponent `e` on to finer ones -/
def firstHit (i : Interval) (num den : Nat) : Nat → Int → Decimal
  | 0, e => ⟨max 1 (num * Nat.pow 10 (-e).toNat / den), e⟩
  | more + 1, e =>
    match gridHit i num den e with
    | some k => ⟨k, e⟩
    | none => firstHit i num den more (e - 1)

/-- the shortest decimal that reads back as the absolute value of a finite `x` -/
def shortest (x : Binary64) : Decimal :=
  if x.isZero then ⟨0, 0⟩
  else
    let (num, den) := x.ratio
    let guess := ((num.log2 : Int) - (den.log2 : Int)) * 30103 / 100000
    (firstHit x.interval num den 17 (firstPlace num den guess)).stripZeros 20

example : (ofDecimal false 3 (-1)).shortest = ⟨3, -1⟩ := by decide +kernel
example : (ofDecimal false 5 (-324)).shortest = ⟨5, -324⟩ := by decide +kernel
example : (ofDecimal false 17976931348623157 292).shortest = ⟨17976931348623157, 292⟩ := by
  decide +kernel
example : (ofDecimal false 1 23).shortest = ⟨1, 23⟩ := by decide +kernel

end Binary64

end ProxyMesh
