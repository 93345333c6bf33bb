import ProxyMesh.Json.Basic
import ProxyMesh.Number.Bounds

/-!
# Numbers in JSON texts

A whole number that fits 64 bits stays whole.  Any other number is taken as its leading digits, as
many as fit 64 bits, times a power of ten: the digits are rounded to a binary64 value once, and
the product or quotient with the power once more.  `-0` is the binary64 zero.

* `Numeral`        the parts of a number as written;
* `Numeral.value`  the value, `none` above the binary64 range.
-/

namespace ProxyMesh.Json

/-- the parts of a number as written, digits only -/
structure Numeral where
  negative : Bool
  whole : List Char
  fraction : Option (List Char)
  /-- the sign of the exponent (`true` is negative) and its digits -/
  exponent : Option (Bool × List Char)
deriving DecidableEq, Repr

namespace Numeral

def digit (c : Char) : Nat := c.toNat - '0'.toNat

def significandMax : Nat := wordBound - 1

/-- digits appended while they fit, and how many digits of the whole part were left out -/
def takeWhole : List Char → Nat → Nat × Nat
  | [], sig => (sig, 0)
  | c :: rest, sig =>
    if sig * 10 + digit c ≤ significandMax then takeWhole rest (sig * 10 + digit c)
    else (sig, rest.length + 1)

/-- digits appended while they fit, and how many were taken -/
def takeFraction : List Char → Nat → Nat × Nat
  | [], sig => (sig, 0)
  | c :: rest, sig =>
    if sig * 10 + digit c ≤ significandMax then
      let (s, n) := takeFraction rest (sig * 10 + digit c)
      (s, n + 1)
    else (sig, 0)

def toNat (digits : List Char) : Nat := digits.foldl (fun n c => n * 10 + digit c) 0

def exponentMax : Nat := 0x7fffffff

/-- `10 ^ n` as a binary64 value -/
def powerOfTen (n : Nat) : Binary64 := .ofDecimal false 1 n

/-- `f * 10 ^ e`, scaled by at most `10 ^ 308` in one step; `none` above the range -/
def scaleBy : Nat → Binary64 → Int → Option Binary64
  | 0, f, _ => some f
  | steps + 1, f, e =>
    if e.natAbs ≤ 308 then
      if 0 ≤ e then
        let x := f.mul (powerOfTen e.natAbs)
        if x.isInfinite then none else some x
      else some (f.div (powerOfTen e.natAbs))
    else if f.isZero then some f
    else if 0 ≤ e then none
    else scaleBy steps (f.div (powerOfTen 308)) (e + 308)

/-- an exponent held to 31 bits and a sign -/
def clampExponent (e : Int) : Int := max (-(exponentMax : Int) - 1) (min e exponentMax)

def signed (negative : Bool) (x : Binary64) : Binary64 := if negative then x.neg else x

/-- the value of a number with a fraction or an exponent, or of one too long for 64 bits -/
def realValue (negative : Bool) (sig : Nat) (start : Int) :
    Option (Bool × List Char) → Option Binary64
  | none => (scaleBy 5 (.ofNat sig) start).map (signed negative)
  | some (down, digits) =>
    let e := toNat digits
    if exponentMax < e then
      if sig != 0 && !down then none else some (signed negative .zero)
    else
      let total : Int := clampExponent (if down then start - e else start + e)
      (scaleBy 5 (.ofNat sig) total).map (signed negative)

/-- the value of a number, `none` above the binary64 range -/
def value (n : Numeral) : Option Json :=
  let (sig, skipped) := takeWhole n.whole 0
  match n.fraction, n.exponent with
  | none, none =>
    if skipped != 0 then (realValue n.negative sig skipped none).map .real
    else if !n.negative then some (.int sig)
    else if sig = 0 || signedBound < sig then some (.real (signed true (.ofNat sig)))
    else some (.int (-(sig : Int)))
  | fraction, exponent =>
    let (sig, taken) := takeFraction (fraction.getD []) sig
    (realValue n.negative sig ((skipped : Int) - taken) exponent).map .real

end Numeral

end ProxyMesh.Json
