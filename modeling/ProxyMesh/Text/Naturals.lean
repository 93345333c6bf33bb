import ProxyMesh.Number.Bounds

/-!
# Whole numbers in texts

* `readNat`      the number that ASCII digits spell, zeros in front allowed; `none` for no digits or
                 any other character;
* `readWord`     the same below `2 ^ 64`;
* `readUnsigned`, `readSigned`   with a sign in front that numbers of 64 bits may have;
* `takeDigits`   the digits at the start of a text and what follows them.
-/

namespace ProxyMesh.Text

def isDigit (c : Char) : Bool := '0' ≤ c && c ≤ '9'

def digitValue (c : Char) : Nat := c.toNat - '0'.toNat

/-- digits read from the most significant on -/
def digitsValue (s : List Char) : Nat := s.foldl (fun n c => n * 10 + digitValue c) 0

def readNat (s : List Char) : Option Nat :=
  if !s.isEmpty && s.all isDigit then some (digitsValue s) else none

def readWord (s : List Char) : Option UInt64 :=
  match readNat s with
  | some n => if n < wordBound then some (UInt64.ofNat n) else none
  | none => none

/-- a plus sign is allowed -/
def readUnsigned (s : List Char) : Option UInt64 :=
  match s with
  | '+' :: digits => readWord digits
  | digits => readWord digits

/-- a sign is allowed; 64 bits hold the number -/
def readSigned (s : List Char) : Option Int :=
  match s with
  | '-' :: digits => (readNat digits).bind fun n => if n ≤ signedBound then some (-(n : Int)) else none
  | '+' :: digits => (readNat digits).bind fun n => if n < signedBound then some (n : Int) else none
  | digits => (readNat digits).bind fun n => if n < signedBound then some (n : Int) else none

def takeDigits (s : List Char) : List Char × List Char := (s.takeWhile isDigit, s.dropWhile isDigit)

example : readWord "18446744073709551615".toList = some 18446744073709551615 := by decide +kernel
example : readWord "18446744073709551616".toList = none := by decide +kernel
example : readSigned "-9223372036854775808".toList = some (-9223372036854775808) := by
  decide +kernel

end ProxyMesh.Text
