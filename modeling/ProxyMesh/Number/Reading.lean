import ProxyMesh.Number.Binary64
import ProxyMesh.Text.Naturals

/-!
# Binary64 values in texts

* `Binary64.read?`   a decimal number with an optional point and exponent, `inf`, `infinity` or
                     `nan` in any case, after an optional sign; the value nearest what is written.
-/

namespace ProxyMesh.Binary64

open Text (isDigit digitsValue)

/-- the sign in front, true if negative, and what follows it -/
def readSign : List Char → Bool × List Char
  | '-' :: rest => (true, rest)
  | '+' :: rest => (false, rest)
  | s => (false, s)

/-- digits after a point, if there is a point -/
def readFraction : List Char → List Char × List Char
  | '.' :: rest => (rest.takeWhile isDigit, rest.dropWhile isDigit)
  | s => ([], s)

/-- the exponent that ends a number -/
def readExponent : List Char → Option Int
  | [] => some 0
  | c :: rest =>
    if c = 'e' || c = 'E' then
      let (negative, digits) := readSign rest
      (Text.readNat digits).map fun n => if negative then -(n : Int) else n
    else none

/-- the words for values that have no digits -/
def readWord (negative : Bool) (s : List Char) : Option Binary64 :=
  match String.ofList (s.map Char.toLower) with
  | "inf" => some (infinity negative)
  | "infinity" => some (infinity negative)
  | "nan" => some (nan negative)
  | _ => none

/-- digits on at least one side of the point, then an exponent -/
def readDecimal (negative : Bool) (s : List Char) : Option Binary64 :=
  let whole := s.takeWhile isDigit
  let (fraction, rest) := readFraction (s.dropWhile isDigit)
  if whole.isEmpty && fraction.isEmpty then none
  else (readExponent rest).map fun e =>
    ofDecimal negative (digitsValue (whole ++ fraction)) (e - fraction.length)

def read? (s : List Char) : Option Binary64 :=
  let (negative, rest) := readSign s
  (readWord negative rest).or (readDecimal negative rest)

example : read? "12.6".toList = some (ofDecimal false 126 (-1)) := by decide +kernel
example : read? "-.5e1".toList = some (ofDecimal true 5 0) := by decide +kernel
example : read? "Infinity".toList = some (infinity false) := by decide +kernel
example : read? ".".toList = none ∧ read? "1e".toList = none := by decide +kernel

end ProxyMesh.Binary64
