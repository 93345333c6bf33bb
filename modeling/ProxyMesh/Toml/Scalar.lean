import ProxyMesh.Number.Bounds
import ProxyMesh.Number.Reading
import ProxyMesh.Time.Reading
import ProxyMesh.Toml.Basic
import ProxyMesh.Toml.Text

/-!
# Numbers, flags and times in TOML

* `readScalar?`   the value of a token;
* `isDate`, `isTime`   dates, and times of day with an optional offset;
* `scalarStop`         where a value stops making sense.

An underscore may stand between two digits.  A decimal number has no zero in front of other digits.
-/

namespace ProxyMesh.Toml

open Text (isDigit digitsValue)

/-- digits with single underscores between them, the underscores left out -/
def underscored (isDigit : Char → Bool) : List Char → Option (List Char)
  | [] => none
  | [c] => if isDigit c then some [c] else none
  | c :: '_' :: rest => if isDigit c then (underscored isDigit rest).map (c :: ·) else none
  | c :: rest => if isDigit c then (underscored isDigit rest).map (c :: ·) else none

/-- the digits of a decimal number without a zero in front of others -/
def decimalDigits (s : List Char) : Option (List Char) :=
  match s with
  | '0' :: _ :: _ => none
  | _ => underscored isDigit s

/-- a number that 64 bits with a sign hold -/
def inRange (n : Int) : Option Toml :=
  if isSigned n then some (.int n) else none

/-- the value of digits in a base up to sixteen -/
def radixValue (base : Nat) (digits : List Char) : Nat :=
  digits.foldl (fun n c => n * base + (hexValue? c).getD 0) 0

/-- digits of a base after its mark -/
def readRadix (base : Nat) (s : List Char) : Option Toml :=
  (underscored (fun c => (hexValue? c).any (· < base)) s).bind fun digits =>
    inRange (radixValue base digits)

def readInteger (s : List Char) : Option Toml :=
  match s with
  | '0' :: 'x' :: digits => readRadix 16 digits
  | '0' :: 'o' :: digits => readRadix 8 digits
  | '0' :: 'b' :: digits => readRadix 2 digits
  | _ =>
    let (negative, digits) := Binary64.readSign s
    (decimalDigits digits).bind fun digits =>
      inRange (if negative then -(digitsValue digits : Int) else digitsValue digits)

def isNumberChar (c : Char) : Bool := isDigit c || c = '_'

/-- the digits after a point, if there is one, and what follows them -/
def readFractionPart (s : List Char) : Option (Option (List Char) × List Char) :=
  match s with
  | '.' :: rest =>
    (underscored isDigit (rest.takeWhile isNumberChar)).map
      fun digits => (some digits, rest.dropWhile isNumberChar)
  | _ => some (none, s)

/-- the exponent that ends a number, if there is one -/
def readExponentPart (s : List Char) : Option (Option Int) :=
  match s with
  | [] => some none
  | c :: rest =>
    if c = 'e' || c = 'E' then
      let (negative, digits) := Binary64.readSign rest
      (underscored isDigit digits).map fun digits =>
        some (if negative then -(digitsValue digits : Int) else digitsValue digits)
    else none

/-- the value of whole part, fraction and exponent; positive numbers above the range are refused -/
def floatValue (negative : Bool) (whole : List Char) (fraction : Option (List Char))
    (exponent : Option Int) : Option Toml :=
  let digits := whole ++ fraction.getD []
  let x := Binary64.ofDecimal negative (digitsValue digits)
    (exponent.getD 0 - (fraction.getD []).length)
  if x = .infinity false then none else some (.float x)

def readFloat (s : List Char) : Option Toml := do
  let (negative, s) := Binary64.readSign s
  if s = ['i', 'n', 'f'] then some (.float (.infinity negative))
  else if s = ['n', 'a', 'n'] then some (.float (.nan negative))
  else
    let whole ← decimalDigits (s.takeWhile isNumberChar)
    let (fraction, s) ← readFractionPart (s.dropWhile isNumberChar)
    let exponent ← readExponentPart s
    if fraction.isNone && exponent.isNone then none
    else floatValue negative whole fraction exponent

/-! ## dates and times -/

def isDate (s : List Char) : Bool :=
  (do
    let (year, s) ← Time.readNumber 4 4 s
    let s ← Time.expectChar '-' s
    let (month, s) ← Time.readNumber 2 2 s
    let s ← Time.expectChar '-' s
    let (day, s) ← Time.readNumber 2 2 s
    pure (s.isEmpty && Time.Civil.isValid ⟨year, month, day⟩)).getD false

/-- hours and minutes, and what follows them -/
def readClock (s : List Char) : Option (List Char) := do
  let (hour, s) ← Time.readNumber 2 2 s
  let s ← Time.expectChar ':' s
  let (minute, s) ← Time.readNumber 2 2 s
  if hour ≤ 23 && minute ≤ 59 then some s else none

/-- a time of day, and what follows it -/
def readTimeOfDay (s : List Char) : Option (List Char) := do
  let s ← readClock s
  let s ← Time.expectChar ':' s
  let (second, s) ← Time.readNumber 2 2 s
  if 60 < second then none
  else match s with
    | '.' :: rest =>
      let digits := rest.takeWhile isDigit
      if digits.isEmpty then none else some (rest.dropWhile isDigit)
    | _ => some s

/-- nothing, or an offset from universal time -/
def isOffset (s : List Char) : Bool :=
  match s with
  | [] => true
  | ['Z'] => true
  | ['z'] => true
  | c :: rest => (c = '+' || c = '-') && readClock rest == some []

/-- a time of day; an offset may follow it after a date -/
def isTime (withOffset : Bool) (s : List Char) : Bool :=
  (readTimeOfDay s).any fun rest => if withOffset then isOffset rest else rest.isEmpty

/-- a date and a time put together by `T` -/
def isDateTime (s : List Char) : Bool :=
  isDate (s.take 10) && match s.drop 10 with
    | c :: rest => (c = 'T' || c = 't') && isTime true rest
    | [] => false

def readScalar? (s : List Char) : Option Toml :=
  if s = "true".toList then some (.bool true)
  else if s = "false".toList then some (.bool false)
  else if isDate s || isTime false s || isDateTime s then some .time
  else (readFloat s).or (readInteger s)

/-! ## where a value stops making sense -/

/-- after digits with single underscores between them, or where a digit is missing -/
def digitsStop (isDigit : Char → Bool) : List Char → List Char
  | [] => []
  | c :: rest =>
    if !isDigit c then c :: rest
    else match rest with
      | '_' :: rest => digitsStop isDigit rest
      | rest => digitsStop isDigit rest

/-- after a number, or where a digit is missing -/
def numberStop (s : List Char) : List Char :=
  match s with
  | '0' :: 'x' :: digits => digitsStop (fun c => (hexValue? c).isSome) digits
  | '0' :: 'o' :: digits => digitsStop (fun c => (hexValue? c).any (· < 8)) digits
  | '0' :: 'b' :: digits => digitsStop (fun c => (hexValue? c).any (· < 2)) digits
  | _ =>
    let (_, digits) := Binary64.readSign s
    let afterWhole := match digits with
      | '0' :: rest => rest
      | digits => digitsStop isDigit digits
    let afterFraction := match afterWhole with
      | '.' :: rest => digitsStop isDigit rest
      | rest => rest
    match afterFraction with
    | c :: rest =>
      if c = 'e' || c = 'E' then digitsStop isDigit (Binary64.readSign rest).2 else c :: rest
    | [] => []

/-- where a value that is none stops making sense; a number out of range does at its start -/
def scalarStop (s token : List Char) : List Char :=
  let words := ["true".toList, "false".toList, "inf".toList, "nan".toList]
  match words.filterMap (Text.stripStart · s) with
  | rest :: _ => rest
  | [] =>
    if token.head?.any fun c => isDigit c || c = '+' || c = '-' then
      let stop := numberStop s
      if stop.length + token.length = s.length && token.getLast?.any isDigit then s else stop
    else s

end ProxyMesh.Toml
