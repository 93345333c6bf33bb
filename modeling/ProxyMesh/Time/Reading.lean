import ProxyMesh.Time.Civil
import ProxyMesh.Text.Lines

/-!
# Timestamps read

* `readTimestamp?`   a date and time with an offset: `2023-11-14T22:13:20.5+01:00`;
* `readPlainTime?`   a date and time without one, taken as universal time, numbers of any width.

Both give seconds since 1970.  The second 60 counts as 59, a fraction does not count.
-/

namespace ProxyMesh.Time

open Text (isDigit)

/-- between `least` and `most` digits, and what follows them -/
def readNumber (least most : Nat) (s : List Char) : Option (Nat × List Char) :=
  let digits := (s.takeWhile isDigit).take most
  if digits.length < least then none
  else some (Text.digitsValue digits, s.drop digits.length)

def expectChar (c : Char) : List Char → Option (List Char)
  | d :: rest => if c = d then some rest else none
  | [] => none

/-- a point and digits, if there is a point -/
def skipFraction : List Char → Option (List Char)
  | '.' :: rest => (readNumber 1 9 rest).map fun (_, rest) => rest.dropWhile isDigit
  | s => some s

/-- the seconds of a date and time of day, if there are such -/
def secondsOf (date : Civil) (hour minute second : Nat) : Option Int :=
  if date.isValid && hour ≤ 23 && minute ≤ 59 && second ≤ 60 then
    some (date.toDays * 86400 + hour * 3600 + minute * 60 + min second 59)
  else none

/-- the seconds that an offset is ahead of universal time -/
def readOffset : List Char → Option (Int × List Char)
  | c :: rest =>
    if c = 'Z' || c = 'z' then some (0, rest)
    else do
      let sign : Int ← if c = '+' then some 1 else if c = '-' || c = '\u2212' then some (-1) else none
      let (hours, rest) ← readNumber 2 2 rest
      let rest ← expectChar ':' rest
      let (minutes, rest) ← readNumber 2 2 rest
      if minutes ≤ 59 && hours ≤ 23 then pure (sign * (hours * 3600 + minutes * 60 : Nat), rest)
      else none
  | [] => none

/-- a date and time with an offset -/
def readTimestamp? (text : String) : Option Int := do
  let (year, s) ← readNumber 4 4 text.toList
  let s ← expectChar '-' s
  let (month, s) ← readNumber 2 2 s
  let s ← expectChar '-' s
  let (day, s) ← readNumber 2 2 s
  let s ← ((expectChar 'T' s).or (expectChar 't' s)).or (expectChar ' ' s)
  let (hour, s) ← readNumber 2 2 s
  let s ← expectChar ':' s
  let (minute, s) ← readNumber 2 2 s
  let s ← expectChar ':' s
  let (second, s) ← readNumber 2 2 s
  let s ← skipFraction s
  let (ahead, s) ← readOffset s
  if s.isEmpty then (secondsOf ⟨year, month, day⟩ hour minute second).map (· - ahead) else none

/-- a number after blanks, at most `most` digits -/
def readLoose (most : Nat) (s : List Char) : Option (Nat × List Char) :=
  readNumber 1 most (s.dropWhile Text.isBlank)

/-- the years that dates are kept for -/
def yearLimit : Nat := 262142

/-- a year after blanks: four digits at most, or any number of them after a sign -/
def readYear (s : List Char) : Option (Int × List Char) :=
  let s := s.dropWhile Text.isBlank
  let found : Option (Int × List Char) := match s with
    | '-' :: rest => (readNumber 1 s.length rest).map fun (y, rest) => (-(y : Int), rest)
    | '+' :: rest => (readNumber 1 s.length rest).map fun (y, rest) => ((y : Int), rest)
    | _ => (readNumber 1 4 s).map fun (y, rest) => ((y : Int), rest)
  found.filter fun (y, _) => y.natAbs ≤ yearLimit

/-- a date and time in universal time -/
def readPlainTime? (text : String) : Option Int := do
  let (year, s) ← readYear text.toList
  let s ← expectChar '-' s
  let (month, s) ← readLoose 2 s
  let s ← expectChar '-' s
  let (day, s) ← readLoose 2 s
  let s ← expectChar 'T' s
  let (hour, s) ← readLoose 2 s
  let s ← expectChar ':' s
  let (minute, s) ← readLoose 2 s
  let s ← expectChar ':' s
  let (second, s) ← readLoose 2 s
  let s ← skipFraction s
  if s.isEmpty then secondsOf ⟨year, month, day⟩ hour minute second else none

example : readTimestamp? "2023-11-14T23:13:20.123+01:00" = some 1700000000 := by decide +kernel
example : readTimestamp? "2016-12-31t23:59:60Z" = some 1483228799 := by decide +kernel

end ProxyMesh.Time
