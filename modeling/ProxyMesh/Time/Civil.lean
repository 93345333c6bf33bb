import ProxyMesh.Text.Naturals

/-!
# Dates and times

Days are counted from 1970-01-01 in the Gregorian calendar, extended to all years.

* `Civil.ofDays`, `Civil.toDays`   a date and its day;
* `Civil.isValid`                  the date is in the calendar;
* `timestampText`                  seconds since 1970 as `2023-11-14T22:13:20Z`.
-/

namespace ProxyMesh.Time

structure Civil where
  year : Int
  month : Nat
  day : Nat
deriving DecidableEq, Repr

def isLeap (year : Int) : Bool := year % 4 = 0 && (year % 100 != 0 || year % 400 = 0)

def daysInMonth (year : Int) (month : Nat) : Nat :=
  if month = 2 then (if isLeap year then 29 else 28)
  else if month = 4 || month = 6 || month = 9 || month = 11 then 30
  else 31

namespace Civil

def isValid (c : Civil) : Bool :=
  1 ≤ c.month && c.month ≤ 12 && 1 ≤ c.day && c.day ≤ daysInMonth c.year c.month

/-- the year counted from March on, so that the leap day comes last -/
def toDays (c : Civil) : Int :=
  let y : Int := if c.month ≤ 2 then c.year - 1 else c.year
  let era := y / 400
  let yearOfEra := y - era * 400
  let month : Int := ((c.month : Int) + 9) % 12
  let dayOfYear := (153 * month + 2) / 5 + c.day - 1
  let dayOfEra := yearOfEra * 365 + yearOfEra / 4 - yearOfEra / 100 + dayOfYear
  era * 146097 + dayOfEra - 719468

def ofDays (days : Int) : Civil :=
  let z := days + 719468
  let era := z / 146097
  let dayOfEra := z - era * 146097
  let yearOfEra := (dayOfEra - dayOfEra / 1460 + dayOfEra / 36524 - dayOfEra / 146096) / 365
  let dayOfYear := dayOfEra - (365 * yearOfEra + yearOfEra / 4 - yearOfEra / 100)
  let month := (5 * dayOfYear + 2) / 153
  let day := dayOfYear - (153 * month + 2) / 5 + 1
  let year := yearOfEra + era * 400
  if month < 10 then ⟨year, (month + 3).toNat, day.toNat⟩
  else ⟨year + 1, (month - 9).toNat, day.toNat⟩

end Civil

/-- a number with zeros in front -/
def padded (width n : Nat) : String :=
  let digits := toString n
  String.ofList (List.replicate (width - digits.length) '0') ++ digits

/-- years of four digits as they are, others with a sign -/
def yearText (year : Int) : String :=
  if 0 ≤ year && year ≤ 9999 then padded 4 year.toNat
  else (if year < 0 then "-" else "+") ++ padded 4 year.natAbs

/-- the last second that has a text -/
def secondsMax : Nat := 8210266876799

/-- seconds since 1970 in coordinated universal time, `none` beyond the range -/
def timestampText (seconds : Nat) : Option String :=
  if secondsMax < seconds then none
  else
    let c := Civil.ofDays ((seconds / 86400 : Nat) : Int)
    let s := seconds % 86400
    some (yearText c.year ++ "-" ++ padded 2 c.month ++ "-" ++ padded 2 c.day ++ "T" ++
      padded 2 (s / 3600) ++ ":" ++ padded 2 (s / 60 % 60) ++ ":" ++ padded 2 (s % 60) ++ "Z")

example : timestampText 1700000000 = some "2023-11-14T22:13:20Z" := by decide +kernel
example : timestampText 253402300800 = some "+10000-01-01T00:00:00Z" := by decide +kernel
example : (Civil.toDays ⟨2023, 11, 14⟩) = 19675 := by decide +kernel

end ProxyMesh.Time
