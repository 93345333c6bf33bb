import ProxyMesh.Number.Reading
import ProxyMesh.Text.Lines
import ProxyMesh.Time.Reading

/-!
# Probes in the runtime's log

    2023/11/14 22:13:20 ... outbound [ro_1_10] is alive, delay 123.5ms
    outbound [ro_1_10] is dead: connection refused

* `Observation`    the outcome of a probe;
* `readProbe?`     the outcome that a line tells, `none` for every other line.

The first place in the line counts at which the whole form fits.  A delay is the first number after
`alive` and must be followed by `ms`.  A reason is the rest of the line without blanks at its ends.
-/

namespace ProxyMesh

structure Observation where
  tag : String
  alive : Bool
  delayMs : Option Binary64
  reason : Option String
  /-- the time that the line itself gives -/
  time : Option Nat
deriving DecidableEq, Repr

/-- the first suffix that `f` takes -/
def firstSuffix {α : Type} (f : List Char → Option α) : List Char → Option α
  | [] => f []
  | c :: rest => (f (c :: rest)).or (firstSuffix f rest)

/-- the tag between brackets after `outbound`, and what follows the closing one -/
def readProbeTag (s : List Char) : Option (String × List Char) := do
  let s ← Text.stripStart "outbound [".toList s
  let tag := s.takeWhile (· != ']')
  if tag.isEmpty then none
  else
    let rest ← Text.stripStart [']'] (s.dropWhile (· != ']'))
    pure (String.ofList tag, rest)

/-- the digits of a number with an optional fraction, and what follows them -/
def readDelay (s : List Char) : Option (List Char × List Char) :=
  let whole := s.takeWhile Text.isDecimalDigit
  let rest := s.dropWhile Text.isDecimalDigit
  if whole.isEmpty then none
  else match rest with
    | '.' :: after =>
      let fraction := after.takeWhile Text.isDecimalDigit
      if fraction.isEmpty then some (whole, rest)
      else some (whole ++ '.' :: fraction, after.dropWhile Text.isDecimalDigit)
    | _ => some (whole, rest)

/-- a probe that succeeded, at the start of a text: the tag and the delay -/
def readAlive (s : List Char) : Option (String × List Char) := do
  let (tag, s) ← readProbeTag s
  let s ← Text.stripStart " is alive".toList s
  let (delay, s) ← readDelay (s.dropWhile (!Text.isDecimalDigit ·))
  let _ ← Text.stripStart ['m', 's'] (s.dropWhile Text.isBlank)
  pure (tag, delay)

/-- a text without the colon that it may begin with -/
def dropColon : List Char → List Char
  | ':' :: rest => rest
  | s => s

/-- a probe that failed, at the start of a text: the tag and the reason, which is one line -/
def readDead (s : List Char) : Option (String × List Char) := do
  let (tag, s) ← readProbeTag s
  let s ← Text.stripStart " is dead".toList s
  let reason := Text.trimChars (dropColon s)
  if reason.contains '\n' then none else pure (tag, reason)

/-- the time at the start of a line -/
def probeTime? (s : List Char) : Option Nat := do
  let (year, s) ← Time.readNumber 4 4 s
  let s ← Time.expectChar '/' s
  let (month, s) ← Time.readNumber 2 2 s
  let s ← Time.expectChar '/' s
  let (day, s) ← Time.readNumber 2 2 s
  let s ← Time.expectChar ' ' s
  let (hour, s) ← Time.readNumber 2 2 s
  let s ← Time.expectChar ':' s
  let (minute, s) ← Time.readNumber 2 2 s
  let s ← Time.expectChar ':' s
  let (second, _) ← Time.readNumber 2 2 s
  let seconds ← Time.secondsOf ⟨year, month, day⟩ hour minute second
  if 0 ≤ seconds then pure seconds.toNat else none

def readProbe? (line : String) : Option Observation :=
  let s := line.toList
  match firstSuffix readAlive s with
  | some (tag, delay) => some ⟨tag, true, Binary64.read? delay, none, probeTime? s⟩
  | none => (firstSuffix readDead s).map fun (tag, reason) =>
    ⟨tag, false, none, if reason.isEmpty then none else some (String.ofList reason), probeTime? s⟩

example : (readProbe? "2023/11/14 22:13:20 outbound [ro_1_10] is alive, delay 123.5ms") =
    some ⟨"ro_1_10", true, some (.ofDecimal false 1235 (-1)), none, some 1700000000⟩ := by
  decide +kernel

end ProxyMesh
