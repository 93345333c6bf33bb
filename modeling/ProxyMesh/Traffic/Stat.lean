import ProxyMesh.Accounting.Fold
import ProxyMesh.Text.Lines
import ProxyMesh.Text.Naturals

/-!
# Traffic statistics by name

    user>>>period3.profile9.user4@domain>>>traffic>>>downlink
    user>>>rule1.node2@domain>>>traffic>>>uplink
    inbound>>>tag>>>traffic>>>downlink          outbound>>>...

* `Subject`      who a statistic counts traffic for;
* `classify?`    subject and direction of a name; names of other users have none.
-/

namespace ProxyMesh

inductive Subject where
  | user (period profile : Id) (member : Option Id)
  | internalUser (rule node : Id)
  | inbound (tag : String)
  | outbound (tag : String)
deriving DecidableEq, Repr

namespace Subject

/-- subjects are ordered by kind, then by their parts -/
def rank : Subject → (UInt64 × UInt64 × UInt64 × UInt64 × UInt64) × String
  | .user period profile none => ((0, period, profile, 0, 0), "")
  | .user period profile (some member) => ((0, period, profile, 1, member), "")
  | .internalUser rule node => ((1, rule, node, 0, 0), "")
  | .inbound tag => ((2, 0, 0, 0, 0), tag)
  | .outbound tag => ((3, 0, 0, 0, 0), tag)

theorem eq_of_rank_eq {s t : Subject} (h : s.rank = t.rank) : s = t := by
  unfold rank at h
  split at h <;> split at h <;> simp_all

instance : Key Subject where
  before s t := before s.rank t.rank
  irrefl s := Key.irrefl s.rank
  trans _ _ _ h₁ h₂ := Key.trans _ _ _ h₁ h₂
  connex _ _ h₁ h₂ := eq_of_rank_eq (Key.connex _ _ h₁ h₂)

end Subject

inductive Direction where
  | downlink
  | uplink
deriving DecidableEq, Repr

namespace Direction

def word : Direction → String
  | .downlink => "downlink"
  | .uplink => "uplink"

/-- the field that a direction is kept in -/
def field : Direction → String
  | .downlink => downloadField
  | .uplink => uploadField

def ofChars? (s : List Char) : Option Direction :=
  [downlink, uplink].find? (·.word.toList == s)

end Direction

/-- what stands between the subject and the direction -/
def trafficMark : List Char := ">>>traffic>>>".toList

/-- characters up to the first `>`, then the direction -/
def readTail (s : List Char) : Option (List Char × Direction) := do
  let rest ← Text.stripStart trafficMark (s.dropWhile (· != '>'))
  let direction ← Direction.ofChars? rest
  pure (s.takeWhile (· != '>'), direction)

/-- one or more digits of any script, and what follows them -/
def readDigits (s : List Char) : Option (List Char × List Char) :=
  let digits := s.takeWhile Text.isDecimalDigit
  if digits.isEmpty then none else some (digits, s.dropWhile Text.isDecimalDigit)

/-- the number of a user of a profile, if one is named -/
def userPart (s : List Char) : Option Id :=
  match Text.stripStart ".user".toList s with
  | some rest => (readDigits rest).bind fun (digits, _) => Text.readWord digits
  | none => none

/-- the parts of a subscriber's name: digits of period and profile, and what follows them -/
def readUser (s : List Char) : Option (List Char × List Char × List Char × Direction) := do
  let s ← Text.stripStart "user>>>period".toList s
  let (period, s) ← readDigits s
  let s ← Text.stripStart ".profile".toList s
  let (profile, s) ← readDigits s
  let (rest, direction) ← readTail s
  pure (period, profile, rest, direction)

/-- the parts of an internal user's name -/
def readInternalUser (s : List Char) : Option (List Char × List Char × Direction) := do
  let s ← Text.stripStart "user>>>rule".toList s
  let (rule, s) ← readDigits s
  let s ← Text.stripStart ".node".toList s
  let (node, s) ← readDigits s
  let (_, direction) ← readTail s
  pure (rule, node, direction)

/-- the tag of an endpoint's name -/
def readEndpoint (kind : List Char) (s : List Char) : Option (String × Direction) := do
  let s ← Text.stripStart kind s
  let (tag, direction) ← readTail s
  if tag.isEmpty then none else pure (String.ofList tag, direction)

/-- subject and direction; a number that 64 bits do not hold spoils the name -/
def classify? (name : String) : Option (Subject × Direction) :=
  let s := name.toList
  match readUser s, readInternalUser s with
  | some (period, profile, rest, direction), _ => do
    let period ← Text.readWord period
    let profile ← Text.readWord profile
    pure (.user period profile (userPart rest), direction)
  | none, some (rule, node, direction) => do
    let rule ← Text.readWord rule
    let node ← Text.readWord node
    pure (.internalUser rule node, direction)
  | none, none =>
    match readEndpoint "inbound>>>".toList s with
    | some (tag, direction) => some (.inbound tag, direction)
    | none => (readEndpoint "outbound>>>".toList s).map fun (tag, direction) =>
      (.outbound tag, direction)

example : classify? "user>>>period3.profile9.user4@d>>>traffic>>>downlink" =
    some (.user 3 9 (some 4), .downlink) := by decide +kernel
example : classify? "outbound>>>ro_1_2>>>traffic>>>uplink" =
    some (.outbound "ro_1_2", .uplink) := by decide +kernel

end ProxyMesh
