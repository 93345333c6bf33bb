import ProxyMesh.Json.Fault
import ProxyMesh.Json.Tree
import ProxyMesh.Text.Naturals

/-!
# The first fault of a JSON text

A text is read once from its start against the shape that it should have, and the first thing that
does not fit is its fault, a slip of notation as well as a value of the wrong kind.

* `Shape`          what a value may be;
* `scanValue`      a value of some shape, and what follows it;
* `firstFault?`    the fault of a text, `none` if it has the shape.
-/

namespace ProxyMesh.Json

/-- whether a field may be left out: nowhere, of an object only, or of a list of fields as well -/
inductive Presence where
  | required
  | optional
  | defaulted
deriving DecidableEq, Repr

inductive Shape where
  | anything
  /-- notation matters, the value does not -/
  | skipped
  | text
  | flag
  /-- a whole number of so many bits -/
  | whole (bits : Nat)
  | optional (shape : Shape)
  | list (item : Shape)
  /-- an object whose field names are free -/
  | map (value : Shape)
  | oneOf (choices : List String)
  | record (name : String) (fields : List (String × Presence × Shape))
deriving Inhabited

/-- reading that may stop -/
abbrev Scan := Except Stop

/-- a stop before the next character -/
def stopAt {α : Type} (cause : Cause) (rest : List Char) : Scan α := .error ⟨cause, rest, 0⟩

/-- a stop on the next character -/
def stopOn {α : Type} (cause : Cause) (rest : List Char) : Scan α :=
  .error ⟨cause, rest, if rest.isEmpty then 0 else 1⟩

/-! ## words, texts and numbers -/

/-- the letters of a word after its first -/
def scanLetters : List Char → List Char → Scan (List Char)
  | [], s => .ok s
  | _ :: _, [] => stopAt .valueMissing []
  | l :: letters, c :: rest =>
    if l = c then scanLetters letters rest else stopOn .wordExpected (c :: rest)

/-- the code unit of four hexadecimal digits -/
def scanUnit (s : List Char) : Scan (Nat × List Char) :=
  if (String.ofList s).utf8ByteSize < 4 then stopAt .textUnclosed []
  else match s with
    | a :: b :: c :: d :: rest =>
      match Tree.codeUnit? a b c d with
      | some unit => .ok (unit, rest)
      | none => .error ⟨.badEscape, s, 4⟩
    | _ => .error ⟨.badEscape, s, 4⟩

/-- the low surrogate that has to follow a high one -/
def scanLow (high : Nat) (s : List Char) : Scan (Char × List Char) :=
  match s with
  | [] => stopAt .textUnclosed []
  | '\\' :: [] => stopAt .textUnclosed []
  | '\\' :: 'u' :: rest => do
    let (low, rest) ← scanUnit rest
    if Tree.isLowSurrogate low then .ok (Tree.joinSurrogates high low, rest)
    else stopAt .surrogateAlone rest
  | '\\' :: rest => stopOn .escapeUnpaired rest
  | rest => stopOn .escapeUnpaired rest

/-- the character of an escape after its backslash; `strict` if it has to be one -/
def scanEscape (strict : Bool) (s : List Char) : Scan (Char × List Char) :=
  match s with
  | [] => stopAt .textUnclosed []
  | 'u' :: rest => do
    let (unit, rest) ← scanUnit rest
    if !strict then .ok (' ', rest)
    else if Tree.isLowSurrogate unit then stopAt .surrogateAlone rest
    else if Tree.isHighSurrogate unit then scanLow unit rest
    else .ok (Char.ofNat unit, rest)
  | c :: rest =>
    match Tree.simpleEscape? c with
    | some e => .ok (e, rest)
    | none => stopOn .badEscape (c :: rest)

/-- the characters up to the closing quote; `fuel` bounds their number -/
def scanText (strict : Bool) : Nat → List Char → Scan (List Char × List Char)
  | 0, s => stopAt .textUnclosed s
  | _, [] => stopAt .textUnclosed []
  | fuel + 1, c :: rest =>
    if c = '"' then .ok ([], rest)
    else if c.toNat < 0x20 then stopOn .controlCharacter (c :: rest)
    else do
      let (first, rest) ← if c = '\\' then scanEscape strict rest else .ok (c, rest)
      let (chars, rest) ← scanText strict fuel rest
      .ok (first :: chars, rest)

def scanWhole (s : List Char) : Scan (List Char × List Char) :=
  match s with
  | [] => stopAt .valueMissing []
  | '0' :: rest =>
    if rest.head?.any Tree.isDigit then stopOn .badNumber rest else .ok (['0'], rest)
  | c :: rest =>
    if Tree.isDigit c then .ok ((c :: rest).takeWhile Tree.isDigit, (c :: rest).dropWhile Tree.isDigit)
    else stopOn .badNumber (c :: rest)

def scanFraction (s : List Char) : Scan (Option (List Char) × List Char) :=
  match s with
  | '.' :: rest =>
    let digits := rest.takeWhile Tree.isDigit
    if !digits.isEmpty then .ok (some digits, rest.dropWhile Tree.isDigit)
    else if rest.isEmpty then stopAt .valueMissing []
    else stopOn .badNumber rest
  | s => .ok (none, s)

def scanExponent (s : List Char) : Scan (Option (Bool × List Char) × List Char) :=
  match s with
  | [] => .ok (none, [])
  | c :: rest =>
    if c != 'e' && c != 'E' then .ok (none, c :: rest)
    else
      let (down, rest) := match rest with
        | '-' :: r => (true, r)
        | '+' :: r => (false, r)
        | r => (false, r)
      let digits := rest.takeWhile Tree.isDigit
      if !digits.isEmpty then .ok (some (down, digits), rest.dropWhile Tree.isDigit)
      else if rest.isEmpty then stopAt .valueMissing []
      else stopOn .badNumber rest

/-- a number; without `strict` it may be above the range -/
def scanNumber (strict : Bool) (s : List Char) : Scan (Json × List Char) := do
  let (negative, s) := match s with
    | '-' :: r => (true, r)
    | r => (false, r)
  let (whole, s) ← scanWhole s
  let (fraction, s) ← scanFraction s
  let (exponent, s) ← scanExponent s
  match (Numeral.mk negative whole fraction exponent).value, strict with
  | some n, _ => .ok (n, s)
  | none, false => .ok (.null, s)
  | none, true => stopAt .numberTooBig s

/-! ## values of the wrong kind -/

def wholeName (bits : Nat) : String := "u" ++ toString bits

/-- the fields of a record, counted -/
def lengthText (name : String) (count : Nat) : String :=
  name ++ " with " ++ toString count ++ (if count = 1 then " element" else " elements")

/-- what a number is called -/
def numberText : Json → String
  | .real x => "floating point " ++ accented (Json.real x).compact
  | n => "integer " ++ accented n.compact

/-- a value that should have been something else -/
def refuse (expected : String) (s : List Char) : Scan (List Char) :=
  match s with
  | [] => stopAt .valueMissing []
  | c :: rest =>
    if c = 'n' then do
      stopAt (.wrongType "null" expected) (← scanLetters "ull".toList rest)
    else if c = 't' then do
      stopAt (.wrongType ("boolean " ++ accented "true") expected) (← scanLetters "rue".toList rest)
    else if c = 'f' then do
      stopAt (.wrongType ("boolean " ++ accented "false") expected)
        (← scanLetters "alse".toList rest)
    else if c = '-' || Tree.isDigit c then do
      let (n, rest) ← scanNumber true (c :: rest)
      stopAt (.wrongType (numberText n) expected) rest
    else if c = '"' then do
      let (chars, rest) ← scanText true (rest.length + 1) rest
      stopAt (.wrongType ("string " ++ Text.quoted (String.ofList chars)) expected) rest
    else if c = '[' then stopAt (.wrongType "sequence" expected) (c :: rest)
    else if c = '\x7b' then stopAt (.wrongType "map" expected) (c :: rest)
    else stopOn .valueExpected (c :: rest)

/-- a whole number of so many bits -/
def scanNat (bits : Nat) (s : List Char) : Scan (List Char) :=
  if s.head?.any fun c => c = '-' || Tree.isDigit c then do
    let (n, rest) ← scanNumber true s
    match n with
    | .int i =>
      if 0 ≤ i && i < Nat.pow 2 bits then .ok rest
      else stopAt (.wrongValue (numberText n) (wholeName bits)) rest
    | n => stopAt (.wrongType (numberText n) (wholeName bits)) rest
  else refuse (wholeName bits) s

/-- one of a few words -/
def scanChoice (choices : List String) (s : List Char) : Scan (List Char) :=
  match s with
  | '"' :: rest => do
    let (chars, rest) ← scanText true (rest.length + 1) rest
    if choices.contains (String.ofList chars) then .ok rest
    else stopAt (.unknownWord (String.ofList chars) choices) rest
  | s => stopOn .valueExpected s

/-! ## lists and objects -/

/-- the next item of a list, `none` at its end; `strict` sees a comma before the end -/
def nextItem (strict isFirst : Bool) (s : List Char) : Scan (Option (List Char)) :=
  match Tree.skipSpace s with
  | [] => stopAt .listUnclosed []
  | ']' :: _ => .ok none
  | c :: rest =>
    if isFirst then .ok (some (c :: rest))
    else if c != ',' then stopOn .listCommaExpected (c :: rest)
    else match Tree.skipSpace rest with
      | ']' :: rest => if strict then stopOn .commaAtEnd (']' :: rest) else .ok (some (']' :: rest))
      | rest => .ok (some rest)

/-- the next name of an object after its opening quote, `none` at the object's end -/
def nextName (strict isFirst : Bool) (s : List Char) : Scan (Option (List Char)) :=
  match Tree.skipSpace s with
  | [] => stopAt .objectUnclosed []
  | '\x7d' :: _ => .ok none
  | c :: rest =>
    if isFirst then
      if c = '"' then .ok (some rest) else stopOn .keyNotText (c :: rest)
    else if c != ',' then stopOn .objectCommaExpected (c :: rest)
    else match Tree.skipSpace rest with
      | '"' :: rest => .ok (some rest)
      | [] => stopAt (if strict then .valueMissing else .objectUnclosed) []
      | c :: rest => stopOn (if strict && c = '\x7d' then .commaAtEnd else .keyNotText) (c :: rest)

/-- the colon after a name -/
def scanColon (s : List Char) : Scan (List Char) :=
  match Tree.skipSpace s with
  | ':' :: rest => .ok rest
  | [] => stopAt .objectUnclosed []
  | rest => stopOn .colonExpected rest

/-- the end of a list -/
def closeList (s : List Char) : Scan (List Char) :=
  match Tree.skipSpace s with
  | ']' :: rest => .ok rest
  | ',' :: rest =>
    match Tree.skipSpace rest with
    | ']' :: rest => stopOn .commaAtEnd (']' :: rest)
    | rest => stopOn .textAtEnd rest
  | [] => stopAt .listUnclosed []
  | rest => stopOn .textAtEnd rest

/-- where a list is left when it does not hold what it should -/
def leaveList (s : List Char) : List Char :=
  match Tree.skipSpace s with
  | ']' :: rest => rest
  | ',' :: rest => Tree.skipSpace rest
  | rest => rest

/-- where an object is left when it does not hold what it should -/
def leaveObject (s : List Char) : List Char :=
  match Tree.skipSpace s with
  | '\x7d' :: rest => rest
  | rest => rest

/-- the first field that had to be there -/
def missing? (fields : List (String × Presence × Shape)) (seen : List String) : Option String :=
  (fields.find? fun (name, presence, _) => presence == .required && !seen.contains name).map (·.1)

mutual
/-- a value of a shape; `depth` more containers may be around others, and `fuel` bounds the values
that can follow -/
def scanValue : Nat → Nat → Shape → List Char → Scan (List Char)
  | 0, _, _, s => stopAt .valueMissing s
  | fuel + 1, depth, shape, s =>
    let s := Tree.skipSpace s
    match shape, s with
    | _, [] => stopAt .valueMissing []
    | .optional inner, c :: rest =>
      if c = 'n' then scanLetters "ull".toList rest else scanValue fuel depth inner s
    | .text, '"' :: rest => do
      let (_, rest) ← scanText true (rest.length + 1) rest
      .ok rest
    | .text, s => refuse "a string" s
    | .flag, 't' :: rest => scanLetters "rue".toList rest
    | .flag, 'f' :: rest => scanLetters "alse".toList rest
    | .flag, s => refuse "a boolean" s
    | .whole bits, s => scanNat bits s
    | .oneOf choices, s => scanChoice choices s
    | .list item, '[' :: rest =>
      match depth with
      | 0 => stopOn .tooDeep s
      | depth + 1 => scanItems fuel depth true item true rest
    | .list _, s => refuse "a sequence" s
    | .map value, '\x7b' :: rest =>
      match depth with
      | 0 => stopOn .tooDeep s
      | depth + 1 => scanPairs fuel depth true value true rest
    | .map _, s => refuse "a map" s
    | .record _ fields, '\x7b' :: rest =>
      match depth with
      | 0 => stopOn .tooDeep s
      | depth + 1 => scanFields fuel depth fields [] true rest
    | .record name fields, '[' :: rest =>
      match depth with
      | 0 => stopOn .tooDeep s
      | depth + 1 =>
        scanRow fuel depth (lengthText name fields.length) 0 true fields rest
    | .record name _, s => refuse name s
    | free, c :: rest =>
      let strict := match free with
        | .skipped => false
        | _ => true
      if c = 'n' then scanLetters "ull".toList rest
      else if c = 't' then scanLetters "rue".toList rest
      else if c = 'f' then scanLetters "alse".toList rest
      else if c = '-' || Tree.isDigit c then (scanNumber strict s).map (·.2)
      else if c = '"' then (scanText strict (rest.length + 1) rest).map (·.2)
      else if c = '[' then
        match depth, strict with
        | 0, true => stopOn .tooDeep s
        | depth, _ => scanItems fuel (depth - 1) strict free true rest
      else if c = '\x7b' then
        match depth, strict with
        | 0, true => stopOn .tooDeep s
        | depth, _ => scanPairs fuel (depth - 1) strict free true rest
      else stopOn .valueExpected s
/-- the items of a list and its end -/
def scanItems : Nat → Nat → Bool → Shape → Bool → List Char → Scan (List Char)
  | 0, _, _, _, _, s => stopAt .valueMissing s
  | fuel + 1, depth, strict, item, isFirst, s => do
    match ← nextItem strict isFirst s with
    | none => closeList s
    | some s => scanItems fuel depth strict item false (← scanValue fuel depth item s)
/-- the fields of an object with free names and its end -/
def scanPairs : Nat → Nat → Bool → Shape → Bool → List Char → Scan (List Char)
  | 0, _, _, _, _, s => stopAt .valueMissing s
  | fuel + 1, depth, strict, value, isFirst, s => do
    match ← nextName strict isFirst s with
    | none => .ok (leaveObject s)
    | some s =>
      let (_, s) ← scanText strict (s.length + 1) s
      scanPairs fuel depth strict value false (← scanValue fuel depth value (← scanColon s))
/-- the fields of a record written as an object and its end; those in `seen` were there -/
def scanFields : Nat → Nat → List (String × Presence × Shape) → List String → Bool → List Char →
    Scan (List Char)
  | 0, _, _, _, _, s => stopAt .valueMissing s
  | fuel + 1, depth, fields, seen, isFirst, s => do
    match ← nextName true isFirst s with
    | none =>
      match missing? fields seen with
      | some name => stopAt (.missingField name) (leaveObject s)
      | none => .ok (leaveObject s)
    | some s =>
      let (chars, s) ← scanText true (s.length + 1) s
      let name := String.ofList chars
      match fields.lookup name with
      | none =>
        scanFields fuel depth fields seen false (← scanValue fuel depth .skipped (← scanColon s))
      | some (_, shape) =>
        if seen.contains name then stopAt (.repeatedField name) (leaveObject s)
        else
          scanFields fuel depth fields (name :: seen) false
            (← scanValue fuel depth shape (← scanColon s))
/-- the fields of a record written as a list and its end; `count` of them were there -/
def scanRow : Nat → Nat → String → Nat → Bool → List (String × Presence × Shape) → List Char →
    Scan (List Char)
  | 0, _, _, _, _, _, s => stopAt .valueMissing s
  | _, _, _, _, _, [], s => closeList s
  | fuel + 1, depth, expected, count, isFirst, (_, presence, shape) :: fields, s => do
    match ← nextItem true isFirst s with
    | some s =>
      scanRow fuel depth expected (count + 1) false fields (← scanValue fuel depth shape s)
    | none =>
      match (presence :: fields.map (·.2.1)).findIdx? (· != .defaulted) with
      | some ahead => stopAt (.wrongLength (count + ahead) expected) (leaveList s)
      | none => closeList s
end

/-- nothing but blanks may follow the value -/
def scanDocument (shape : Shape) (s : List Char) : Scan Unit := do
  match Tree.skipSpace (← scanValue (2 * s.length + 2) Tree.depthMax shape s) with
  | [] => .ok ()
  | rest => stopOn .textAtEnd rest

/-- the first fault of a text that should have a shape -/
def firstFault? (shape : Shape) (text : String) : Option Fault :=
  match scanDocument shape text.toList with
  | .ok () => none
  | .error stop => some (stop.locate text)

end ProxyMesh.Json
