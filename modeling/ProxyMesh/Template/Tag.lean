import ProxyMesh.Template.Operand

/-!
# Tags of a template

* `Tag`        what stands between braces;
* `readTag`    the tag at the start of a text, if it is well formed;
* `scanText`   the text up to the next tag, a backslash in front of braces taken away.

Blanks may stand between the parts of a tag.  A tilde at an end of a tag takes away the white space
outside that end.  No other templates can be named, so tags that include or define one are malformed.
-/

namespace ProxyMesh.Template

inductive Tag where
  | value (operand : Operand)
  | call (head : Head)
  | openBlock (head : Head) (names : List String)
  | chain (head : Head) (names : List String)
  | invert
  | close (name : String)
  | openRaw (head : Head) (names : List String)
  | closeRaw (name : String)
  | comment

/-- a tag with the tildes at its ends -/
structure Marked where
  tag : Tag
  trimBefore : Bool
  trimAfter : Bool

/-- a tag between `opening` and `closing` -/
def readBetween (opening closing : String) (content : Reader Tag) : Reader Marked := fun s => do
  let s ← expect opening s
  let s := skipSpace s
  let before := expect "~" s
  let (tag, s) ← content (skipSpace (before.getD s))
  let s := skipSpace s
  let after := expect "~" s
  let rest ← expect closing (skipSpace (after.getD s))
  pure (⟨tag, before.isSome, after.isSome⟩, rest)

/-- a value, or a helper that is given something -/
def readExpression : Reader Tag := fun s =>
  match readHead s with
  | some (⟨_, [], []⟩, _) => readValue s
  | some (head, rest) => some (.call head, rest)
  | none => readValue s
where
  readValue : Reader Tag := fun s =>
    match (expect "(" s).bind fun rest => readCall s.length (skipSpace rest) with
    | some (operand, rest) => some (.value operand, rest)
    | none => (readPath s).map fun (path, rest) => (.value (.path path), rest)

/-- `as |name|` or `as |name name|` -/
def readNames : List Char → List String × List Char := fun s =>
  let names := do
    let rest ← expect "as" (skipSpace s)
    let rest ← expect "|" (skipSpace rest)
    let (first, rest) ← readIdentifier (skipSpace rest)
    match readIdentifier (skipSpace rest) with
    | some (second, rest) => (expect "|" (skipSpace rest)).map ([first, second], ·)
    | none => (expect "|" (skipSpace rest)).map ([first], ·)
  names.getD ([], s)

/-- a helper and the names that it gives -/
def readBlockHead (make : Head → List String → Tag) : Reader Tag := fun s =>
  (readHead s).map fun (head, rest) =>
    let (names, rest) := readNames rest
    (make head names, rest)

/-- `else` or `^` -/
def skipInvert (s : List Char) : Option (List Char) := (expect "else" s).or (expect "^" s)

/-- a name after a slash -/
def readClose (make : String → Tag) : Reader Tag := fun s => do
  let s ← expect "/" s
  let (name, rest) ← readIdentifier (skipSpace s)
  pure (make name, rest)

def readComment : Reader Marked := fun s => do
  let body ← expect "\x7b\x7b!" s
  let long := (expect "--" (skipSpace body)).bind (Text.cutAt "--\x7d\x7d".toList)
  let (_, rest) ← long.or (Text.cutAt "\x7d\x7d".toList body)
  pure (⟨.comment, false, false⟩, rest)

/-- the tag at the start of a text -/
def readTag : Reader Marked := fun s =>
  let double := readBetween "\x7b\x7b" "\x7d\x7d"
  let readers : List (Reader Marked) := [
    double fun s => (skipInvert s).map (.invert, ·),
    double fun s => (skipInvert s).bind fun rest => readBlockHead .chain (skipSpace rest),
    double readExpression,
    readBetween "\x7b\x7b\x7b" "\x7d\x7d\x7d" readExpression,
    double fun s => do
      let s ← expect "\x7b" s
      let (tag, rest) ← readExpression (skipSpace s)
      (expect "\x7d" (skipSpace rest)).map (tag, ·),
    double fun s => (expect "&" s).bind fun rest => readExpression.readValue (skipSpace rest),
    double fun s => (expect "#" s).bind fun rest => readBlockHead .openBlock (skipSpace rest),
    double (readClose .close),
    readBetween "\x7b\x7b\x7b\x7b" "\x7d\x7d\x7d\x7d" (readBlockHead .openRaw),
    readComment]
  readers.findSome? fun reader => reader s

/-- the end of a raw block -/
def readRawClose : Reader Marked :=
  readBetween "\x7b\x7b\x7b\x7b" "\x7d\x7d\x7d\x7d" (readClose .closeRaw)

def startsWith (word : String) (s : List Char) : Bool := (expect word s).isSome

/-- characters in front of a text and what follows it -/
def ahead (chars : List Char) (r : List Char × List Char) : List Char × List Char :=
  (chars ++ r.1, r.2)

/-- the text up to the next `stop`.  One backslash in front of braces makes them text; of several the
first is taken away and the braces are a tag. -/
def scanTextAux (stop : String) : Nat → List Char → List Char × List Char
  | 0, s => ([], s)
  | _, [] => ([], [])
  | fuel + 1, c :: rest =>
    if c = '\\' then
      let slashes := rest.takeWhile (· = '\\')
      let after := rest.dropWhile (· = '\\')
      if !startsWith "\x7b\x7b" after then ahead (c :: slashes) (scanTextAux stop fuel after)
      else if !slashes.isEmpty then
        if startsWith stop after then (slashes, after)
        else ahead (slashes ++ after.take 1) (scanTextAux stop fuel (after.drop 1))
      else
        let braces := if startsWith "\x7b\x7b\x7b\x7b" after then 4 else 2
        ahead (after.take braces) (scanTextAux stop fuel (after.drop braces))
    else if startsWith stop (c :: rest) then ([], c :: rest)
    else ahead [c] (scanTextAux stop fuel rest)

def scanText (stop : String) (s : List Char) : List Char × List Char :=
  scanTextAux stop s.length s

end ProxyMesh.Template
