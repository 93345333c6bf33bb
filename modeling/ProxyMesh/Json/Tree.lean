import ProxyMesh.Json.Number

/-!
# What a JSON text says

A tree keeps the fields of an object in the order written, repeated ones too.  A number above the
range and a text with half a surrogate pair are kept as `none`: they matter only where the value
is used.

* `Tree.read`     the tree of a text, `none` if the text is no JSON;
* `Tree.value?`   the value of a tree, whose containers nest at most `depth` deep;
* `Json.parse`    the value of a text, nested at most 127 containers deep.
-/

namespace ProxyMesh.Json

inductive Tree where
  | null
  | bool (value : Bool)
  | number (value : Option Json)
  | text (value : Option String)
  | list (items : List Tree)
  | record (fields : List (Option String × Tree))
deriving Inhabited

namespace Tree

def isSpace (c : Char) : Bool := c = ' ' || c = '\n' || c = '\t' || c = '\r'

def skipSpace (s : List Char) : List Char := s.dropWhile isSpace

def isDigit (c : Char) : Bool := '0' ≤ c && c ≤ '9'

def hexValue? (c : Char) : Option Nat :=
  if '0' ≤ c && c ≤ '9' then some (c.toNat - '0'.toNat)
  else if 'a' ≤ c && c ≤ 'f' then some (c.toNat - 'a'.toNat + 10)
  else if 'A' ≤ c && c ≤ 'F' then some (c.toNat - 'A'.toNat + 10)
  else none

/-- the code unit of four hexadecimal digits -/
def codeUnit? (a b c d : Char) : Option Nat := do
  let a ← hexValue? a
  let b ← hexValue? b
  let c ← hexValue? c
  let d ← hexValue? d
  pure (((a * 16 + b) * 16 + c) * 16 + d)

def isHighSurrogate (unit : Nat) : Bool := 0xD800 ≤ unit && unit < 0xDC00
def isLowSurrogate (unit : Nat) : Bool := 0xDC00 ≤ unit && unit < 0xE000

def joinSurrogates (high low : Nat) : Char :=
  Char.ofNat (0x10000 + (high - 0xD800) * 0x400 + (low - 0xDC00))

def simpleEscape? : Char → Option Char
  | '"' => some '"'
  | '\\' => some '\\'
  | '/' => some '/'
  | 'b' => some '\x08'
  | 'f' => some '\x0c'
  | 'n' => some '\n'
  | 'r' => some '\r'
  | 't' => some '\t'
  | _ => none

/-- characters in front of the rest of a text -/
def ahead (c : Char) : Option (Option (List Char) × List Char) →
    Option (Option (List Char) × List Char)
  | some (chars, rest) => some (chars.map (c :: ·), rest)
  | none => none

/-- a text that cannot be used when a high surrogate stands alone before it -/
def unpaired (high : Option Nat) (r : Option (Option (List Char) × List Char)) :
    Option (Option (List Char) × List Char) :=
  match high, r with
  | some _, some (_, rest) => some (none, rest)
  | _, r => r

/-- the characters up to the closing quote, and what follows it; `high` is a high surrogate that
stands directly before -/
def readText (high : Option Nat) : List Char → Option (Option (List Char) × List Char)
  | [] => none
  | '"' :: rest => unpaired high (some (some [], rest))
  | '\\' :: 'u' :: a :: b :: c :: d :: rest =>
    match codeUnit? a b c d with
    | none => none
    | some unit =>
      if isLowSurrogate unit then
        match high with
        | some high => ahead (joinSurrogates high unit) (readText none rest)
        | none => unpaired (some unit) (readText none rest)
      else if isHighSurrogate unit then unpaired high (readText (some unit) rest)
      else unpaired high (ahead (Char.ofNat unit) (readText none rest))
  | '\\' :: c :: rest =>
    match simpleEscape? c with
    | some e => unpaired high (ahead e (readText none rest))
    | none => none
  | c :: rest => if c.toNat < 0x20 then none else unpaired high (ahead c (readText none rest))

/-- digits, and what follows them; at least one -/
def readDigits (s : List Char) : Option (List Char × List Char) :=
  match s.takeWhile isDigit with
  | [] => none
  | digits => some (digits, s.dropWhile isDigit)

/-- the digits before the point: no zero in front of others -/
def readWhole (s : List Char) : Option (List Char × List Char) := do
  let (digits, rest) ← readDigits s
  match digits with
  | '0' :: _ :: _ => none
  | _ => some (digits, rest)

def readFraction : List Char → Option (Option (List Char) × List Char)
  | '.' :: rest => (readDigits rest).map fun (digits, rest) => (some digits, rest)
  | rest => some (none, rest)

def readExponent : List Char → Option (Option (Bool × List Char) × List Char)
  | c :: rest =>
    if c = 'e' || c = 'E' then
      let (down, rest) := match rest with
        | '-' :: r => (true, r)
        | '+' :: r => (false, r)
        | r => (false, r)
      (readDigits rest).map fun (digits, rest) => (some (down, digits), rest)
    else some (none, c :: rest)
  | [] => some (none, [])

/-- a number, and what follows it -/
def readNumeral (s : List Char) : Option (Numeral × List Char) := do
  let (negative, s) := match s with
    | '-' :: r => (true, r)
    | r => (false, r)
  let (whole, s) ← readWhole s
  let (fraction, s) ← readFraction s
  let (exponent, s) ← readExponent s
  pure (⟨negative, whole, fraction, exponent⟩, s)

/-- the characters of `word`, and what follows them -/
def readWord (word : List Char) (tree : Tree) (s : List Char) : Option (Tree × List Char) :=
  if word.isPrefixOf s then some (tree, s.drop word.length) else none

mutual
/-- a value after blanks; `fuel` bounds the values and separators that can follow -/
def readValue : Nat → List Char → Option (Tree × List Char)
  | 0, _ => none
  | fuel + 1, s =>
    match skipSpace s with
    | [] => none
    | '\x7b' :: rest =>
      match skipSpace rest with
      | '\x7d' :: rest => some (.record [], rest)
      | rest => (readFields fuel rest).map fun (fields, rest) => (.record fields, rest)
    | '[' :: rest =>
      match skipSpace rest with
      | ']' :: rest => some (.list [], rest)
      | rest => (readItems fuel rest).map fun (items, rest) => (.list items, rest)
    | '"' :: rest =>
      (readText none rest).map fun (chars, rest) => (.text (chars.map String.ofList), rest)
    | c :: rest =>
      if c = 'n' then readWord "null".toList .null (c :: rest)
      else if c = 't' then readWord "true".toList (.bool true) (c :: rest)
      else if c = 'f' then readWord "false".toList (.bool false) (c :: rest)
      else (readNumeral (c :: rest)).map fun (n, rest) => (.number n.value, rest)
/-- the items of a list up to its closing bracket -/
def readItems : Nat → List Char → Option (List Tree × List Char)
  | 0, _ => none
  | fuel + 1, s =>
    match readValue fuel s with
    | none => none
    | some (item, rest) =>
      match skipSpace rest with
      | ']' :: rest => some ([item], rest)
      | ',' :: rest => (readItems fuel rest).map fun (items, rest) => (item :: items, rest)
      | _ => none
/-- the fields of a record up to its closing brace -/
def readFields : Nat → List Char → Option (List (Option String × Tree) × List Char)
  | 0, _ => none
  | fuel + 1, s =>
    match skipSpace s with
    | '"' :: rest =>
      match readText none rest with
      | none => none
      | some (name, rest) =>
        match skipSpace rest with
        | ':' :: rest =>
          match readValue fuel rest with
          | none => none
          | some (value, rest) =>
            let field := (name.map String.ofList, value)
            match skipSpace rest with
            | '\x7d' :: rest => some ([field], rest)
            | ',' :: rest =>
              (readFields fuel rest).map fun (fields, rest) => (field :: fields, rest)
            | _ => none
        | _ => none
    | _ => none
end

/-- the tree of a whole text -/
def read (s : String) : Option Tree :=
  let chars := s.toList
  match readValue (chars.length + 1) chars with
  | some (tree, rest) => if (skipSpace rest).isEmpty then some tree else none
  | none => none

mutual
/-- the value of a tree whose containers nest at most `depth` deep -/
def value? (depth : Nat) : Tree → Option Json
  | .null => some .null
  | .bool b => some (.bool b)
  | .number n => n
  | .text s => s.map .str
  | .list items =>
    match depth with
    | 0 => none
    | depth + 1 => (values? depth items).map .arr
  | .record fields =>
    match depth with
    | 0 => none
    | depth + 1 => (fieldValues? depth fields).map .ofFields
def values? (depth : Nat) : List Tree → Option (List Json)
  | [] => some []
  | item :: rest =>
    match value? depth item, values? depth rest with
    | some v, some vs => some (v :: vs)
    | _, _ => none
def fieldValues? (depth : Nat) : List (Option String × Tree) → Option (List (String × Json))
  | [] => some []
  | (name, item) :: rest =>
    match name, value? depth item, fieldValues? depth rest with
    | some name, some v, some vs => some ((name, v) :: vs)
    | _, _, _ => none
end

/-- how deep containers may nest -/
def depthMax : Nat := 127

end Tree

/-- the value of a text -/
def parse (s : String) : Option Json := (Tree.read s).bind (Tree.value? Tree.depthMax)

end ProxyMesh.Json
