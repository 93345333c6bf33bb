import ProxyMesh.Json.Basic

/-!
# JSON texts

* `Json.compact`  a value on one line without blanks;
* `Json.pretty`   a value with two blanks of indentation for each level, `[]` and `{}` for
                  what is empty;
* `Json.quote`    a text between quotes, with escapes for quote, backslash and control characters.
-/

namespace ProxyMesh.Json

/-- the lower-case hexadecimal digit -/
def hexDigit (n : Nat) : Char := Nat.digitChar n

/-- one character as it stands between quotes -/
def quoteChar (c : Char) : List Char :=
  if c = '"' then ['\\', '"']
  else if c = '\\' then ['\\', '\\']
  else if c = '\x08' then ['\\', 'b']
  else if c = '\x0c' then ['\\', 'f']
  else if c = '\n' then ['\\', 'n']
  else if c = '\r' then ['\\', 'r']
  else if c = '\t' then ['\\', 't']
  else if c.toNat < 0x20 then ['\\', 'u', '0', '0', hexDigit (c.toNat / 16), hexDigit (c.toNat % 16)]
  else [c]

def quoteChars (s : List Char) : List Char := '"' :: (s.flatMap quoteChar ++ ['"'])

def quote (s : String) : String := String.ofList (quoteChars s.toList)

mutual
def compactChars : Json → List Char
  | .null => "null".toList
  | .bool b => (if b then "true" else "false").toList
  | .int n => (toString n).toList
  | .real x => (Layout.json.text x).toList
  | .str s => quoteChars s.toList
  | .arr items => '[' :: (compactItems items ++ [']'])
  | .obj fields => '\x7b' :: (compactFields fields ++ ['\x7d'])
def compactItems : List Json → List Char
  | [] => []
  | [last] => compactChars last
  | item :: rest => compactChars item ++ ',' :: compactItems rest
def compactFields : List (String × Json) → List Char
  | [] => []
  | [(name, value)] => quoteChars name.toList ++ ':' :: compactChars value
  | (name, value) :: rest =>
    quoteChars name.toList ++ ':' :: (compactChars value ++ ',' :: compactFields rest)
end

/-- a value on one line -/
def compact (v : Json) : String := String.ofList (compactChars v)

/-- the start of a line at this depth -/
def newLine (depth : Nat) : List Char := '\n' :: List.replicate (2 * depth) ' '

mutual
def prettyChars (depth : Nat) : Json → List Char
  | .arr [] => ['[', ']']
  | .obj [] => ['\x7b', '\x7d']
  | .arr (item :: rest) =>
    '[' :: (prettyItems (depth + 1) (item :: rest) ++ newLine depth ++ [']'])
  | .obj (field :: rest) =>
    '\x7b' :: (prettyFields (depth + 1) (field :: rest) ++ newLine depth ++ ['\x7d'])
  | .null => compactChars .null
  | .bool b => compactChars (.bool b)
  | .int n => compactChars (.int n)
  | .real x => compactChars (.real x)
  | .str s => compactChars (.str s)
def prettyItems (depth : Nat) : List Json → List Char
  | [] => []
  | [last] => newLine depth ++ prettyChars depth last
  | item :: rest => newLine depth ++ prettyChars depth item ++ ',' :: prettyItems depth rest
def prettyFields (depth : Nat) : List (String × Json) → List Char
  | [] => []
  | [(name, value)] =>
    newLine depth ++ quoteChars name.toList ++ ':' :: ' ' :: prettyChars depth value
  | (name, value) :: rest =>
    newLine depth ++ quoteChars name.toList ++
      ':' :: ' ' :: (prettyChars depth value ++ ',' :: prettyFields depth rest)
end

/-- a value over several lines -/
def pretty (v : Json) : String := String.ofList (prettyChars 0 v)

end ProxyMesh.Json
