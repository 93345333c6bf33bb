/-!
# Texts in TOML

Between `"` a backslash escapes, between `'` nothing does.  Three quotes open a text of several
lines: a line end directly after them is dropped, and up to two quotes may stand before the closing
three.  Line ends are kept as line feeds.

* `Stopped`    what is read, or the rest of the text from where it cannot go on;
* `readText`   a text of any of the four forms, and what follows it;
* `readWord`   one of the two forms on one line.
-/

namespace ProxyMesh.Toml

/-- characters that stand for themselves on a line -/
def isPlain (c : Char) : Bool := c = '\t' || (' ' ≤ c && c != '\x7f')

def isSpace (c : Char) : Bool := c = ' ' || c = '\t'

def hexValue? (c : Char) : Option Nat :=
  if '0' ≤ c && c ≤ '9' then some (c.toNat - '0'.toNat)
  else if 'a' ≤ c && c ≤ 'f' then some (c.toNat - 'a'.toNat + 10)
  else if 'A' ≤ c && c ≤ 'F' then some (c.toNat - 'A'.toNat + 10)
  else none

def hexNumber? (digits : List Char) : Option Nat :=
  digits.foldlM (fun n c => (hexValue? c).map (n * 16 + ·)) 0

/-- the character of a code point; surrogates have none -/
def charOf? (digits : List Char) : Option Char :=
  (hexNumber? digits).bind fun n => if n.isValidChar then some (Char.ofNat n) else none

def simpleEscape? : Char → Option Char
  | 'b' => some '\x08'
  | 't' => some '\t'
  | 'n' => some '\n'
  | 'f' => some '\x0c'
  | 'r' => some '\r'
  | '"' => some '"'
  | '\\' => some '\\'
  | _ => none

/-- what is read, or the rest of the text from where it cannot go on -/
abbrev Stopped := Except (List Char)

/-- characters, and what follows them -/
abbrev Read := Stopped (List Char × List Char)

/-- a character in front of the rest of a text; one that is none stops at `stop` -/
def ahead (c : Option Char) (stop : List Char) (r : Read) : Read :=
  match c with
  | some c => r.map fun (chars, rest) => (c :: chars, rest)
  | none => .error stop

/-- up to the closing quote, with escapes -/
def readBasic : List Char → Read
  | [] => .error []
  | '"' :: rest => .ok ([], rest)
  | '\\' :: 'u' :: a :: b :: c :: d :: rest =>
    ahead (charOf? [a, b, c, d]) (a :: b :: c :: d :: rest) (readBasic rest)
  | '\\' :: 'U' :: a :: b :: c :: d :: e :: f :: g :: h :: rest =>
    ahead (charOf? [a, b, c, d, e, f, g, h]) (a :: b :: c :: d :: e :: f :: g :: h :: rest)
      (readBasic rest)
  | '\\' :: c :: rest => ahead (simpleEscape? c) rest (readBasic rest)
  | c :: rest => if isPlain c && c != '\\' then ahead (some c) [] (readBasic rest) else .error (c :: rest)

/-- up to the closing quote, as it stands -/
def readLiteral : List Char → Read
  | [] => .error []
  | c :: rest =>
    if c = '\'' then .ok ([], rest)
    else if isPlain c then ahead (some c) [] (readLiteral rest)
    else .error (c :: rest)

/-- up to two quotes that belong to the text although the closing three came before them -/
def closeBlock (quote : Char) : List Char → List Char × List Char
  | a :: b :: rest =>
    if a = quote && b = quote then ([a, b], rest)
    else if a = quote then ([a], b :: rest)
    else ([], a :: b :: rest)
  | [a] => if a = quote then ([a], []) else ([], [a])
  | [] => ([], [])

/-- a line end after blanks -/
def endsLine (s : List Char) : Bool :=
  match s.dropWhile isSpace with
  | '\n' :: _ => true
  | '\r' :: '\n' :: _ => true
  | _ => false

/-- up to the closing three quotes, with escapes; a backslash at a line's end takes away the line
end and all blanks after it, and `skipping` is set while it does -/
def readBasicBlock (skipping : Bool) : List Char → Read
  | [] => .error []
  | '"' :: '"' :: '"' :: rest => .ok (closeBlock '"' rest)
  | '\\' :: 'u' :: a :: b :: c :: d :: rest =>
    ahead (charOf? [a, b, c, d]) (a :: b :: c :: d :: rest) (readBasicBlock false rest)
  | '\\' :: 'U' :: a :: b :: c :: d :: e :: f :: g :: h :: rest =>
    ahead (charOf? [a, b, c, d, e, f, g, h]) (a :: b :: c :: d :: e :: f :: g :: h :: rest)
      (readBasicBlock false rest)
  | '\\' :: c :: rest =>
    if endsLine (c :: rest) then readBasicBlock true (c :: rest)
    else ahead (simpleEscape? c) rest (readBasicBlock false rest)
  | '\r' :: '\n' :: rest =>
    if skipping then readBasicBlock true rest
    else ahead (some '\n') [] (readBasicBlock false rest)
  | c :: rest =>
    if skipping && (isSpace c || c = '\n') then readBasicBlock true rest
    else if c = '\n' || (isPlain c && c != '\\') then ahead (some c) [] (readBasicBlock false rest)
    else .error (c :: rest)

/-- up to the closing three quotes, as it stands -/
def readLiteralBlock : List Char → Read
  | [] => .error []
  | '\'' :: '\'' :: '\'' :: rest => .ok (closeBlock '\'' rest)
  | '\r' :: '\n' :: rest => ahead (some '\n') [] (readLiteralBlock rest)
  | c :: rest =>
    if c = '\n' || isPlain c then ahead (some c) [] (readLiteralBlock rest) else .error (c :: rest)

/-- a text without the line end that it begins with -/
def dropLineEnd : List Char → List Char
  | '\n' :: rest => rest
  | '\r' :: '\n' :: rest => rest
  | s => s

/-- a text of one line -/
def readWord : List Char → Read
  | '"' :: rest => readBasic rest
  | '\'' :: rest => readLiteral rest
  | s => .error s

def readText : List Char → Read
  | '"' :: '"' :: '"' :: rest => readBasicBlock false (dropLineEnd rest)
  | '\'' :: '\'' :: '\'' :: rest => readLiteralBlock (dropLineEnd rest)
  | s => readWord s

end ProxyMesh.Toml
