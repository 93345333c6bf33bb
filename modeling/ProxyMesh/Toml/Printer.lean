import ProxyMesh.Number.Layout
import ProxyMesh.Toml.Text

/-!
# TOML texts

A text is written in the first of these forms that needs no escape: between `"`, between `'`, over
several lines between three `"`, the same between three `'`.  If none does, it is written between
`"` with escapes, over several lines if it has line ends.

* `quoteText`   a text;
* `floatText`   a binary64 value, a value that is not a number without its sign.
-/

namespace ProxyMesh.Toml

/-- the longest run of a character -/
def longestRun (c : Char) (s : List Char) : Nat :=
  go s 0 0
where
  go : List Char → Nat → Nat → Nat
    | [], _, best => best
    | d :: rest, run, best =>
      if d = c then go rest (run + 1) (max best (run + 1)) else go rest 0 best

/-- control characters that need an escape everywhere -/
def needsEscape (c : Char) : Bool :=
  (c.toNat < 0x20 && c != '\t' && c != '\n') || c = '\x7f'

/-- one character with the escape that it needs; `multiline` keeps line feeds -/
def escapeChar (multiline : Bool) (c : Char) : List Char :=
  if c = '\x08' then ['\\', 'b']
  else if c = '\t' then ['\\', 't']
  else if c = '\n' then if multiline then [c] else ['\\', 'n']
  else if c = '\x0c' then ['\\', 'f']
  else if c = '\r' then ['\\', 'r']
  else if c = '\\' then ['\\', '\\']
  else if c.toNat < 0x20 || c = '\x7f' then
    ['\\', 'u', '0', '0', (Nat.digitChar (c.toNat / 16)).toUpper,
      (Nat.digitChar (c.toNat % 16)).toUpper]
  else [c]

/-- the characters with their escapes; of a run of quotes the first `allowed` stand for
themselves, and counting starts anew after one that does not -/
def escapeChars (multiline : Bool) (allowed : Nat) : Nat → List Char → List Char
  | _, [] => []
  | run, c :: rest =>
    if c = '"' then
      if run < allowed then '"' :: escapeChars multiline allowed (run + 1) rest
      else '\\' :: '"' :: escapeChars multiline allowed 0 rest
    else escapeChar multiline c ++ escapeChars multiline allowed 0 rest

def basicText (s : List Char) : List Char :=
  '"' :: (escapeChars false 0 0 s ++ ['"'])

/-- a line feed in front of a text with line ends -/
def leadingLine (s : List Char) : List Char := if s.contains '\n' then ['\n'] else []

def basicBlockText (s : List Char) : List Char :=
  ['"', '"', '"'] ++ leadingLine s ++ escapeChars true 2 0 s ++ ['"', '"', '"']

def literalText (s : List Char) : List Char := '\'' :: (s ++ ['\''])

def literalBlockText (s : List Char) : List Char :=
  ['\'', '\'', '\''] ++ leadingLine s ++ s ++ ['\'', '\'', '\'']

def quoteChars (s : List Char) : List Char :=
  let control := s.any needsEscape
  let backslash := s.contains '\\'
  let multiline := s.contains '\n'
  let doubles := longestRun '"' s
  let singles := longestRun '\'' s
  if !control && !backslash && doubles = 0 && !multiline then basicText s
  else if !control && singles = 0 && !multiline then literalText s
  else if !control && !backslash && doubles ≤ 2 then basicBlockText s
  else if !control && singles ≤ 2 then literalBlockText s
  else if multiline then basicBlockText s
  else basicText s

def quoteText (s : String) : String := String.ofList (quoteChars s.toList)

def floatText (x : Binary64) : String := if x.isNaN then "nan" else Layout.toml.text x

end ProxyMesh.Toml
