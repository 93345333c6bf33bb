import ProxyMesh.Toml.Branch
import ProxyMesh.Toml.Scalar

/-!
# TOML documents read

* `readKey`         names between points;
* `readValue`       a value, whose lists and tables nest less than 80 deep;
* `readStatement`   a header or an entry;
* `Outline`         what the statements so far have made, and where they stand;
* `Toml.read`       the outline of a document, or the rest of it from its first fault.
-/

namespace ProxyMesh.Toml

def isBareKeyChar (c : Char) : Bool := c.isAlphanum || c = '_' || c = '-'

def skipSpace (s : List Char) : List Char := s.dropWhile isSpace

/-- one name of a key, and what follows it -/
def readName (s : List Char) : Stopped (String × List Char) :=
  match s with
  | c :: _ =>
    if c = '"' || c = '\'' then (readWord s).map fun (chars, rest) => (String.ofList chars, rest)
    else
      let chars := s.takeWhile isBareKeyChar
      if chars.isEmpty then .error s else .ok (String.ofList chars, s.dropWhile isBareKeyChar)
  | [] => .error []

/-- the most names that a key has -/
def keyMax : Nat := 79

/-- at most `left` names with points between them -/
def readNames : Nat → List Char → Stopped (List String × List Char)
  | 0, s => .error s
  | left + 1, s => do
    let (name, rest) ← readName (skipSpace s)
    match skipSpace rest with
    | '.' :: rest => (readNames left rest).map fun (names, rest) => (name :: names, rest)
    | rest => .ok ([name], rest)

def readKey (s : List Char) : Stopped (List String × List Char) := readNames keyMax s

/-- blanks, line ends and comments skipped; `inComment` is set from a `#` to the end of its line -/
def skipVoid (inComment : Bool) : List Char → Stopped (List Char)
  | [] => .ok []
  | '\r' :: '\n' :: rest => skipVoid false rest
  | c :: rest =>
    if c = '\n' then skipVoid false rest
    else if inComment then if isPlain c then skipVoid true rest else .error (c :: rest)
    else if isSpace c then skipVoid false rest
    else if c = '#' then skipVoid true rest
    else .ok (c :: rest)

/-- a line's end, after blanks and a comment -/
def readLineEnd (s : List Char) : Stopped (List Char) :=
  let rest := match skipSpace s with
    | '#' :: rest => rest.dropWhile isPlain
    | rest => rest
  match rest with
  | [] => .ok []
  | '\n' :: rest => .ok rest
  | '\r' :: '\n' :: rest => .ok rest
  | rest => .error rest

/-- characters of which numbers, flags and times consist -/
def isTokenChar (c : Char) : Bool :=
  c.isAlphanum || c = '_' || c = '+' || c = '-' || c = '.' || c = ':'

/-- a number, flag or time; a blank may stand between date and time -/
def readToken (s : List Char) : Stopped (Toml × List Char) :=
  let token := s.takeWhile isTokenChar
  let rest := s.dropWhile isTokenChar
  let time := (rest.drop 1).takeWhile isTokenChar
  if rest.head? == some ' ' && isDate token && isTime true time then
    .ok (.time, (rest.drop 1).dropWhile isTokenChar)
  else match readScalar? token with
    | some v => .ok (v, rest)
    | none => .error (scalarStop s token)

/-- the most lists and tables around a value -/
def depthMax : Nat := 79

mutual
/-- a value; `depth` more lists and tables may be around others, and `fuel` bounds the values and
separators that can follow -/
def readValue (depth : Nat) : Nat → List Char → Stopped (Toml × List Char)
  | 0, s => .error s
  | fuel + 1, s =>
    match s with
    | [] => .error []
    | c :: rest =>
      if c = '"' || c = '\'' then
        (readText s).map fun (chars, rest) => (.str (String.ofList chars), rest)
      else if c = '[' then
        match depth, skipVoid false rest with
        | 0, _ => .error s
        | _, .error stop => .error stop
        | _, .ok (']' :: rest) => .ok (.list [], rest)
        | depth + 1, .ok rest =>
          (readItems depth fuel rest).map fun (items, rest) => (.list items, rest)
      else if c = '\x7b' then
        match depth, skipSpace rest with
        | 0, _ => .error s
        | _, '\x7d' :: rest => .ok (.table [], rest)
        | depth + 1, rest =>
          (readEntries depth fuel [] rest).map fun (es, rest) => (.table (entryValues es), rest)
      else readToken s
/-- the items of a list up to its closing bracket; a comma may follow the last -/
def readItems (depth : Nat) : Nat → List Char → Stopped (List Toml × List Char)
  | 0, s => .error s
  | fuel + 1, s => do
    let (item, rest) ← readValue depth fuel s
    match ← skipVoid false rest with
    | ']' :: rest => .ok ([item], rest)
    | ',' :: rest =>
      match ← skipVoid false rest with
      | ']' :: rest => .ok ([item], rest)
      | rest => (readItems depth fuel rest).map fun (items, rest) => (item :: items, rest)
    | rest => .error rest
/-- the entries of a table on one line up to its closing brace -/
def readEntries (depth : Nat) : Nat → Entries → List Char → Stopped (Entries × List Char)
  | 0, _, s => .error s
  | fuel + 1, es, s => do
    match ← readKey s with
    | (key, '=' :: rest) =>
      let (v, rest) ← readValue depth fuel (skipSpace rest)
      match es.insert? [] key v, skipSpace rest with
      | none, _ => .error s
      | some es, '\x7d' :: rest => .ok (es, rest)
      | some es, ',' :: rest => readEntries depth fuel es rest
      | some _, rest => .error rest
    | (_, rest) => .error rest
end

inductive Statement where
  | openTable (path : List String)
  | appendTable (path : List String)
  /-- a key, its value and the text from the value on -/
  | entry (key : List String) (value : Toml) (place : List Char)

/-- a header or an entry, and what follows it on its line -/
def readStatement (fuel : Nat) (s : List Char) : Stopped (Statement × List Char) :=
  match s with
  | '[' :: '[' :: rest => do
    match ← readKey rest with
    | (path, ']' :: ']' :: rest) => .ok (.appendTable path, rest)
    | (_, rest) => .error rest
  | '[' :: rest => do
    match ← readKey rest with
    | (path, ']' :: rest) => .ok (.openTable path, rest)
    | (_, rest) => .error rest
  | s => do
    match ← readKey s with
    | (key, '=' :: rest) =>
      let place := skipSpace rest
      let (v, rest) ← readValue depthMax fuel place
      .ok (.entry key v place, rest)
    | (_, rest) => .error rest

/-- the table that was opened last, everything so far, and the text from each value or header on -/
structure Outline where
  current : List String
  entries : Entries
  places : List (List String × List Char)

namespace Outline

def empty : Outline := ⟨[], [], []⟩

/-- one more statement, which stands at `place` -/
def step (o : Outline) (place : List Char) : Statement → Option Outline
  | .openTable path => (o.entries.open? path).map (⟨path, ·, o.places ++ [(path, place)]⟩)
  | .appendTable path => (o.entries.append? path).map (⟨path, ·, o.places ++ [(path, place)]⟩)
  | .entry key v place =>
    (o.entries.insert? o.current key v).map
      (⟨o.current, ·, o.places ++ [(o.current ++ key, place)]⟩)

def table (o : Outline) : Toml := .table (entryValues o.entries)

end Outline

/-- the headers and entries of a document, one on a line -/
def readStatements : Nat → Outline → List Char → Stopped Outline
  | 0, _, s => .error s
  | fuel + 1, o, s => do
    match ← skipVoid false s with
    | [] => .ok o
    | s =>
      let (statement, rest) ← readStatement (fuel + 1) s
      let rest ← readLineEnd rest
      match o.step s statement with
      | some o => readStatements fuel o rest
      | none => .error s

/-- a text without the byte order mark that it may begin with -/
def dropMark : List Char → List Char
  | '\ufeff' :: rest => rest
  | s => s

/-- the outline of a document, or the rest of it from its first fault -/
def read (text : String) : Stopped Outline :=
  let s := dropMark text.toList
  readStatements (s.length + 1) .empty s

end ProxyMesh.Toml
