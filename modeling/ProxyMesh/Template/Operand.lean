import ProxyMesh.Template.Basic
import ProxyMesh.Json.Tree
import ProxyMesh.Text.Lines

/-!
# Values within a tag

* `readPath`      a path: names after points or slashes, bare or in brackets, after `../` for outer
                  scopes, `@` for the variables of a loop and `@root` for everything;
* `readOperand`   a literal, a path, or a helper in parentheses;
* `readHead`      a helper with its arguments and options.

A reader takes the start of a text and gives what follows.
-/

namespace ProxyMesh.Template

/-- a reader gives a result and what follows it -/
abbrev Reader (α : Type) : Type := List Char → Option (α × List Char)

def isBlank (c : Char) : Bool := c = ' ' || c = '\t'
def isNewline (c : Char) : Bool := c = '\n' || c = '\r'
def isSpace (c : Char) : Bool := isBlank c || isNewline c

def skipSpace (s : List Char) : List Char := s.dropWhile isSpace

def isSymbol (c : Char) : Bool :=
  c.isAlphanum || c = '_' || c = '-' || c = '$' || 0x80 ≤ c.toNat

/-- what follows these characters -/
def expect (word : String) (s : List Char) : Option (List Char) := Text.stripStart word.toList s

/-- what follows these characters, if they are there -/
def skip (word : String) (s : List Char) : List Char := (expect word s).getD s

def startsWithSymbol : List Char → Bool
  | c :: _ => isSymbol c
  | [] => false

/-- what follows the word, which no symbol may continue -/
def expectWord (word : String) (s : List Char) : Option (List Char) :=
  (expect word s).filter (!startsWithSymbol ·)

def readIdentifier : Reader String := fun s =>
  match s.takeWhile isSymbol with
  | [] => none
  | name => some (String.ofList name, s.dropWhile isSymbol)

/-- the characters of `s` in front of its end `rest` -/
def consumed (s rest : List Char) : String := String.ofList (s.take (s.length - rest.length))

/-! ## paths -/

def skipSeparator : List Char → Option (List Char)
  | '/' :: rest => some rest
  | '.' :: rest => some rest
  | _ => none

/-- a name, bare or in brackets -/
def readItem : Reader String
  | '[' :: rest =>
    match rest.dropWhile (· != ']') with
    | _ :: after => some (String.ofList (rest.takeWhile (· != ']')), after)
    | [] => none
  | s => readIdentifier s

/-- `../` any number of times -/
def readUps : Nat → List Char → Nat × List Char
  | 0, s => (0, s)
  | fuel + 1, s =>
    match (expect ".." s).bind skipSeparator with
    | some rest => let (n, rest) := readUps fuel rest; (n + 1, rest)
    | none => (0, s)

/-- further names, each after a separator -/
def readMoreItems : Nat → List Char → List String × List Char
  | 0, s => ([], s)
  | fuel + 1, s =>
    match (skipSeparator s).bind readItem with
    | some (name, rest) => let (names, rest) := readMoreItems fuel rest; (name :: names, rest)
    | none => ([], s)

/-- `this.` or `./` in front says nothing -/
def skipCurrent (s : List Char) : List Char :=
  match (expect "this" s).bind skipSeparator with
  | some rest => rest
  | none => skip "./" s

/-- the name `this` is no step -/
def nameSteps (names : List String) : List Step := (names.filter (· != "this")).map .name

def readPath : Reader Path := fun s => do
  let start := skipCurrent s
  let rooted := (expect "@root" start).bind skipSeparator
  let start := rooted.getD start
  let looped := expect "@" start
  let start := looped.getD start
  let (ups, start) := readUps start.length start
  let (first, start) ← readItem start
  let (more, rest) := readMoreItems start.length start
  let text := consumed s rest
  let names := nameSteps (first :: more)
  match rooted.isSome, looped.isSome, names with
  | false, true, .name name :: _ => pure (.loopVar ups name text, rest)
  | false, true, _ => pure (.steps names text, rest)
  | true, _, _ => pure (.steps (.root :: (List.replicate ups .up ++ names)) text, rest)
  | false, false, _ => pure (.steps (List.replicate ups .up ++ names) text, rest)

/-! ## literals -/

/-- a quoted text with its escapes made those of double quotes -/
def readQuoted (quote : Char) : Reader (List Char)
  | [] => none
  | '\\' :: c :: rest =>
    if c = quote || (c != '"' && (c = 'u' || (Json.Tree.simpleEscape? c).isSome)) then
      (readQuoted quote rest).map fun (chars, rest) =>
        (if c = '\'' then c :: chars else '\\' :: c :: chars, rest)
    else none
  | c :: rest =>
    if c = quote then some ([], rest)
    else (readQuoted quote rest).map fun (chars, rest) =>
      (if c = '"' then '\\' :: c :: chars else c :: chars, rest)

/-- a text in double or single quotes, as it would stand in double ones -/
def readString : Reader String
  | '"' :: rest => (readQuoted '"' rest).map fun (chars, rest) => (String.ofList chars, rest)
  | '\'' :: rest => (readQuoted '\'' rest).map fun (chars, rest) => (String.ofList chars, rest)
  | _ => none

/-- at least one digit -/
def skipDigits (s : List Char) : Option (List Char) :=
  if (s.takeWhile Json.Tree.isDigit).isEmpty then none else some (s.dropWhile Json.Tree.isDigit)

def skipNumber (s : List Char) : Option (List Char) := do
  let s ← skipDigits (skip "-" s)
  let s := (skip "." s).dropWhile Json.Tree.isDigit
  let s := ((expect "E" s).bind fun e => skipDigits (skip "-" e)).getD s
  if startsWithSymbol s then none else pure s

mutual
/-- what follows a literal -/
def skipLiteral : Nat → List Char → Option (List Char)
  | 0, _ => none
  | fuel + 1, s =>
    match s with
    | '[' :: rest =>
      let rest := skipSpace rest
      skipItems fuel ((skipLiteral fuel rest).getD rest)
    | '\x7b' :: rest =>
      let rest := skipSpace rest
      skipFields fuel ((skipField fuel rest).getD rest)
    | _ =>
      (readString s).map (·.2)
        |>.orElse fun _ => skipNumber s
        |>.orElse fun _ => expectWord "null" s
        |>.orElse fun _ => expectWord "true" s
        |>.orElse fun _ => expectWord "false" s
/-- what follows the items of a list and its bracket -/
def skipItems : Nat → List Char → Option (List Char)
  | 0, _ => none
  | fuel + 1, s =>
    match skipSpace s with
    | ']' :: rest => some rest
    | ',' :: rest => (skipLiteral fuel (skipSpace rest)).bind (skipItems fuel)
    | _ => none
/-- what follows one field -/
def skipField : Nat → List Char → Option (List Char)
  | 0, _ => none
  | fuel + 1, s =>
    match readString s with
    | some (_, rest) => (expect ":" (skipSpace rest)).bind fun rest => skipLiteral fuel (skipSpace rest)
    | none => none
/-- what follows the fields of a record and its brace -/
def skipFields : Nat → List Char → Option (List Char)
  | 0, _ => none
  | fuel + 1, s =>
    match skipSpace s with
    | '\x7d' :: rest => some rest
    | ',' :: rest => (skipField fuel (skipSpace rest)).bind (skipFields fuel)
    | _ => none
end

/-- the value of a literal; a literal that is no JSON is none -/
def readLiteral (s : List Char) (rest : List Char) : Option Json :=
  match readString s with
  | some (text, _) => Json.parse ("\"" ++ text ++ "\"")
  | none => Json.parse (consumed s rest)

/-! ## helpers -/

/-- the words that are no values: `as` and `else` -/
def isKeyword (s : List Char) : Bool :=
  ["as", "else"].any fun word =>
    match expect word s with
    | some rest => !startsWithSymbol (skipSpace rest)
    | none => false

/-- a name in front of an equals sign -/
def readOptionName : Reader String := fun s => do
  let (name, rest) ← readIdentifier s
  let rest ← expect "=" (skipSpace rest)
  pure (name, skipSpace rest)

/-- arguments and options in the order of the text -/
abbrev Parts := List Operand × List (String × Operand)

mutual
def readOperand : Nat → Reader Operand
  | 0, _ => none
  | fuel + 1, s =>
    if isKeyword s then none
    else match skipLiteral s.length s with
      | some rest => (readLiteral s rest).map (.literal ·, rest)
      | none =>
        match readPath s with
        | some (path, rest) => some (.path path, rest)
        | none => (expect "(" s).bind fun rest => readCall fuel (skipSpace rest)
/-- a helper up to its closing parenthesis -/
def readCall : Nat → Reader Operand
  | 0, _ => none
  | fuel + 1, s => do
    let (name, (arguments, options), rest) ←
      match readIdentifier s with
      | some (name, rest) =>
        match readParts fuel rest with
        | (([], []), _) => (readPath s).map fun (path, rest) => (path.text, ([], []), rest)
        | (parts, rest) => some (name, parts, rest)
      | none => (readPath s).map fun (path, rest) => (path.text, ([], []), rest)
    let rest ← expect ")" (skipSpace rest)
    pure (.call name arguments options, rest)
/-- as many arguments and options as there are -/
def readParts : Nat → List Char → Parts × List Char
  | 0, s => (([], []), s)
  | fuel + 1, s =>
    let start := skipSpace s
    let option := (readOptionName start).bind fun (name, rest) =>
      (readOperand fuel rest).map fun (value, rest) => ((name, value), rest)
    match option with
    | some (field, rest) =>
      let ((arguments, options), rest) := readParts fuel rest
      ((arguments, field :: options), rest)
    | none =>
      match readOperand fuel start with
      | some (argument, rest) =>
        let ((arguments, options), rest) := readParts fuel rest
        ((argument :: arguments, options), rest)
      | none => (([], []), s)
end

/-- a helper with what it is given, and whether it is given anything -/
def readHead : Reader Head := fun s => do
  let (name, rest) ← readIdentifier s
  let ((arguments, options), rest) := readParts s.length rest
  pure (⟨name, arguments, options⟩, rest)

end ProxyMesh.Template
