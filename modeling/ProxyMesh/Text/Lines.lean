import ProxyMesh.Text.Classes

/-!
# Lines and blanks

* `lines`        a text cut at its line feeds; a carriage return before a line feed goes with it,
                 and nothing after the last line feed is no line;
* `splitAt`      a text cut at every occurrence of a character;
* `trim`         a text without the blanks at its two ends;
* `replace`      every occurrence of a character replaced.
-/

namespace ProxyMesh.Text

/-- the pieces between the occurrences of `sep`, one more than there are occurrences -/
def splitChars (sep : Char) : List Char → List (List Char)
  | [] => [[]]
  | c :: rest =>
    if c = sep then [] :: splitChars sep rest
    else match splitChars sep rest with
      | [] => [[c]]
      | piece :: more => (c :: piece) :: more

def splitAt (sep : Char) (s : String) : List String :=
  (splitChars sep s.toList).map String.ofList

/-- a line without the carriage return that belongs to its line feed -/
def dropReturn (line : List Char) : List Char :=
  match line.getLast? with
  | some '\r' => line.dropLast
  | _ => line

/-- lines that end in a line feed lose a carriage return; a last piece that is empty is no line -/
def closeLines : List (List Char) → List (List Char)
  | [] => []
  | [last] => if last.isEmpty then [] else [last]
  | line :: rest => dropReturn line :: closeLines rest

def lines (s : String) : List String :=
  (closeLines (splitChars '\n' s.toList)).map String.ofList

def dropEndWhile (p : Char → Bool) (s : List Char) : List Char :=
  (s.reverse.dropWhile p).reverse

def trimChars (s : List Char) : List Char := dropEndWhile isBlank (s.dropWhile isBlank)

def trim (s : String) : String := String.ofList (trimChars s.toList)

/-- the rest of `s` after `lead`, if it begins with it -/
def stripStart (lead : List Char) (s : List Char) : Option (List Char) :=
  match lead, s with
  | [], s => some s
  | _ :: _, [] => none
  | l :: lead, c :: s => if l = c then stripStart lead s else none

/-- the text before the first occurrence of `pat`, and the text after it -/
def cutAt (pat : List Char) : List Char → Option (List Char × List Char)
  | [] => if pat.isEmpty then some ([], []) else none
  | c :: rest =>
    match stripStart pat (c :: rest) with
    | some after => some ([], after)
    | none => (cutAt pat rest).map fun (before, after) => (c :: before, after)

/-- `pat` occurs in `s` -/
def hasInfix (pat s : String) : Bool := (cutAt pat.toList s.toList).isSome

example : lines "a\r\nb\n\nc\r" = ["a", "b", "", "c\r"] := by decide +kernel
example : lines "" = [] ∧ lines "\n" = [""] := by decide +kernel
example : trim "\u3000 a b\n" = "a b" := by decide +kernel

end ProxyMesh.Text
