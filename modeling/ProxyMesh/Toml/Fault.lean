import ProxyMesh.Toml.Reader

/-!
# Where a TOML document is wrong

* `Place`           line and column, both counted from 1;
* `Place.before`    the place before the rest of a text;
* `Shape.misfit?`   the path of the first value that is not of its kind;
* `Outline.place?`  where the value of a path stands.
-/

namespace ProxyMesh.Toml

structure Place where
  line : Nat
  column : Nat
deriving DecidableEq, Repr

namespace Place

def message (p : Place) : String :=
  "TOML parse error at line " ++ toString p.line ++ ", column " ++ toString p.column

/-- the line that a text ends in -/
def lastLine (s : List Char) : List Char := (s.reverse.takeWhile (· != '\n')).reverse

/-- the place of the character after `done`; columns count characters in front of an ASCII character
and bytes in front of any other -/
def ofParts (done : List Char) (c : Char) : Place :=
  let line := lastLine done
  ⟨1 + done.count '\n',
    1 + if c.toNat < 0x80 then line.length else (String.ofList line).utf8ByteSize⟩

/-- the place before `rest`, the end of a text; the end of a whole text counts with its last line -/
def before (text rest : List Char) : Place :=
  match rest with
  | c :: _ => ofParts (text.take (text.length - rest.length)) c
  | [] =>
    let done := text.dropLast
    ⟨1 + done.count '\n', 1 + (lastLine done).length + (text.length - done.length)⟩

example : before "a = 1\nb 2".toList ['2'] = ⟨2, 3⟩ := by decide +kernel
example : before "a = 1\n".toList [] = ⟨1, 7⟩ := by decide +kernel

end Place

/-- what a value may be; a field may always be left out -/
inductive Shape where
  | text
  | natBelow (bound : Nat)
  | float
  | record (fields : List (String × Shape))
deriving Inhabited

namespace Shape

mutual
/-- the path to the first value that does not fit, empty for the value itself -/
def misfit? : Shape → Toml → Option (List String)
  | .text, v => if (Decoder.text v).isSome then none else some []
  | .natBelow bound, v => if (Decoder.natBelow bound v).isSome then none else some []
  | .float, v => if (Decoder.float v).isSome then none else some []
  | .record fields, .table entries =>
    entries.findSome? fun (name, v) => (fieldMisfit? fields name v).map (name :: ·)
  | .record fields, .list items => if (rowMisfit? fields items).isSome then some [] else none
  | .record _, _ => some []
/-- the path in a field's value -/
def fieldMisfit? : List (String × Shape) → String → Toml → Option (List String)
  | [], _, _ => none
  | (name, shape) :: rest, wanted, v =>
    if name = wanted then misfit? shape v else fieldMisfit? rest wanted v
/-- the path in the values of fields in order -/
def rowMisfit? : List (String × Shape) → List Toml → Option (List String)
  | (_, shape) :: rest, v :: values => (misfit? shape v).or (rowMisfit? rest values)
  | _, _ => none
end

end Shape

namespace Outline

/-- the text from the value of a path on, or from the nearest value around it or in it -/
def place? (o : Outline) (path : List String) : Option (List Char) :=
  let lengths := (List.range (path.length + 1)).reverse
  (lengths.findSome? fun n => o.places.lookup (path.take n)).or
    ((o.places.find? fun (p, _) => path.isPrefixOf p).map (·.2))

end Outline

end ProxyMesh.Toml
