import ProxyMesh.Template.Tag

/-!
# From a text to a template

* `pieces`      the tags of a text, each with the text after it;
* `trimmed`     the white space that tags take away: outside their tildes, and the line of a block tag
                or comment that has a line to itself;
* `assemble`    blocks closed by the name that opened them;
* `parse`       the template of a text, `none` if it is malformed.
-/

namespace ProxyMesh.Template

/-- a tag and the text after it -/
abbrev Piece := Marked × List Char

/-- the tags of a text that starts with one -/
def readPieces : Nat → List Char → Option (List Piece)
  | _, [] => some []
  | 0, _ => none
  | fuel + 1, s =>
    match readTag s with
    | none => none
    | some (tag, rest) =>
      match tag.tag with
      | .openRaw .. =>
        let (text, rest) := scanText "\x7b\x7b\x7b\x7b" rest
        match readRawClose rest with
        | none => none
        | some (closing, rest) =>
          let (after, rest) := scanText "\x7b\x7b" rest
          (readPieces fuel rest).map ((tag, text) :: (closing, after) :: ·)
      | _ =>
        let (after, rest) := scanText "\x7b\x7b" rest
        (readPieces fuel rest).map ((tag, after) :: ·)

/-! ## white space -/

def trimStart (s : List Char) : List Char := s.dropWhile Text.isBlank
def trimEnd (s : List Char) : List Char := Text.dropEndWhile Text.isBlank s

/-- a text without the blanks and the line end at its start -/
def dropLineEnd (s : List Char) : List Char :=
  match s.dropWhile isBlank with
  | '\r' :: '\n' :: rest => rest
  | '\n' :: rest => rest
  | rest => rest

/-- nothing but blanks comes before the end of the line -/
def endsLine (s : List Char) : Bool := ((s.dropWhile isBlank).head?.map isNewline).getD false

/-- nothing but blanks comes after the start of the line -/
def startsLine (s : List Char) (atStart : Bool) : Bool :=
  ((Text.dropEndWhile isBlank s).getLast?.map isNewline).getD atStart

/-- a tag that takes its line with it -/
def Tag.ownsLine : Tag → Bool
  | .value _ => false
  | .call _ => false
  | _ => true

def Tag.isComment : Tag → Bool
  | .comment => true
  | _ => false

/-- the text after a tag, which in a raw block starts with no white space -/
def Tag.following (t : Tag) (text : List Char) : List Char :=
  match t with
  | .openRaw .. => skipSpace text
  | _ => text

inductive Item where
  | text (text : String)
  | tag (tag : Tag)

/-- what a tag takes from the text after it -/
structure After where
  all : Bool
  line : Bool

/-- the text after a tag, and what is still to be taken from a later text -/
def After.take (a : After) (s : List Char) : List Char × After :=
  if s.isEmpty then ([], a)
  else if a.all then
    if s.all isSpace then ([], a) else (trimStart s, ⟨a.all, false⟩)
  else if a.line then (dropLineEnd s, ⟨a.all, false⟩)
  else (s, a)

/-- texts and tags, the white space gone that the tags take away -/
def trimmed (a : After) (text : List Char) (atStart : Bool) : List Piece → List Item
  | [] => [.text (String.ofList (a.take text).1)]
  | (mark, next) :: rest =>
    let (kept, a) := a.take text
    let alone := mark.tag.ownsLine && endsLine next && startsLine text atStart
    let kept := if mark.trimBefore then trimEnd kept else kept
    let kept := if alone then Text.dropEndWhile isBlank kept else kept
    let a : After := ⟨if mark.tag.isComment then a.all else mark.trimAfter,
      if mark.tag.ownsLine then alone else a.line⟩
    .text (String.ofList kept) :: .tag mark.tag :: trimmed a (mark.tag.following next) false rest

/-! ## blocks -/

/-- a block that is not closed yet; the newest element comes first -/
structure OpenBlock where
  head : Head
  names : List String
  /-- opened by an `else` of the block around it, and closed with that one -/
  chained : Bool
  /-- the part in front of `else`, once that has come -/
  body : Option (List Element)
  current : List Element

def OpenBlock.element (b : OpenBlock) : Element :=
  match b.body with
  | none => .block b.head b.names b.current.reverse none
  | some body => .block b.head b.names body (some b.current.reverse)

/-- the element of the innermost block that is not chained, and the blocks around it -/
def closeBlock (name : String) (inner : List Element) :
    List OpenBlock → Option (Element × List OpenBlock)
  | [] => none
  | b :: rest =>
    let done := { b with current := inner ++ b.current }
    if b.chained then closeBlock name [done.element] rest
    else if b.head.name = name then some (done.element, rest)
    else none

/-- the open blocks and the elements outside all of them -/
structure Pending where
  blocks : List OpenBlock
  outside : List Element

def Pending.add (p : Pending) (e : Element) : Pending :=
  match p.blocks with
  | [] => { p with outside := e :: p.outside }
  | b :: rest => { p with blocks := { b with current := e :: b.current } :: rest }

/-- the innermost block goes on after its `else` -/
def Pending.invert (p : Pending) : Option Pending :=
  match p.blocks with
  | [] => none
  | b :: rest =>
    if b.body.isSome then none
    else some { p with blocks := { b with body := some b.current.reverse, current := [] } :: rest }

def Pending.push (p : Pending) (head : Head) (names : List String) (chained : Bool) : Pending :=
  { p with blocks := ⟨head, names, chained, none, []⟩ :: p.blocks }

def Pending.step (p : Pending) : Item → Option Pending
  | .text s => some (if s.isEmpty then p else p.add (.text s))
  | .tag (.value operand) => some (p.add (.value operand))
  | .tag (.call head) => some (p.add (.call head))
  | .tag .comment => some p
  | .tag (.openBlock head names) => some (p.push head names false)
  | .tag (.openRaw head names) => some (p.push head names false)
  | .tag (.chain head names) => p.invert.map (·.push head names true)
  | .tag .invert => p.invert
  | .tag (.close name) => (closeBlock name [] p.blocks).map fun (e, blocks) => { p with blocks }.add e
  | .tag (.closeRaw name) =>
    (closeBlock name [] p.blocks).map fun (e, blocks) => { p with blocks }.add e

def assemble (items : List Item) : Option (List Element) := do
  let done ← items.foldlM Pending.step ⟨[], []⟩
  if done.blocks.isEmpty then some done.outside.reverse else none

/-- the template of a text -/
def parse (s : String) : Option (List Element) := do
  let chars := s.toList
  let (first, rest) := scanText "\x7b\x7b" chars
  let pieces ← readPieces chars.length rest
  assemble (trimmed ⟨false, false⟩ first true pieces)

end ProxyMesh.Template
