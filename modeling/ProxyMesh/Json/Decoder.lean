import ProxyMesh.Json.Tree

/-!
# Records read from JSON

A decoder turns a tree into a value, given how deep containers may still nest.

* `text`, `flag`, `nat`, `word`, `int64`, `value`   single values;
* `optional`, `list`, `textMap`                    values made of others;
* `record`   named fields, each at most once and unknown ones skipped, or the same fields as a list
             in the order of their declaration;
* `Found.required`, `Found.optional`, `Found.withDefault`   a field of a record.
-/

namespace ProxyMesh.Json

/-- a reader of trees -/
def Decoder (α : Type) : Type := Nat → Tree → Option α

namespace Decoder

variable {α β : Type}

def map (f : α → β) (d : Decoder α) : Decoder β := fun depth t => (d depth t).map f

def text : Decoder String
  | _, .text s => s
  | _, _ => none

def flag : Decoder Bool
  | _, .bool b => some b
  | _, _ => none

/-- a whole number below `bound` -/
def natBelow (bound : Nat) : Decoder Nat
  | _, .number (some (.int n)) => if 0 ≤ n && n < bound then some n.toNat else none
  | _, _ => none

def nat : Decoder Nat := natBelow wordBound

def word : Decoder UInt64 := nat.map UInt64.ofNat

def int64 : Decoder Int
  | _, .number (some n) => n.int64?
  | _, _ => none

def value : Decoder Json := fun depth t => t.value? depth

def optional (d : Decoder α) : Decoder (Option α)
  | _, .null => some none
  | depth, t => (d depth t).map some

def list (d : Decoder α) : Decoder (List α)
  | depth + 1, .list items => items.mapM (d depth)
  | _, _ => none

/-- one of a few words, or a record whose only field has that name and is null -/
def oneOf (choices : List (String × α)) : Decoder α
  | _, .text (some s) => choices.lookup s
  | _ + 1, .record [(some s, .null)] => choices.lookup s
  | _, _ => none

/-- a record whose field names are free; of two fields with one name the last counts -/
def textMap (d : Decoder α) : Decoder (TextMap α)
  | depth + 1, .record fields =>
    (fields.mapM fun (field : Option String × Tree) => do
      pure (← field.1, ← d depth field.2)).map Table.ofList
  | _, _ => none

/-- the declared fields of a record that were there -/
structure Found where
  depth : Nat
  byPosition : Bool
  fields : List (String × Tree)

namespace Found

def field? (r : Found) (name : String) : Option Tree := r.fields.lookup name

def required (r : Found) (name : String) (d : Decoder α) : Option α :=
  (r.field? name).bind (d r.depth)

def withDefault (r : Found) (name : String) (default : α) (d : Decoder α) : Option α :=
  match r.field? name with
  | some t => d r.depth t
  | none => some default

/-- a field that may be missing, but not from a list of fields -/
def optional (r : Found) (name : String) (d : Decoder α) : Option (Option α) :=
  match r.field? name with
  | some t => Decoder.optional d r.depth t
  | none => if r.byPosition then none else some none

end Found

/-- a record with these fields -/
def record (names : List String) (read : Found → Option α) : Decoder α
  | depth + 1, .record fields => do
    let named ← fields.mapM fun (field : Option String × Tree) => field.1.map (·, field.2)
    let known := named.filter fun (name, _) => names.contains name
    if (known.map (·.1)).Nodup then read ⟨depth, false, known⟩ else none
  | depth + 1, .list items =>
    if items.length ≤ names.length then read ⟨depth, true, names.zip items⟩ else none
  | _, _ => none

end Decoder

/-- the record of a text -/
def decode {α : Type} (d : Decoder α) (s : String) : Option α :=
  (Tree.read s).bind (d Tree.depthMax)

mutual
/-- the tree that says exactly this value -/
def toTree : Json → Tree
  | .null => .null
  | .bool b => .bool b
  | .int n => .number (some (.int n))
  | .real x => .number (some (.real x))
  | .str s => .text (some s)
  | .arr items => .list (itemTrees items)
  | .obj fields => .record (fieldTrees fields)
def itemTrees : List Json → List Tree
  | [] => []
  | item :: rest => toTree item :: itemTrees rest
def fieldTrees : List (String × Json) → List (Option String × Tree)
  | [] => []
  | (name, item) :: rest => (some name, toTree item) :: fieldTrees rest
end

/-- the record that a value stands for; as deep as it may be -/
def decodeValue {α : Type} (d : Decoder α) (v : Json) : Option α := d 1000000 v.toTree

end ProxyMesh.Json
