import ProxyMesh.Number.Binary64

/-!
# TOML values

* `Toml`             a value; dates and times are known to be there, but not kept;
* `Toml.Decoder`     a reader of values: `text`, `natBelow`, `float`, `optional`;
* `Toml.Decoder.record`   a record that may leave out any field, written as a table or as the list of
                          its values.
-/

namespace ProxyMesh

inductive Toml where
  | str (value : String)
  | int (value : Int)
  | float (value : Binary64)
  | bool (value : Bool)
  | time
  | list (items : List Toml)
  | table (entries : List (String × Toml))
deriving Inhabited

namespace Toml

/-- a reader of values -/
abbrev Decoder (α : Type) := Toml → Option α

namespace Decoder

def text : Decoder String
  | .str s => some s
  | _ => none

def natBelow (bound : Nat) : Decoder Nat
  | .int n => if 0 ≤ n && n < bound then some n.toNat else none
  | _ => none

/-- a whole number counts as the value nearest it -/
def float : Decoder Binary64
  | .float x => some x
  | .int n => some (.ofRatio (n < 0) n.natAbs 1)
  | _ => none

/-- the fields that are there; unknown ones do not matter -/
def fieldsOf (names : List String) : Toml → Option (List (String × Toml))
  | .table entries => some entries
  | .list items => some (names.zip items)
  | _ => none

/-- a field, or its usual value when it is left out -/
def field {α : Type} (fields : List (String × Toml)) (name : String) (usual : α) (d : Decoder α) :
    Option α :=
  match fields.lookup name with
  | some v => d v
  | none => some usual

/-- a record with these fields -/
def record {α : Type} (names : List String) (read : List (String × Toml) → Option α) : Decoder α :=
  fun v => (fieldsOf names v).bind read

end Decoder

end Toml

end ProxyMesh
