import ProxyMesh.Number.Bounds
import ProxyMesh.Number.Layout
import ProxyMesh.Table

/-!
# JSON values

A whole number between `-2 ^ 63` and `2 ^ 64 - 1` is an `int`, every other number a `real`.  The
fields of an object stand in the order in which they are written out.

* `Json.ofFields`  an object with its fields in key order, the last of two with one key;
* `Json.field?`    a field of an object;
* `Json.nat?`, `Json.int64?`   a number that fits 64 bits, without and with a sign;
* equality of values is decidable.
-/

namespace ProxyMesh

inductive Json where
  | null
  | bool (value : Bool)
  | int (value : Int)
  | real (value : Binary64)
  | str (value : String)
  | arr (items : List Json)
  | obj (fields : List (String × Json))
deriving Inhabited

namespace Json

mutual
/-- the two values are written alike -/
def same : Json → Json → Bool
  | .null, .null => true
  | .bool a, .bool b => a == b
  | .int a, .int b => a == b
  | .real a, .real b => a == b
  | .str a, .str b => a == b
  | .arr a, .arr b => sameItems a b
  | .obj a, .obj b => sameFields a b
  | _, _ => false
def sameItems : List Json → List Json → Bool
  | [], [] => true
  | a :: as, b :: bs => same a b && sameItems as bs
  | _, _ => false
def sameFields : List (String × Json) → List (String × Json) → Bool
  | [], [] => true
  | (k, a) :: as, (l, b) :: bs => k == l && same a b && sameFields as bs
  | _, _ => false
end

mutual
theorem same_iff : ∀ a b : Json, same a b = true ↔ a = b
  | .null, b => by cases b <;> simp [same]
  | .bool _, b => by cases b <;> simp [same]
  | .int _, b => by cases b <;> simp [same]
  | .real _, b => by cases b <;> simp [same]
  | .str _, b => by cases b <;> simp [same]
  | .arr as, b => by
    cases b with
    | arr bs => simp [same, sameItems_iff as bs]
    | _ => simp [same]
  | .obj as, b => by
    cases b with
    | obj bs => simp [same, sameFields_iff as bs]
    | _ => simp [same]
theorem sameItems_iff : ∀ as bs : List Json, sameItems as bs = true ↔ as = bs
  | [], bs => by cases bs <;> simp [sameItems]
  | a :: as, bs => by
    cases bs with
    | nil => simp [sameItems]
    | cons b bs => simp [sameItems, same_iff a b, sameItems_iff as bs]
theorem sameFields_iff : ∀ as bs : List (String × Json), sameFields as bs = true ↔ as = bs
  | [], bs => by cases bs <;> simp [sameFields]
  | (k, a) :: as, bs => by
    cases bs with
    | nil => simp [sameFields]
    | cons b bs =>
      obtain ⟨l, b⟩ := b
      simp [sameFields, same_iff a b, sameFields_iff as bs, Prod.ext_iff]
end

instance : DecidableEq Json := fun a b => decidable_of_iff _ (same_iff a b)

def ofNat (n : Nat) : Json := .int n

def ofWord (n : UInt64) : Json := .int n.toNat

def ofOption {α : Type} (f : α → Json) : Option α → Json
  | none => .null
  | some a => f a

def ofText : Option String → Json := ofOption .str

def ofTime : Option Nat → Json := ofOption ofNat

def ofList {α : Type} (f : α → Json) (l : List α) : Json := .arr (l.map f)

def ofTexts (l : List String) : Json := ofList .str l

/-- an object in key order; of two fields with one key the last counts -/
def ofFields (fields : List (String × Json)) : Json :=
  .obj (fields.foldl (fun sorted field => place field sorted) [])

def ofTextMap {α : Type} (f : α → Json) (m : TextMap α) : Json :=
  .obj (m.records.map fun (k, v) => (k, f v))

/-- the value of a field; of two with one name the last -/
def field? (name : String) : Json → Option Json
  | .obj fields => (fields.reverse.find? (·.1 == name)).map (·.2)
  | _ => none

def isObject : Json → Bool
  | .obj _ => true
  | _ => false

/-- a whole number of 64 bits -/
def nat? : Json → Option Nat
  | .int n => if 0 ≤ n && n < wordBound then some n.toNat else none
  | _ => none

/-- a whole number of 64 bits with a sign -/
def int64? : Json → Option Int
  | .int n => if isSigned n then some n else none
  | _ => none

end Json

end ProxyMesh
