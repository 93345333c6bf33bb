import ProxyMesh.Table
import ProxyMesh.Number.Binary64

/-!
# Points of a time series

* `FieldValue`                       what a field holds;
* `FieldValue.whole?`                its contribution to a sum;
* `Point`                            one sample, with tags and fields in the order of their keys;
* `Point.withTag`, `Point.withField` a tag or field added; an empty tag is none.
-/

namespace ProxyMesh

inductive FieldValue where
  | int (value : Int)
  | float (value : Binary64)
  | bool (value : Bool)
  | str (value : String)
deriving DecidableEq, Repr

namespace FieldValue

/-- the largest number that a field holds -/
def intMax : Nat := signedBound - 1

/-- a number without a sign, held to what a field holds -/
def ofNat (n : Nat) : FieldValue := .int (min n intMax : Nat)

/-- the whole number that counts in sums; texts and flags do not count -/
def whole? : FieldValue → Option Int
  | .int n => some n
  | .float x => some x.roundToInt64
  | .bool _ => none
  | .str _ => none

end FieldValue

structure Point where
  measurement : String
  tags : TextMap String
  fields : TextMap FieldValue
  /-- seconds since 1970 -/
  time : Nat
deriving DecidableEq

namespace Point

def bare (measurement : String) (time : Nat) : Point := ⟨measurement, .empty, .empty, time⟩

def withTag (p : Point) (name value : String) : Point :=
  if value.isEmpty then p else { p with tags := p.tags.put (name, value) }

def withField (p : Point) (name : String) (value : FieldValue) : Point :=
  { p with fields := p.fields.put (name, value) }

/-- the value of a tag -/
def tag? (p : Point) (name : String) : Option String := (p.tags.get? name).map (·.2)

/-- what a field counts in sums -/
def whole? (p : Point) (field : String) : Option Int := (p.fields.get? field).bind (·.2.whole?)

end Point

end ProxyMesh
