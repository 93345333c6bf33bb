import ProxyMesh.Json.Number
import ProxyMesh.Number.Scaled

/-!
# The cost of a balancer member

* `cost`        the total weight over the member's own, divided first and then rounded to hundredths,
                and at least one hundredth;
* `Cost.text`   without a fraction if the quotient is whole, else with two places.
-/

namespace ProxyMesh.Balancing

/-- a cost in hundredths; `whole` if it came out without a fraction -/
structure Cost where
  hundredths : Nat
  whole : Bool
deriving DecidableEq, Repr

def Cost.least : Cost := ⟨1, false⟩

def cost (total weight : Nat) : Cost :=
  if weight = 0 then .least
  else
    let ratio := Scaled.quotient total weight
    if ratio.hundredths ≤ 1 then .least else ⟨ratio.hundredths, ratio.places == 0⟩

namespace Cost

def wholeDigits (c : Cost) : List Char := Nat.toDigits 10 (c.hundredths / 100)

def fractionDigits (c : Cost) : List Char :=
  [Nat.digitChar (c.hundredths / 10 % 10), Nat.digitChar (c.hundredths % 10)]

def text (c : Cost) : String :=
  if c.whole then String.ofList c.wholeDigits
  else String.ofList (c.wholeDigits ++ '.' :: c.fractionDigits)

/-- the number that the text spells in JSON -/
def toJson (c : Cost) : Json :=
  let fraction := if c.whole then none else some c.fractionDigits
  (Json.Numeral.value ⟨false, c.wholeDigits, fraction, none⟩).getD .null

end Cost

example : (cost 8 5).text = "1.60" ∧ (cost 8 2).text = "4" ∧ (cost 1 1000).text = "0.01" := by
  decide +kernel

end ProxyMesh.Balancing
