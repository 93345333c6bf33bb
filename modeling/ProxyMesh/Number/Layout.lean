import ProxyMesh.Number.Shortest

/-!
# How a number's digits are laid out

* `Layout`            where positional notation ends, and what a whole number and a special value
                      look like;
* `Layout.positional` digits around a point, never an exponent;
* `Layout.json`       positional while the first digit stands at `10 ^ -5` to `10 ^ 15`, always
                      with a fraction; else `d.ddde+x`;
* `Layout.toml`       positional, always with a fraction.
-/

namespace ProxyMesh

/-- the decisions of a text format for binary64 values -/
structure Layout where
  /-- the range of the first digit's exponent that is written without one -/
  isPositional : Int → Bool
  /-- what follows a whole number -/
  wholeSuffix : String
  infinity : String
  nan : Bool → String

namespace Layout

def positional : Layout := ⟨fun _ => true, "", "inf", fun _ => "NaN"⟩
def json : Layout := ⟨fun e => -5 ≤ e && e ≤ 15, ".0", "null", fun _ => "null"⟩
def toml : Layout := ⟨fun _ => true, ".0", "inf", fun negative => if negative then "-nan" else "nan"⟩

def zeros (n : Nat) : String := String.ofList (List.replicate n '0')

/-- digits around a point -/
def spellPositional (suffix : String) (d : Decimal) : String :=
  let text := toString d.digits
  match d.exponent with
  | .ofNat e => text ++ zeros e ++ suffix
  | .negSucc e =>
    let places := e + 1
    let chars := text.toList
    if places < chars.length then
      String.ofList (chars.take (chars.length - places)) ++ "." ++
        String.ofList (chars.drop (chars.length - places))
    else "0." ++ zeros (places - chars.length) ++ text

/-- one digit before the point and a signed exponent -/
def spellScientific (d : Decimal) : String :=
  let body := match (toString d.digits).toList with
    | first :: rest@(_ :: _) => String.ofList [first, '.'] ++ String.ofList rest
    | one => String.ofList one
  let place := d.place
  body ++ (if place < 0 then "e-" else "e+") ++ toString place.natAbs

/-- the text of a value in this layout -/
def text (l : Layout) (x : Binary64) : String :=
  let sign := if x.isNegative then "-" else ""
  if x.isNaN then l.nan x.isNegative
  else if x.isInfinite then sign ++ l.infinity
  else
    let d := x.shortest
    sign ++ if l.isPositional d.place then spellPositional l.wholeSuffix d else spellScientific d

example : positional.text (.ofDecimal false 1 21) = "1000000000000000000000" := by decide +kernel
example : json.text (.ofDecimal false 12345678901234568 0) = "1.2345678901234568e+16" := by
  decide +kernel
example : json.text (.ofDecimal true 0 0) = "-0.0" := by decide +kernel
example : json.text (.ofDecimal false 12 (-6)) = "0.000012" := by decide +kernel
example : toml.text (.ofDecimal false 105 (-2)) = "1.05" := by decide +kernel

end Layout

end ProxyMesh
