import ProxyMesh.Series.Query
import ProxyMesh.Time.Civil

/-!
# Sum queries as Flux

* `fluxString`      a text as a literal, with a backslash before quotes and backslashes;
* `fluxSum`         the query that sums each field over the window;
* an empty window and a time that has no date are refused.
-/

namespace ProxyMesh

/-- one character inside a literal -/
def fluxChar (c : Char) : List Char := if c = '\\' || c = '"' then ['\\', c] else [c]

def fluxString (s : String) : String :=
  String.ofList ('"' :: (s.toList.flatMap fluxChar ++ ['"']))

/-- the date and time of a window's end -/
def fluxTime (seconds : Nat) : Except SeriesError String :=
  match Time.timestampText seconds with
  | some text => .ok text
  | none => .error (.invalidWindow seconds seconds)

/-- a filter line with the alternatives or conditions put together; none for an empty list -/
def fluxFilter (connective : String) (conditions : List String) : String :=
  if conditions.isEmpty then ""
  else "  |> filter(fn: (r) => " ++ connective.intercalate conditions ++ ")\n"

def fluxSum (bucket : String) (q : SumQuery) : Except SeriesError String := do
  q.check
  let start ← fluxTime q.start
  let stop ← fluxTime q.stop
  pure <| "from(bucket: " ++ fluxString bucket ++ ")\n  |> range(start: " ++ start ++ ", stop: " ++
    stop ++ ")\n" ++
    fluxFilter "" ["r._measurement == " ++ fluxString q.measurement] ++
    fluxFilter " and " (q.tags.records.map fun (name, value) =>
      "r[" ++ fluxString name ++ "] == " ++ fluxString value) ++
    fluxFilter " or " (q.fields.map fun field => "r._field == " ++ fluxString field) ++
    "  |> group(columns: [\"_field\"])\n  |> sum()\n"

end ProxyMesh
