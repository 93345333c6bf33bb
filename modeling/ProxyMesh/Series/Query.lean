import ProxyMesh.Series.Point
import ProxyMesh.Text.Quoted

/-!
# Sums over a window

* `SumQuery`         fields to be summed over the points with these tags in `[start, stop)`;
* `SumQuery.check`   a window that holds no second is refused;
* `sumPoints`        the sums over points at hand, `none` if no field of any point counts;
* `SeriesError`      why a series gave no answer;
* `SeriesReader`     the sums of a query, `memoryReader` those over points at hand.
-/

namespace ProxyMesh

structure SumQuery where
  measurement : String
  fields : List String
  tags : TextMap String
  start : Nat
  stop : Nat
deriving DecidableEq

/-- the sum of each field -/
abbrev FieldSums := TextMap Int

/-- why a table of sums cannot be read -/
inductive TableError where
  | unexpectedHeader (line : String)
  | shortRow (line : String)
  | notNumeric (cell : String)
deriving DecidableEq, Repr

def TableError.message : TableError → String
  | .unexpectedHeader line => "unexpected header: " ++ line
  | .shortRow line => "short row: " ++ line
  | .notNumeric cell => "non-numeric value " ++ Text.quoted cell

inductive SeriesError where
  | timeout (seconds : Nat)
  | connect (address reason : String)
  | http (reason : String)
  | status (code : Nat) (body : String)
  | unreadable (error : TableError)
  | invalidWindow (start stop : Nat)
deriving DecidableEq, Repr

def SeriesError.message : SeriesError → String
  | .timeout seconds => "time-series request timed out after " ++ toString seconds ++ "s"
  | .connect address reason => "connection to " ++ address ++ " failed: " ++ reason
  | .http reason => "http error: " ++ reason
  | .status code body => "time-series store returned " ++ toString code ++ ": " ++ body
  | .unreadable e => "unparseable response: " ++ e.message
  | .invalidWindow start stop =>
    "invalid query window [" ++ toString start ++ ", " ++ toString stop ++ ")"

namespace SumQuery

def check (q : SumQuery) : Except SeriesError Unit :=
  if q.stop ≤ q.start then .error (.invalidWindow q.start q.stop) else .ok ()

/-- the point counts for the query -/
def covers (q : SumQuery) (p : Point) : Bool :=
  p.measurement == q.measurement && q.start ≤ p.time && p.time < q.stop &&
    q.tags.records.all fun (name, value) => p.tag? name == some value

end SumQuery

namespace FieldSums

/-- the sum of a field, 0 if it has none -/
def of (sums : FieldSums) (field : String) : Int := ((sums.get? field).map (·.2)).getD 0

/-- a sum beyond 64 bits wraps around -/
def add (sums : FieldSums) (field : String) (value : Int) : FieldSums :=
  sums.put (field, wrapSigned (sums.of field + value))

end FieldSums

/-- the fields of one point added -/
def addPoint (fields : List String) (sums : FieldSums) (p : Point) : FieldSums :=
  fields.foldl (fun sums field => match p.whole? field with
    | some n => sums.add field n
    | none => sums) sums

def sumPoints (q : SumQuery) (points : List Point) : Option FieldSums :=
  let sums := (points.filter q.covers).foldl (addPoint q.fields) .empty
  if sums.records.isEmpty then none else some sums

/-- the sums of a query -/
abbrev SeriesReader := SumQuery → Except SeriesError (Option FieldSums)

/-- how long an answer takes, and how long it may take, in seconds -/
structure Latency where
  taken : Nat
  allowed : Nat
deriving DecidableEq, Repr

/-- a series of points at hand; an answer that takes too long is none -/
def memoryReader (points : List Point) (latency : Option Latency) : SeriesReader := fun q =>
  match q.check, latency with
  | .error e, _ => .error e
  | .ok (), none => .ok (sumPoints q points)
  | .ok (), some l =>
    if l.allowed < l.taken then .error (.timeout l.allowed) else .ok (sumPoints q points)

end ProxyMesh
