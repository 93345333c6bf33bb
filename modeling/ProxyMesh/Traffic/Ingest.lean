import ProxyMesh.Store.Basic
import ProxyMesh.Traffic.Usage

/-!
# Traffic taken in

Points are written first; the times of traffic are noted after that, so that a period that is due
has its points in the series.

* `Metering`       the store and the points of the series;
* `SeriesWriter`   whether a series takes a batch of points, given those that it holds;
* `Metering.ingest`, `Metering.ingestText`   one report, and the output of an agent.
-/

namespace ProxyMesh

structure Metering where
  store : Store
  points : List Point

/-- whether points are taken, given those that the series holds -/
abbrev SeriesWriter := List Point → List Point → Except SeriesError Unit

/-- a series that takes everything -/
def SeriesWriter.reliable : SeriesWriter := fun _ _ => .ok ()

structure IngestSummary where
  reports : Nat
  points : Nat
  periodsTouched : Nat
  internalUsersTouched : Nat
  unmatched : Nat
  badLines : Nat
deriving DecidableEq, Repr

namespace IngestSummary

def none : IngestSummary := ⟨0, 0, 0, 0, 0, 0⟩

def plus (a b : IngestSummary) : IngestSummary where
  reports := a.reports + b.reports
  points := a.points + b.points
  periodsTouched := a.periodsTouched + b.periodsTouched
  internalUsersTouched := a.internalUsersTouched + b.internalUsersTouched
  unmatched := a.unmatched + b.unmatched
  badLines := a.badLines + b.badLines

end IngestSummary

/-- every item touched in turn, and how many were there -/
def touchAll {ι : Type} (touch : Store → ι → Bool × Store) (s : Store) (items : List ι) :
    Nat × Store :=
  items.foldl (fun (count, s) item =>
    let (found, s) := touch s item
    (if found then count + 1 else count, s)) (0, s)

namespace Metering

/-- points at the end of the series, if it takes them; an empty batch is not offered -/
def write (w : SeriesWriter) (m : Metering) (points : List Point) :
    Except SeriesError Unit × Metering :=
  if points.isEmpty then (.ok (), m)
  else match w m.points points with
    | .ok () => (.ok (), { m with points := m.points ++ points })
    | .error e => (.error e, m)

/-- one report from `node` -/
def ingest (w : SeriesWriter) (node : Id) (m : Metering) (r : TrafficReport) :
    Except SeriesError IngestSummary × Metering :=
  let batch := buildUsage node r
  match m.write w batch.points with
  | (.error e, m) => (.error e, m)
  | (.ok (), m) =>
    let (periods, s) := touchAll (fun s id => s.touchPeriod id r.collectedAt) m.store batch.periods
    let (users, s) := touchAll (fun s (rule, user) => s.touchInternalUser rule user r.collectedAt) s
      batch.internalUsers
    (.ok ⟨1, batch.points.length, periods, users, batch.unmatched, 0⟩, { m with store := s })

/-- one line of an agent's output -/
def ingestLine (w : SeriesWriter) (node : Id) (m : Metering) (line : String) :
    Except SeriesError IngestSummary × Metering :=
  match readReport line with
  | .ok (some r) => m.ingest w node r
  | .ok none => (.ok .none, m)
  | .error _ => (.ok { IngestSummary.none with badLines := 1 }, m)

/-- lines up to the first whose points are not taken -/
def ingestLines (w : SeriesWriter) (node : Id) :
    Metering → List String → Except SeriesError IngestSummary × Metering
  | m, [] => (.ok .none, m)
  | m, line :: rest =>
    match m.ingestLine w node line with
    | (.error e, m) => (.error e, m)
    | (.ok summary, m) =>
      let (answer, m) := ingestLines w node m rest
      (answer.map summary.plus, m)

/-- the output of an agent on `node` -/
def ingestText (w : SeriesWriter) (node : Id) (m : Metering) (text : String) :
    Except SeriesError IngestSummary × Metering :=
  m.ingestLines w node (Text.lines text)

end Metering

end ProxyMesh
