import ProxyMesh.Traffic.Stat
import ProxyMesh.Traffic.Report

/-!
# Points from traffic reports

* `Subject.point`   the point of a subject, before its directions are filled in;
* `buildUsage`      a point for each subject of a report, and the periods and internal users that
                    traffic was seen of.
-/

namespace ProxyMesh

/-- the tags of a subject, as reported by `node` -/
def Subject.point (node : Id) (time : Nat) (s : Subject) : Point :=
  let p := (Point.bare usageMeasurement time).withTag "node_id" (toString node)
  match s with
  | .user period profile member =>
    let p := ((p.withTag "usage_type" "user").withTag "period_id" (toString period)).withTag
      "profile_id" (toString profile)
    member.elim p fun id => p.withTag "user_id" (toString id)
  | .internalUser rule origin =>
    ((p.withTag "usage_type" "internal_user").withTag "rule_id" (toString rule)).withTag
      "node_user_id" (toString origin)
  | .inbound tag => (p.withTag "usage_type" "inbound").withTag "inbound_tag" tag
  | .outbound tag => (p.withTag "usage_type" "outbound").withTag "outbound_tag" tag

structure UsageBatch where
  points : List Point
  periods : List Id
  internalUsers : List (Id × Id)
  /-- statistics whose name says nothing -/
  unmatched : Nat
deriving DecidableEq

/-- a statistic that was classified -/
structure Sample where
  subject : Subject
  direction : Direction
  value : Int
deriving DecidableEq, Repr

/-- a statistic with neither an empty name nor a zero value -/
def TrafficStat.counts (s : TrafficStat) : Bool := !s.name.isEmpty && s.value != 0

def TrafficStat.sample? (s : TrafficStat) : Option Sample :=
  (classify? s.name).map fun (subject, direction) => ⟨subject, direction, s.value⟩

/-- the value put into the point of its subject; of two for one direction the last counts -/
def addSample (node : Id) (time : Nat) (points : Table (Subject × Point)) (x : Sample) :
    Table (Subject × Point) :=
  let p := ((points.get? x.subject).map (·.2)).getD (x.subject.point node time)
  points.put (x.subject, p.withField x.direction.field (.int x.value))

def Sample.period? (x : Sample) : Option Id :=
  match x.subject with
  | .user period _ _ => some period
  | _ => none

def Sample.internalUser? (x : Sample) : Option (Id × Id) :=
  match x.subject with
  | .internalUser rule node => some (rule, node)
  | _ => none

def buildUsage (node : Id) (r : TrafficReport) : UsageBatch :=
  let stats := r.stats.filter TrafficStat.counts
  let samples := stats.filterMap TrafficStat.sample?
  { points := (samples.foldl (addSample node r.collectedAt) .empty).records.map (·.2)
    periods := distinctKeys (samples.filterMap Sample.period?)
    internalUsers := distinctKeys (samples.filterMap Sample.internalUser?)
    unmatched := stats.countP fun s => s.sample?.isNone }

end ProxyMesh
