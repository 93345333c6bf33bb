import ProxyMesh.Health.Probe
import ProxyMesh.Health.Tracker
import ProxyMesh.Series.Point
import ProxyMesh.Tag.Resolve

/-!
# Probes traced to the links they are about

* `Correlator`              the resolutions that are kept, and the tracker of every link;
* `Correlator.observe`      the point of an observation, if its tag resolves on the node;
* `Correlator.correlate`    the points of a log;
* `Correlator.clearCache`   resolutions dropped, as they must be when the topology changes.
-/

namespace ProxyMesh

/-- a tag as reported by a node -/
abbrev NodeTag := Id × String

structure Correlator where
  threshold : Nat
  resolved : Table (NodeTag × Option ResolvedTag)
  trackers : Table (NodeTag × LinkTracker)

namespace Correlator

def fresh (threshold : Nat) : Correlator := ⟨threshold, .empty, .empty⟩

def clearCache (c : Correlator) : Correlator := { c with resolved := .empty }

def tracker? (c : Correlator) (node : Id) (tag : String) : Option LinkTracker :=
  (c.trackers.get? (node, tag)).map (·.2)

/-- the resolution that is kept, or a new one that is kept from now on -/
def resolve (c : Correlator) (s : Store) (node : Id) (tag : String) :
    Option ResolvedTag × Correlator :=
  match c.resolved.get? (node, tag) with
  | some (_, known) => (known, c)
  | none =>
    let found := resolveTag s node tag
    (found, { c with resolved := c.resolved.put ((node, tag), found) })

/-- the tracker of a link after one more observation -/
def track (c : Correlator) (node : Id) (o : Observation) : LinkTracker :=
  ((c.tracker? node o.tag).getD (.fresh c.threshold)).record o.alive

end Correlator

/-- the measurement that the state of links is kept under -/
def healthMeasurement : String := "connection_health"

/-- the tag that names the rule or tunnel of a link -/
def Point.withScope (p : Point) : Scope → Point
  | .rule id => p.withTag "connection_rule_id" (toString id)
  | .tunnel id => p.withTag "tunnel_id" (toString id)

/-- the point of an observation on a link -/
def healthPoint (node : Id) (o : Observation) (r : ResolvedTag) (linkUp : Bool) (time : Nat) :
    Point :=
  let p := (Point.bare healthMeasurement (o.time.getD time)).withTag "node_id" (toString node)
  let p := (p.withTag "connection_name" o.tag).withTag "connection_type" r.role.word
  let p := (p.withTag "source_node_id" (toString r.source)).withTag "binding_id"
    (toString r.binding.id)
  let p := p.withField "link_up" (.bool linkUp)
  let p := r.dest.elim p fun dest => p.withTag "dest_node_id" (toString dest)
  let p := p.withScope r.binding.scope
  let p := o.delayMs.elim p fun delay => p.withField "delay" (.float delay)
  o.reason.elim p fun reason => p.withField "reason" (.str reason)

namespace Correlator

/-- an observation from `node`; `time` counts if it has none of its own -/
def observe (c : Correlator) (s : Store) (node : Id) (time : Nat) (o : Observation) :
    Option Point × Correlator :=
  match c.resolve s node o.tag with
  | (none, c) => (none, c)
  | (some r, c) =>
    let t := c.track node o
    (some (healthPoint node o r t.isUp time), { c with trackers := c.trackers.put ((node, o.tag), t) })

/-- observations in order, and the points of those that resolve -/
def observeAll (c : Correlator) (s : Store) (node : Id) (time : Nat) :
    List Observation → List Point × Correlator
  | [] => ([], c)
  | o :: rest =>
    let (point, c) := c.observe s node time o
    let (points, c) := observeAll c s node time rest
    (point.toList ++ points, c)

/-- the points of a log from `node` -/
def correlate (c : Correlator) (s : Store) (node : Id) (time : Nat) (log : String) :
    List Point × Correlator :=
  c.observeAll s node time ((Text.lines log).filterMap readProbe?)

end Correlator

end ProxyMesh
