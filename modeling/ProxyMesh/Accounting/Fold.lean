import ProxyMesh.Series.Query
import ProxyMesh.Topology.Records

/-!
# Window sums folded into counters

A counter holds the traffic of the window since its flow point, and the total that is billed.

* `usageQuery`            the traffic of a period in a window;
* `Counter.foldSync`      a fresh sum of the window; what it has more than before is billed;
* `Counter.foldForward`   traffic that left the window taken off; what the window did not hold is billed;
* `syncDue`, `forwardDue` the periods that a run is for.

Both folds give the excess: what was taken back, or taken off too much.
-/

namespace ProxyMesh

/-- the measurement that traffic is kept under -/
def usageMeasurement : String := "xray_usage"
def downloadField : String := "dl_bytes"
def uploadField : String := "up_bytes"

/-- the traffic of a period's users in `[start, stop)` -/
def usageQuery (period : Id) (start stop : Nat) : SumQuery where
  measurement := usageMeasurement
  fields := [downloadField, uploadField]
  tags := .ofList [("usage_type", "user"), ("period_id", toString period)]
  start
  stop

/-- the sums of both directions; one that is missing or negative counts as none -/
def windowTraffic (sums : Option FieldSums) : Traffic :=
  match sums with
  | some sums => ⟨(sums.of downloadField).toNat, (sums.of uploadField).toNat⟩
  | none => .none

def Traffic.isZero (t : Traffic) : Bool := t.download = 0 && t.upload = 0

/-- bytes times a factor, rounded; a factor of one changes nothing -/
def scale (bytes : Nat) (factor : Binary64) : Nat :=
  if factor = .one then bytes else ((Binary64.ofNat bytes).mul factor).toCount

/-- both directions changed alike -/
def Traffic.zipWith (f : Nat → Nat → Nat) (s t : Traffic) : Traffic :=
  ⟨f s.download t.download, f s.upload t.upload⟩

def Traffic.scaled (t : Traffic) (factor : Binary64) : Traffic :=
  ⟨scale t.download factor, scale t.upload factor⟩

/-- what `s` has more than `t` in each direction -/
def Traffic.minus (s t : Traffic) : Traffic := .zipWith (· - ·) s t

def Traffic.plus (s t : Traffic) : Traffic := .zipWith (· + ·) s t

namespace Counter

/-- a fresh sum of the window; the excess is what it has less than before -/
def foldSync (c : Counter) (sum : Traffic) (factor : Binary64) : Traffic × Counter :=
  (c.flow.minus sum,
    { c with flow := sum, current := c.current.plus ((sum.minus c.flow).scaled factor) })

/-- the window begins at `floor`, and `gone` left it; the excess is what it did not hold of that -/
def foldForward (c : Counter) (gone : Traffic) (floor : Nat) (factor : Binary64) :
    Traffic × Counter :=
  let excess := gone.minus c.flow
  (excess,
    { c with
      flow := c.flow.minus gone
      current := c.current.plus (excess.scaled factor)
      flowPointAt := some floor })

end Counter

/-- the period was used more than `gap` after its last sync, or used and never synced -/
def syncDue (p : Period) (gap : Nat) : Bool :=
  match p.usage.last, p.counter.lastFlowSyncAt with
  | some used, some synced => synced + gap < used
  | some _, none => true
  | none, _ => false

/-- the flow point lies before `floor` -/
def forwardDue (p : Period) (floor : Nat) : Bool := p.counter.flowPointAt.any (· < floor)

end ProxyMesh
