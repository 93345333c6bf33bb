/-!
# The state of a link

A link is down once enough observations in a row were dead, and up again with the first that is
alive.

* `LinkTracker.record`   one observation taken in;
* `LinkTracker.isUp`     the link was not taken down.
-/

namespace ProxyMesh

inductive LinkStatus where
  | unknown
  | up
  | down
deriving DecidableEq, Repr

def LinkStatus.word : LinkStatus → String
  | .unknown => "unknown"
  | .up => "up"
  | .down => "down"

structure LinkTracker where
  status : LinkStatus
  /-- the dead observations since the last that was alive -/
  dead : Nat
  /-- how many take the link down, at least one -/
  threshold : Nat
deriving DecidableEq, Repr

namespace LinkTracker

def fresh (threshold : Nat) : LinkTracker := ⟨.unknown, 0, max threshold 1⟩

def record (t : LinkTracker) (alive : Bool) : LinkTracker :=
  if alive then { t with status := .up, dead := 0 }
  else
    { t with
      dead := t.dead + 1
      status := if t.threshold ≤ t.dead + 1 then .down else t.status }

def isUp (t : LinkTracker) : Bool := t.status != .down

end LinkTracker

end ProxyMesh
