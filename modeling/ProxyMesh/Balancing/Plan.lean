import ProxyMesh.Balancing.Cost
import ProxyMesh.Hash.KeyStream
import ProxyMesh.Hash.Sha256
import ProxyMesh.Number.Bounds
import ProxyMesh.Topology.Records

/-!
# The members of a balancer

Weights of one tag add up, and a tag without weight is no member.  Members stand in the order of the
digests of their tags, each with its cost; the fallback is drawn among the heaviest.

* `Plan.compile`      the plan of a list of candidates;
* `fallbackKey`       the key of the draw, the same each time for one balancer on one node;
* `Plan.strategy`     the least-load strategy that the runtime reads.
-/

namespace ProxyMesh.Balancing

/-- a tag and its weight -/
structure Candidate where
  tag : String
  weight : Nat
deriving DecidableEq, Repr

/-- a weight has 32 bits -/
def weightMax : Nat := halfWordBound - 1

/-- the weight of each tag, those of one tag added up as far as 32 bits go -/
def mergeWeights (candidates : List Candidate) : TextMap Nat :=
  (candidates.filter (0 < ·.weight)).foldl
    (fun m c => m.put (c.tag, min (((m.get? c.tag).elim 0 (·.2)) + c.weight) weightMax)) .empty

/-- members are ordered by the digest of the tag, then by the tag -/
def orderKey (tag : String) : String × String := (Sha256.hex tag, tag)

/-- a member comes no later than another -/
def inOrder (a b : (String × String) × Candidate) : Bool := !before b.1 a.1

/-- the members in order -/
def members (candidates : List Candidate) : List Candidate :=
  let keyed := (mergeWeights candidates).records.map fun (tag, weight) =>
    (orderKey tag, Candidate.mk tag weight)
  (keyed.mergeSort inOrder).map (·.2)

def totalWeight (members : List Candidate) : Nat := members.foldl (fun n c => n + c.weight) 0

structure Plan where
  costs : List (String × Cost)
  fallback : Option String
deriving DecidableEq, Repr

namespace Plan

/-- the tags of the members -/
def selector (p : Plan) : List String := p.costs.map (·.1)

/-- the plan of the candidates, the fallback drawn with `choose` among the heaviest -/
def compile (choose : Nat → Nat) (candidates : List Candidate) : Option Plan :=
  match members candidates with
  | [] => none
  | first :: rest =>
    let all := first :: rest
    let total := totalWeight all
    let most := (all.map (·.weight)).foldl max 0
    let heaviest := all.filter (·.weight == most)
    some {
      costs := all.map fun c => (c.tag, cost total c.weight)
      fallback := (heaviest[choose heaviest.length]?).map (·.tag) }

def costEntry (member : String × Cost) : Json :=
  .ofFields [("regexp", .bool false), ("match", .str member.1), ("value", member.2.toJson)]

def costEntries (p : Plan) : List Json := p.costs.map costEntry

def millis (ms : Nat) : String := toString ms ++ "ms"

/-- the strategy of a balancer that brings no template -/
def strategy (p : Plan) (baselinesMs : List Nat) (maxRttMs : Option Nat) : Json :=
  .ofFields [
    ("type", .str "leastLoad"),
    ("settings", .ofFields (
      [("costs", .arr p.costEntries)] ++
      (if baselinesMs.isEmpty then [] else [("baselines", .ofTexts (baselinesMs.map millis))]) ++
      (match maxRttMs with
        | some ms => [("maxRTT", .str (millis ms))]
        | none => [])))]

end Plan

/-- the key of the draw for a balancer on a node -/
def fallbackKey (node : Id) (tag : String) : List UInt8 :=
  Sha256.digest (toString node ++ "/" ++ tag).toUTF8

end ProxyMesh.Balancing
