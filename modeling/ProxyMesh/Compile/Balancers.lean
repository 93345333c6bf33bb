import ProxyMesh.Compile.Draft
import ProxyMesh.Store.Basic

/-!
# The balancers of a document

* `strategyOf`         the strategy of a balancer: from its template, or the usual one;
* `compileBalancers`   the plan and the document of every balancer with members.
-/

namespace ProxyMesh

/-- a balancer with members -/
structure CompiledBalancer where
  tag : String
  plan : Balancing.Plan
  strategy : Json
deriving DecidableEq

namespace CompiledBalancer

def toJson (b : CompiledBalancer) : Json := .ofFields (
  [("tag", .str b.tag), ("selector", .ofTexts b.plan.selector), ("strategy", b.strategy)] ++
  (b.plan.fallback.map fun tag => ("fallbackTag", Json.str tag)).toList)

end CompiledBalancer

/-- texts with commas between -/
def joinCommas (l : List String) : String := String.intercalate "," l

/-- the strategy of a balancer; a template that is left out or has no object gives the usual one -/
def strategyOf (c : Context) (d : Draft) (tag : String) (plan : Balancing.Plan)
    (definition : Option Balancer) : Json × Draft :=
  let baselines := (definition.map (·.baselinesMs)).getD []
  let maxRtt := definition.bind (·.maxRttMs)
  let usual := plan.strategy baselines maxRtt
  match definition.bind (·.strategyTemplate) with
  | none => (usual, d)
  | some template =>
    let vars := Json.ofFields [
      ("env", Context.environment),
      ("costs_part", .str (joinCommas (plan.costEntries.map Json.compact))),
      ("baselines", .ofTexts (baselines.map Balancing.Plan.millis)),
      ("max_rtt", .ofText (maxRtt.map Balancing.Plan.millis)),
      ("fallback_tag", .ofText plan.fallback)]
    match d.fragment c .strategy ("balancer " ++ tag) template vars with
    | (some (first :: _), d) => (first, d)
    | (_, d) => (usual, d)

/-- the plan of a group of members on a node -/
def Group.plan (g : Group) (node : Id) (tag : String) : Option Balancing.Plan :=
  Balancing.Plan.compile (KeyStream.choose (Balancing.fallbackKey node tag)) g.candidates

/-- one more balancer -/
def addBalancer (c : Context) (s : Store) (state : List CompiledBalancer × Draft)
    (member : String × Group) : List CompiledBalancer × Draft :=
  let (done, d) := state
  let (tag, group) := member
  match group.plan c.node.id tag with
  | none => (done, d)
  | some plan =>
    let definition := (s.balancersFor group.scope).find? (·.name == group.name)
    let (strategy, d) := strategyOf c d tag plan definition
    (done ++ [⟨tag, plan, strategy⟩], d)

/-- the balancers of all groups, in the order of their tags -/
def compileBalancers (c : Context) (s : Store) (d : Draft) : List CompiledBalancer × Draft :=
  d.members.records.foldl (addBalancer c s) ([], d)

end ProxyMesh
