import ProxyMesh.Compile.Directory

/-!
# The whole fleet compiled

Nodes are compiled in the order of their ids, each into a directory of its own.  One that fails is
noted and stops no other.  Only a compile that breaks at a digest takes the summary with it: the other
compiles of the pass have been started by then, but what became of them is lost.

* `nodeDirectory`   the name of a node's directory;
* `FleetError`      why a pass has no summary;
* `compileFleet`    one pass over all nodes.
-/

namespace ProxyMesh

structure FleetSummary where
  written : Nat
  unchanged : Nat
  disabled : Nat
  failed : List Id
deriving DecidableEq, Repr

inductive FleetError where
  /-- the compile of this node broke -/
  | broken (node : Id)
deriving DecidableEq, Repr

def nodeDirectory (node : Id) : String := "node-" ++ toString node

/-- the store, and the directories by name -/
structure Fleet where
  store : Store
  directories : TextMap Directory

namespace Fleet

def directory (f : Fleet) (name : String) : Directory :=
  ((f.directories.get? name).map (·.2)).getD .empty

/-- the artifacts of a node written below `name` -/
def write (f : Fleet) (name : String) (a : Artifacts) : Bool × Fleet :=
  let (changed, d) := (f.directory name).write a
  (changed, if changed then { f with directories := f.directories.put (name, d) } else f)

/-- one node compiled and written -/
def compileNode (o : Options) (now : Nat) (f : Fleet) (node : Id) :
    Except CompileError Bool × Fleet :=
  match compile f.store o node now with
  | (.error e, s) => (.error e, { f with store := s })
  | (.ok a, s) =>
    let (changed, f) := ({ f with store := s } : Fleet).write (nodeDirectory node) a
    (.ok changed, f)

/-- the remaining nodes compiled -/
def compileNodes (o : Options) (now : Nat) :
    Fleet → FleetSummary → List Node → Except FleetError FleetSummary × Fleet
  | f, summary, [] => (.ok summary, f)
  | f, summary, node :: rest =>
    if !node.runtimeEnabled then
      compileNodes o now f { summary with disabled := summary.disabled + 1 } rest
    else match f.compileNode o now node.id with
      | (.ok true, f) =>
        compileNodes o now f { summary with written := summary.written + 1 } rest
      | (.ok false, f) =>
        compileNodes o now f { summary with unchanged := summary.unchanged + 1 } rest
      | (.error (.brokenDigest _), f) => (.error (.broken node.id), (compileNodes o now f summary rest).2)
      | (.error _, f) =>
        compileNodes o now f { summary with failed := summary.failed ++ [node.id] } rest

end Fleet

def compileFleet (o : Options) (now : Nat) (f : Fleet) : Except FleetError FleetSummary × Fleet :=
  f.compileNodes o now ⟨0, 0, 0, []⟩ f.store.nodes.records

end ProxyMesh
