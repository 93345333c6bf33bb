import ProxyMesh.Proofs.Fleet.Directories
import ProxyMesh.Proofs.Fleet.Nodes

/-!
# A pass over the nodes

A pass visits its nodes one after the other.  Of each visit the summary notes what became of the node.

* `Fleet.visit`, `visitAll`   one node compiled and written, and nodes one after the other;
* `Fate`, `fate`              what becomes of a node on a visit;
* `visit_store`, `visitAll_store`   the effect on the store is that of the compiles alone;
* `directory_visit_of_ok`, `directory_visit_ne`   a visit writes the directory of its node only;
* `compileNodes_cons`         one more node of a pass is visited and its fate noted;
* `compileNodes_eq`           **a pass that nothing breaks visits every node**.
-/

namespace ProxyMesh

/-- what becomes of a node in a pass -/
inductive Fate where
  | written
  | unchanged
  | disabled
  | failed
deriving DecidableEq

/-- one more node in the summary -/
def FleetSummary.note (s : FleetSummary) (node : Id) : Fate → FleetSummary
  | .written => { s with written := s.written + 1 }
  | .unchanged => { s with unchanged := s.unchanged + 1 }
  | .disabled => { s with disabled := s.disabled + 1 }
  | .failed => { s with failed := s.failed ++ [node] }

namespace Fleet

/-! ## one node -/

def visit (o : Options) (now : Nat) (f : Fleet) (node : Node) : Fleet :=
  (f.compileNode o now node.id).2

def visitAll (o : Options) (now : Nat) (f : Fleet) (nodes : List Node) : Fleet :=
  nodes.foldl (visit o now) f

/-- what becomes of the node on a visit -/
def fate (o : Options) (now : Nat) (f : Fleet) (node : Node) : Fate :=
  if !node.runtimeEnabled then .disabled
  else match (f.compileNode o now node.id).1 with
    | .ok true => .written
    | .ok false => .unchanged
    | .error _ => .failed

/-- the summary once the nodes have been visited -/
def noteAll (o : Options) (now : Nat) : Fleet → FleetSummary → List Node → FleetSummary
  | _, summary, [] => summary
  | f, summary, node :: rest =>
    noteAll o now (visit o now f node) (summary.note node.id (f.fate o now node)) rest

section
variable {f : Fleet} {o : Options} {now : Nat} {node : Node} {a : Artifacts} {s : Store}

theorem compileNode_of_error {e : CompileError} {id : Id}
    (h : compile f.store o id now = (.error e, s)) :
    f.compileNode o now id = (.error e, { f with store := s }) := by
  unfold compileNode
  rw [h]

theorem compileNode_of_ok {id : Id} (h : compile f.store o id now = (.ok a, s)) :
    f.compileNode o now id =
      (.ok (({ f with store := s } : Fleet).write (nodeDirectory id) a).1,
        (({ f with store := s } : Fleet).write (nodeDirectory id) a).2) := by
  unfold compileNode
  rw [h]

theorem write_store (f : Fleet) (name : String) (a : Artifacts) : (f.write name a).2.store = f.store := by
  unfold write
  dsimp only
  split <;> rfl

theorem visit_store (f : Fleet) (o : Options) (now : Nat) (node : Node) :
    (visit o now f node).store = (compile f.store o node.id now).2 := by
  unfold visit
  rcases h : compile f.store o node.id now with ⟨e | a, s⟩
  · rw [compileNode_of_error h]
  · rw [compileNode_of_ok h]
    exact write_store _ _ _

theorem visit_of_refused {e : CompileError} (h : f.store.refusal? o node.id = some e) :
    f.compileNode o now node.id = (.error e, f) := by
  rcases compile_cases f.store o node.id now with ⟨e', he, hc⟩ | ⟨hnone, -⟩
  · obtain rfl := Option.some.inj (h.symm.trans he)
    exact compileNode_of_error hc
  · rw [hnone] at h
    cases h

theorem refusal?_of_error {e : CompileError} {f' : Fleet}
    (h : f.compileNode o now node.id = (.error e, f')) : f.store.refusal? o node.id = some e := by
  rcases compile_cases f.store o node.id now with ⟨e', he, -⟩ | ⟨-, _, _, _, -, hok⟩
  · rw [visit_of_refused he] at h
    rw [he, Except.error.inj (Prod.mk.inj h).1]
  · rw [compileNode_of_ok hok] at h
    cases (Prod.mk.inj h).1

theorem directory_visit_of_ok (h : compile f.store o node.id now = (.ok a, s)) (name : String) :
    (visit o now f node).directory name =
      if name = nodeDirectory node.id then ((f.directory name).write a).2 else f.directory name := by
  unfold visit
  rw [compileNode_of_ok h]
  rw [directory_write]
  by_cases hn : name = nodeDirectory node.id
  · rw [if_pos hn, if_pos hn, hn]
    rfl
  · rw [if_neg hn, if_neg hn]
    rfl

theorem directory_visit_of_refused {e : CompileError} (h : compile f.store o node.id now = (.error e, s))
    (name : String) : (visit o now f node).directory name = f.directory name := by
  unfold visit
  rw [compileNode_of_error h]
  rfl

theorem directory_visit_ne {name : String} (h : name ≠ nodeDirectory node.id) :
    (visit o now f node).directory name = f.directory name := by
  rcases hc : compile f.store o node.id now with ⟨e | a, s⟩
  · exact directory_visit_of_refused hc name
  · rw [directory_visit_of_ok hc, if_neg h]

theorem visitAll_store (f : Fleet) (o : Options) (now : Nat) (l : List Node) :
    (visitAll o now f l).store = f.store.afterNodes o now l := by
  induction l generalizing f with
  | nil => rfl
  | cons node rest ih =>
    show (visitAll o now (visit o now f node) rest).store = _
    rw [ih, visit_store]
    rfl

/-! ## a pass visits every node -/

theorem refusal?_of_disabled (hnode : node ∈ f.store.nodes.records)
    (h : node.runtimeEnabled = false) : f.store.refusal? o node.id = some (.runtimeDisabled node.id) := by
  have hget : f.store.nodes.get? node.id = some node := Table.mem_records.1 hnode
  unfold Store.refusal?
  rw [hget]
  simp [h]

theorem compileNodes_cons (now : Nat) (rest : List Node) (hnode : node ∈ f.store.nodes.records)
    (hb : ∀ digest, f.store.refusal? o node.id ≠ some (.brokenDigest digest))
    (summary : FleetSummary) :
    f.compileNodes o now summary (node :: rest) =
      (visit o now f node).compileNodes o now (summary.note node.id (f.fate o now node)) rest := by
  unfold visit fate
  cases he : node.runtimeEnabled with
  | false =>
    have hc : f.compileNode o now node.id = (.error (.runtimeDisabled node.id), f) :=
      visit_of_refused (refusal?_of_disabled hnode he)
    simp [compileNodes, he, hc, FleetSummary.note]
  | true =>
    rcases hc : f.compileNode o now node.id with ⟨e | changed, f'⟩
    · have herror : f.store.refusal? o node.id = some e := refusal?_of_error hc
      cases e with
      | brokenDigest digest => exact absurd herror (hb digest)
      | nodeNotFound => simp [compileNodes, he, hc, FleetSummary.note]
      | runtimeDisabled => simp [compileNodes, he, hc, FleetSummary.note]
      | programNotFound => simp [compileNodes, he, hc, FleetSummary.note]
    · cases changed <;> simp [compileNodes, he, hc, FleetSummary.note]

theorem nodes_visit (f : Fleet) (o : Options) (now : Nat) (node : Node) :
    (visit o now f node).store.nodes = f.store.nodes := by
  rw [visit_store]
  exact Store.nodes_afterNodes f.store o now [node]

theorem refusal?_visit (f : Fleet) (o : Options) (now : Nat) (node : Node) (id : Id) :
    (visit o now f node).store.refusal? o id = f.store.refusal? o id := by
  rw [visit_store]
  exact Store.refusal?_afterNodes f.store o now [node] id

/-- **a pass that nothing breaks visits all its nodes** -/
theorem compileNodes_eq {l : List Node} (hl : ∀ n ∈ l, n ∈ f.store.nodes.records)
    (hb : ∀ n ∈ l, ∀ digest, f.store.refusal? o n.id ≠ some (.brokenDigest digest))
    (summary : FleetSummary) :
    f.compileNodes o now summary l = (.ok (noteAll o now f summary l), visitAll o now f l) := by
  induction l generalizing f summary with
  | nil => rfl
  | cons node rest ih =>
    rw [compileNodes_cons now rest (hl node List.mem_cons_self) (hb node List.mem_cons_self)]
    refine ih (fun n hn => ?_) (fun n hn => ?_) _
    · rw [nodes_visit]
      exact hl n (List.mem_cons_of_mem _ hn)
    · rw [refusal?_visit]
      exact hb n (List.mem_cons_of_mem _ hn)

end
end Fleet
end ProxyMesh
