import ProxyMesh.Proofs.Compile.Users

/-!
# Nodes compiled in turn

* `afterNodes`          the store once the nodes have been compiled, one after the other;
* `afterNodes_eq`       all their joins in one;
* `afterNodes_congr`    **the order of the nodes does not matter**;
* `afterNodes_absorb`   **nodes compiled again leave the store as it is**.
-/

namespace ProxyMesh
namespace Store

/-- the store once these nodes have been compiled, one after the other -/
def afterNodes (s : Store) (o : Options) (now : Nat) (nodes : List Node) : Store :=
  nodes.foldl (fun s node => (compile s o node.id now).2) s

section
variable {s : Store} {now : Nat} {o : Options} {l l' : List Node}

theorem afterNodes_append (s : Store) (o : Options) (now : Nat) (l l' : List Node) :
    s.afterNodes o now (l ++ l') = (s.afterNodes o now l).afterNodes o now l' :=
  List.foldl_append

theorem afterNodes_eq (s : Store) (o : Options) (now : Nat) (l : List Node) :
    s.afterNodes o now l = s.joinAll now (l.flatMap fun node => s.joinsOf o node.id) := by
  induction l generalizing s with
  | nil => rfl
  | cons node rest ih =>
    show (compile s o node.id now).2.afterNodes o now rest = _
    have hsame : ∀ id, (compile s o node.id now).2.joinsOf o id = s.joinsOf o id := by
      intro id
      rw [compile_store, ← withUsers_joinAll]
      rfl
    rw [ih, List.flatMap_cons, joinAll_append]
    simp only [hsame]
    rw [compile_store]

theorem withUsers_afterNodes (s : Store) (o : Options) (now : Nat) (l : List Node) :
    s.withUsers (s.afterNodes o now l).internalUsers = s.afterNodes o now l := by
  rw [afterNodes_eq]
  exact withUsers_joinAll _ _ _

theorem nodes_afterNodes (s : Store) (o : Options) (now : Nat) (l : List Node) :
    (s.afterNodes o now l).nodes = s.nodes := by
  rw [← withUsers_afterNodes]
  rfl

theorem refusal?_afterNodes (s : Store) (o : Options) (now : Nat) (l : List Node) (id : Id) :
    (s.afterNodes o now l).refusal? o id = s.refusal? o id := by
  rw [← withUsers_afterNodes, refusal?_withUsers]

/-- **the store depends on which nodes have been compiled, not on their order** -/
theorem afterNodes_congr (h : ∀ node, node ∈ l ↔ node ∈ l') :
    s.afterNodes o now l = s.afterNodes o now l' := by
  rw [afterNodes_eq, afterNodes_eq]
  refine joinAll_congr fun q => ?_
  simp only [List.mem_flatMap, h]

/-- **nodes compiled again leave the store as it is** -/
theorem afterNodes_absorb (h : ∀ node ∈ l', node ∈ l) :
    (s.afterNodes o now l).afterNodes o now l' = s.afterNodes o now l := by
  rw [← afterNodes_append]
  refine afterNodes_congr fun node => ?_
  rw [List.mem_append, or_iff_left_of_imp (h node)]

end
end Store
end ProxyMesh
