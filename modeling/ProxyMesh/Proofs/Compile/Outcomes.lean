import ProxyMesh.Compile.Artifacts
import ProxyMesh.Proofs.Tables

/-!
# The outcomes of a compile

* `Store.refusal?`   why a node gets no artifacts; it is decided by the node and the programs alone;
* `compile_cases`    a compile that is refused leaves the store as it is, any other builds artifacts;
* `compile_ok`       where the artifacts of a compile come from.
-/

namespace ProxyMesh

/-- why there are no artifacts for the node, if there are none -/
def Store.refusal? (s : Store) (o : Options) (id : Id) : Option CompileError :=
  match s.nodes.get? id with
  | none => some (.nodeNotFound id)
  | some node =>
    if !node.runtimeEnabled then some (.runtimeDisabled id)
    else match programPath s o node (s.siteSettings.runtimeProgram.getD "") with
      | .error e => some e
      | .ok none => some (.programNotFound id (s.siteSettings.runtimeProgram.getD ""))
      | .ok (some _) => none

section
variable {s s' : Store} {o : Options} {id : Id} {now : Nat} {a : Artifacts}

theorem compile_cases (s : Store) (o : Options) (id : Id) (now : Nat) :
    (∃ e, s.refusal? o id = some e ∧ compile s o id now = (.error e, s)) ∨
      (s.refusal? o id = none ∧ ∃ node path file, s.nodes.get? id = some node ∧
        compile s o id now =
          (.ok (buildArtifacts ⟨node, s.siteSettings, o, now⟩ s path file).1,
            (buildArtifacts ⟨node, s.siteSettings, o, now⟩ s path file).2)) := by
  unfold compile Store.refusal?
  cases hn : s.nodes.get? id with
  | none => exact Or.inl ⟨_, rfl, rfl⟩
  | some node =>
    cases he : node.runtimeEnabled with
    | false => exact Or.inl ⟨.runtimeDisabled id, by simp [he], by simp [he]⟩
    | true =>
      rcases hp : programPath s o node (s.siteSettings.runtimeProgram.getD "") with
        e | ⟨_ | ⟨path, file⟩⟩
      · exact Or.inl ⟨e, by simp [he, hp], by simp [he, hp]⟩
      · exact Or.inl ⟨.programNotFound id (s.siteSettings.runtimeProgram.getD ""), by simp [he, hp],
          by simp [he, hp]⟩
      · exact Or.inr ⟨by simp [he, hp], node, path, file, rfl, by simp [he, hp]⟩

theorem compile_ok (h : compile s o id now = (.ok a, s')) :
    ∃ node path file, s.nodes.get? id = some node ∧
      buildArtifacts ⟨node, s.siteSettings, o, now⟩ s path file = (a, s') := by
  rcases compile_cases s o id now with ⟨e, -, he⟩ | ⟨-, node, path, file, hn, hb⟩
  · rw [he] at h
    cases h
  · rw [hb] at h
    obtain ⟨ha, hs⟩ := Prod.mk.inj h
    exact ⟨node, path, file, hn, Prod.ext (Except.ok.inj ha) hs⟩

theorem compile_of_refusal (h : s.refusal? o id = none) (now : Nat) :
    ∃ a s', compile s o id now = (.ok a, s') := by
  rcases compile_cases s o id now with ⟨e, he, -⟩ | ⟨-, _, _, _, -, hok⟩
  · rw [h] at he
    cases he
  · exact ⟨_, _, hok⟩

theorem compile_error {e : CompileError} :
    (compile s o id now).1 = .error e ↔ s.refusal? o id = some e := by
  rcases compile_cases s o id now with ⟨e', hr, he⟩ | ⟨hr, node, path, file, hn, hb⟩
  · rw [he, hr, Except.error.injEq, Option.some.injEq]
  · rw [hb, hr]
    exact ⟨nofun, nofun⟩

end
end ProxyMesh
