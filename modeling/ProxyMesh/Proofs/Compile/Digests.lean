import ProxyMesh.Proofs.Compile.Outcomes
import Mathlib.Algebra.GroupWithZero.Nat

/-!
# Digests that cannot be shortened

A runtime that is downloaded is installed under the first six bytes of its digest.  A digest is any
text that the store was given, and six bytes of it need not be a text.

* `CutsCharacter`           the first bytes of a text end inside a character;
* `takeBytes_eq_none_iff`   only then they are no text;
* `Downloads`               the build that a node downloads as its runtime;
* `refusal?_brokenDigest`   **a compile breaks exactly on such a build with such a digest**.
-/

namespace ProxyMesh

def byteSize (s : List Char) : Nat := (s.map Char.utf8Size).sum

/-- the first `size` bytes end inside a character -/
def CutsCharacter (size : Nat) (s : List Char) : Prop :=
  ∃ before c after, s = before ++ c :: after ∧ byteSize before < size ∧
    size < byteSize before + c.utf8Size

theorem byteSize_cons (c : Char) (s : List Char) : byteSize (c :: s) = c.utf8Size + byteSize s := rfl

/-- a character that fits is never the one that is cut -/
theorem cutsCharacter_cons {size : Nat} {c : Char} {rest : List Char} (h : c.utf8Size ≤ size) :
    CutsCharacter size (c :: rest) ↔ CutsCharacter (size - c.utf8Size) rest := by
  constructor
  · rintro ⟨before, d, after, hs, hstart, hend⟩
    cases before with
    | nil =>
      obtain ⟨rfl, rfl⟩ := List.cons.inj hs
      have hzero : byteSize [] = 0 := rfl
      omega
    | cons b before =>
      obtain ⟨rfl, rfl⟩ := List.cons.inj hs
      rw [byteSize_cons] at hstart hend
      exact ⟨before, d, after, rfl, by omega, by omega⟩
  · rintro ⟨before, d, after, rfl, hstart, hend⟩
    refine ⟨c :: before, d, after, rfl, ?_, ?_⟩ <;> rw [byteSize_cons] <;> omega

theorem takeBytes_eq_none_iff {size : Nat} {s : List Char} :
    takeBytes size s = none ↔ CutsCharacter size s := by
  fun_induction takeBytes size s with
  | case1 s =>
    refine ⟨nofun, ?_⟩
    rintro ⟨_, _, _, -, hstart, -⟩
    exact absurd hstart (Nat.not_lt_zero _)
  | case2 size =>
    refine ⟨nofun, ?_⟩
    rintro ⟨before, c, after, hs, -⟩
    exact absurd hs.symm (List.append_ne_nil_of_right_ne_nil before (List.cons_ne_nil c after))
  | case3 size c rest hlong =>
    exact ⟨fun _ => ⟨[], c, rest, rfl, Nat.succ_pos size, by rw [show byteSize [] = 0 from rfl]; omega⟩,
      fun _ => rfl⟩
  | case4 size c rest hfits ih =>
    rw [Option.map_eq_none_iff, ih, cutsCharacter_cons (by omega)]

theorem shortHash?_eq_none_iff {hash : String} :
    shortHash? hash = none ↔ CutsCharacter 6 hash.toList := by
  unfold shortHash?
  rw [Option.map_eq_none_iff, takeBytes_eq_none_iff]

/-- the build that a node downloads as its runtime -/
structure Downloads (s : Store) (node : Node) (b : Binary) : Prop where
  located : ∃ name program, s.siteSettings.runtimeProgram = some name ∧ name.isEmpty = false ∧
    s.programs.get? name = some program ∧ program.locate node = some (.binary b)
  fetched : ∃ source, Source.parse b.source = .ok source ∧ ∀ path, source ≠ .path path

section
variable {s : Store} {o : Options} {node : Node} {digest : String}

theorem installedBinary_error {program : String} {b : Binary} {e : CompileError} :
    installedBinary o program b = .error e ↔
      (∃ source, Source.parse b.source = .ok source ∧ ∀ path, source ≠ .path path) ∧
        CutsCharacter 6 b.hash.toList ∧ e = .brokenDigest b.hash := by
  rw [← shortHash?_eq_none_iff]
  unfold installedBinary
  split
  next hparse => simp [hparse]
  next hparse => simp [hparse]
  next source hnot hparse =>
    rw [hparse, and_iff_right ⟨source, rfl, fun path => hnot path⟩]
    cases shortHash? b.hash <;> simp [eq_comm]

theorem programPath_error {e : CompileError} :
    programPath s o node (s.siteSettings.runtimeProgram.getD "") = .error e ↔
      ∃ b, Downloads s node b ∧ CutsCharacter 6 b.hash.toList ∧ e = .brokenDigest b.hash := by
  unfold programPath
  constructor
  · intro h
    split at h
    · cases h
    next hnamed =>
      cases hruntime : s.siteSettings.runtimeProgram with
      | none =>
        rw [hruntime] at hnamed
        exact absurd rfl hnamed
      | some name =>
        rw [hruntime] at h hnamed
        split at h
        · cases h
        · cases h
        next b hlocated =>
          obtain ⟨program, hget, hlocate⟩ := Option.bind_eq_some_iff.1 hlocated
          obtain ⟨hfetched, hcuts, he⟩ := installedBinary_error.1 h
          exact ⟨b, ⟨⟨name, program, hruntime, Bool.eq_false_iff.2 hnamed, hget, hlocate⟩, hfetched⟩,
            hcuts, he⟩
  · rintro ⟨b, ⟨⟨name, program, hruntime, hnamed, hget, hlocate⟩, hfetched⟩, hcuts, rfl⟩
    rw [hruntime, Option.getD_some, hnamed, hget, Option.bind_some, hlocate]
    exact installedBinary_error.2 ⟨hfetched, hcuts, rfl⟩

/-- **a compile breaks exactly on a build to download whose digest cannot be shortened** -/
theorem refusal?_brokenDigest {id : Id} (hnode : s.nodes.get? id = some node) :
    s.refusal? o id = some (.brokenDigest digest) ↔ node.runtimeEnabled = true ∧
      ∃ b, Downloads s node b ∧ CutsCharacter 6 b.hash.toList ∧ digest = b.hash := by
  have hbroken : (∃ b, Downloads s node b ∧ CutsCharacter 6 b.hash.toList ∧ digest = b.hash) ↔
      programPath s o node (s.siteSettings.runtimeProgram.getD "") = .error (.brokenDigest digest) := by
    rw [programPath_error]
    simp only [CompileError.brokenDigest.injEq]
  rw [hbroken]
  unfold Store.refusal?
  rw [hnode]
  dsimp only
  cases node.runtimeEnabled with
  | false => simp
  | true =>
    rcases programPath s o node (s.siteSettings.runtimeProgram.getD "") with e | ⟨_ | ⟨path, file⟩⟩ <;>
      simp

end
end ProxyMesh
