import ProxyMesh.Proofs.Compile.Digests
import ProxyMesh.Proofs.Fleet.Passes

/-!
# The summary of a pass

A pass that meets a digest which cannot be shortened has no summary.  Any other counts each of its nodes once,
and leaves the artifacts of every node that has some in the node's directory.

* `Fleet.atTurn`, `fateIn`   the fleet when the pass comes to a node, and what becomes of the node;
* `count_noteAll`, `failed_noteAll`   the summary counts every node once;
* `directory_visitAll_mem`   the directory of a node is what its own visit made of it;
* `compileNodes_broken`      a build that breaks one compile takes the summary of the pass;
* `Reported`                 the summary gives the fate of every node, and the directories show it;
* `compileFleet_reports_iff`   **a pass reports on all nodes unless an enabled node downloads a build
                             whose digest cannot be shortened**.
-/

namespace ProxyMesh

/-- how many nodes met this fate -/
def FleetSummary.count (s : FleetSummary) : Fate → Nat
  | .written => s.written
  | .unchanged => s.unchanged
  | .disabled => s.disabled
  | .failed => s.failed.length

theorem FleetSummary.count_note (s : FleetSummary) (node : Id) (fate k : Fate) :
    (s.note node fate).count k = s.count k + if fate = k then 1 else 0 := by
  cases fate <;> cases k <;> simp [note, count]

theorem FleetSummary.failed_note (s : FleetSummary) (node : Id) (fate : Fate) :
    (s.note node fate).failed = s.failed ++ if fate = .failed then [node] else [] := by
  cases fate <;> simp [note]

namespace Fleet

/-- the fleet when a pass over these nodes comes to this one -/
def atTurn (o : Options) (now : Nat) (f : Fleet) (l : List Node) (node : Node) : Fleet :=
  visitAll o now f (l.takeWhile (·.id != node.id))

/-- what becomes of the node in a pass over these nodes -/
def fateIn (o : Options) (now : Nat) (f : Fleet) (l : List Node) (node : Node) : Fate :=
  (f.atTurn o now l node).fate o now node

section
variable {f f' : Fleet} {o : Options} {now : Nat} {node n : Node} {l rest : List Node}

theorem atTurn_cons_self (f : Fleet) (o : Options) (now : Nat) (node : Node) (rest : List Node) :
    f.atTurn o now (node :: rest) node = f := by
  unfold atTurn
  rw [List.takeWhile_cons_of_neg (by simp)]
  rfl

theorem atTurn_cons_ne (h : node.id ≠ n.id) :
    f.atTurn o now (node :: rest) n = (visit o now f node).atTurn o now rest n := by
  unfold atTurn
  rw [List.takeWhile_cons_of_pos (by simpa using h)]
  rfl

theorem atTurn_store (f : Fleet) (o : Options) (now : Nat) (l : List Node) (node : Node) :
    (f.atTurn o now l node).store = f.store.afterNodes o now (l.takeWhile (·.id != node.id)) :=
  visitAll_store f o now _

theorem id_ne_of_nodup (hnodup : ((node :: rest).map Node.id).Nodup) (hn : n ∈ rest) :
    node.id ≠ n.id :=
  fun h => (List.nodup_cons.1 hnodup).1 (h ▸ List.mem_map_of_mem hn)

/-- the nodes after the first come to their turn in the pass that the first has been visited in -/
theorem fateIn_cons_rest (hnodup : ((node :: rest).map Node.id).Nodup) (hn : n ∈ rest) :
    f.fateIn o now (node :: rest) n = (visit o now f node).fateIn o now rest n := by
  unfold fateIn
  rw [atTurn_cons_ne (id_ne_of_nodup hnodup hn)]

theorem fateIn_cons_self (f : Fleet) (o : Options) (now : Nat) (node : Node) (rest : List Node) :
    f.fateIn o now (node :: rest) node = f.fate o now node := by
  unfold fateIn
  rw [atTurn_cons_self]

/-! ## the summary -/

/-- **the summary counts every node once** -/
theorem count_noteAll (hnodup : (l.map Node.id).Nodup) (summary : FleetSummary) (k : Fate) :
    (noteAll o now f summary l).count k =
      summary.count k + l.countP (f.fateIn o now l · = k) := by
  induction l generalizing f summary with
  | nil => rfl
  | cons node rest ih =>
    have hrest : rest.countP (f.fateIn o now (node :: rest) · = k) =
        rest.countP ((visit o now f node).fateIn o now rest · = k) :=
      List.countP_congr fun n hn => by rw [fateIn_cons_rest hnodup hn]
    show (noteAll o now (visit o now f node) (summary.note node.id (f.fate o now node)) rest).count k = _
    rw [ih hnodup.of_cons, FleetSummary.count_note, List.countP_cons, hrest, fateIn_cons_self]
    simp only [decide_eq_true_eq]
    omega

theorem failed_noteAll (hnodup : (l.map Node.id).Nodup) (summary : FleetSummary) :
    (noteAll o now f summary l).failed =
      summary.failed ++ (l.filter (f.fateIn o now l · = .failed)).map Node.id := by
  induction l generalizing f summary with
  | nil => simp [noteAll]
  | cons node rest ih =>
    have hrest : rest.filter (f.fateIn o now (node :: rest) · = .failed) =
        rest.filter ((visit o now f node).fateIn o now rest · = .failed) :=
      List.filter_congr fun n hn => by rw [fateIn_cons_rest hnodup hn]
    show (noteAll o now (visit o now f node) (summary.note node.id (f.fate o now node)) rest).failed = _
    rw [ih hnodup.of_cons, FleetSummary.failed_note, List.filter_cons, hrest, fateIn_cons_self]
    by_cases hfailed : f.fate o now node = .failed <;> simp [hfailed]

/-! ## the directories -/

/-- a directory stays as it is while other nodes are visited -/
theorem directory_visitAll_ne (h : ∀ n ∈ l, n.id ≠ node.id) :
    (visitAll o now f l).directory (nodeDirectory node.id) = f.directory (nodeDirectory node.id) := by
  induction l generalizing f with
  | nil => rfl
  | cons n rest ih =>
    show (visitAll o now (visit o now f n) rest).directory _ = _
    rw [ih fun m hm => h m (List.mem_cons_of_mem _ hm)]
    exact directory_visit_ne fun hd => h n List.mem_cons_self (nodeDirectory_inj hd).symm

theorem directory_atTurn (f : Fleet) (o : Options) (now : Nat) (l : List Node) (node : Node) :
    (f.atTurn o now l node).directory (nodeDirectory node.id) =
      f.directory (nodeDirectory node.id) :=
  directory_visitAll_ne fun n hn => by
    simpa using List.all_eq_true.1 (List.all_takeWhile (l := l)) n hn

/-- **the directory of a node is what its own visit makes of it** -/
theorem directory_visitAll_mem (hnodup : (l.map Node.id).Nodup) (hnode : node ∈ l) :
    (visitAll o now f l).directory (nodeDirectory node.id) =
      (visit o now (f.atTurn o now l node) node).directory (nodeDirectory node.id) := by
  induction l generalizing f with
  | nil => cases hnode
  | cons first rest ih =>
    show (visitAll o now (visit o now f first) rest).directory _ = _
    rcases List.mem_cons.1 hnode with rfl | hrest
    · rw [atTurn_cons_self]
      exact directory_visitAll_ne fun n hn => (id_ne_of_nodup hnodup hn).symm
    · rw [ih hnodup.of_cons hrest, atTurn_cons_ne (id_ne_of_nodup hnodup hrest)]

/-! ## one node -/

theorem write_fst (f : Fleet) (name : String) (a : Artifacts) :
    (f.write name a).1 = !a.isCurrent (f.directory name) := by
  unfold write Directory.write
  cases a.isCurrent (f.directory name) <;> rfl

theorem compileNode_cases (f : Fleet) (o : Options) (now : Nat) (node : Node) :
    (∃ e, f.store.refusal? o node.id = some e ∧ f.compileNode o now node.id = (.error e, f)) ∨
      ∃ a s, compile f.store o node.id now = (.ok a, s) ∧
        (f.compileNode o now node.id).1 = .ok (!a.isCurrent (f.directory (nodeDirectory node.id))) := by
  rcases compile_cases f.store o node.id now with ⟨e, he, -⟩ | ⟨-, _, _, _, -, hok⟩
  · exact Or.inl ⟨e, he, visit_of_refused he⟩
  · refine Or.inr ⟨_, _, hok, ?_⟩
    rw [compileNode_of_ok hok]
    exact congrArg Except.ok (write_fst _ _ _)

theorem fate_disabled_iff : f.fate o now node = .disabled ↔ node.runtimeEnabled = false := by
  unfold fate
  cases node.runtimeEnabled with
  | false => simp
  | true =>
    rcases (f.compileNode o now node.id).1 with e | _ | _ <;> simp

theorem fate_failed_iff : f.fate o now node = .failed ↔
    node.runtimeEnabled = true ∧ f.store.refusal? o node.id ≠ none := by
  unfold fate
  cases node.runtimeEnabled with
  | false => simp
  | true =>
    rcases compileNode_cases f o now node with ⟨e, he, hc⟩ | ⟨a, s, hok, hc⟩
    · simp [he, hc]
    · have hnone : f.store.refusal? o node.id = none := by
        rcases compile_cases f.store o node.id now with ⟨e, -, he⟩ | ⟨hnone, -⟩
        · cases (Prod.mk.inj (he.symm.trans hok)).1
        · exact hnone
      rw [hc, hnone]
      cases a.isCurrent _ <;> simp

/-- a node that is written has its artifacts in its directory from then on -/
theorem holds_of_written (h : f.fate o now node = .written) :
    ∃ a s, compile f.store o node.id now = (.ok a, s) ∧
      ((visit o now f node).directory (nodeDirectory node.id)).Holds a := by
  unfold fate at h
  rcases compileNode_cases f o now node with ⟨e, -, hc⟩ | ⟨a, s, hok, hc⟩
  · rw [hc] at h
    split at h <;> cases h
  · refine ⟨a, s, hok, ?_⟩
    rw [directory_visit_of_ok hok, if_pos rfl]
    unfold Directory.write
    rw [hc] at h
    split
    next hcurrent =>
      rw [hcurrent] at h
      split at h <;> cases h
    · exact Directory.holds_putTexts _ a

/-- a node that is left unchanged has them there already -/
theorem isCurrent_of_unchanged (h : f.fate o now node = .unchanged) :
    ∃ a s, compile f.store o node.id now = (.ok a, s) ∧
      a.isCurrent (f.directory (nodeDirectory node.id)) = true ∧
      (visit o now f node).directory (nodeDirectory node.id) =
        f.directory (nodeDirectory node.id) := by
  unfold fate at h
  rcases compileNode_cases f o now node with ⟨e, -, hc⟩ | ⟨a, s, hok, hc⟩
  · rw [hc] at h
    split at h <;> cases h
  · have hcurrent : a.isCurrent (f.directory (nodeDirectory node.id)) = true := by
      rw [hc] at h
      cases hold : a.isCurrent (f.directory (nodeDirectory node.id)) with
      | true => rfl
      | false =>
        rw [hold] at h
        split at h <;> cases h
    refine ⟨a, s, hok, hcurrent, ?_⟩
    rw [directory_visit_of_ok hok, if_pos rfl]
    unfold Directory.write
    rw [if_pos hcurrent]

/-! ## a pass without a summary -/

theorem compileNodes_broken (now : Nat) (hl : ∀ n ∈ l, n ∈ f.store.nodes.records) (hnode : node ∈ l)
    {digest : String} (h : f.store.refusal? o node.id = some (.brokenDigest digest))
    (summary : FleetSummary) :
    ∃ n f', f.compileNodes o now summary l = (.error (.broken n), f') := by
  induction l generalizing f summary with
  | nil => cases hnode
  | cons first rest ih =>
    have hfirst : first ∈ f.store.nodes.records := hl first List.mem_cons_self
    by_cases hb : ∃ digest, f.store.refusal? o first.id = some (.brokenDigest digest)
    · obtain ⟨digest', hbroken⟩ := hb
      have henabled : first.runtimeEnabled = true :=
        ((refusal?_brokenDigest (Table.mem_records.1 hfirst)).1 hbroken).1
      refine ⟨first.id, (f.compileNodes o now summary rest).2, ?_⟩
      simp [compileNodes, henabled, visit_of_refused hbroken]
    · rw [compileNodes_cons now rest hfirst (not_exists.1 hb)]
      have hrest : node ∈ rest := by
        rcases List.mem_cons.1 hnode with rfl | hrest
        · exact absurd ⟨digest, h⟩ hb
        · exact hrest
      refine ih (fun n hn => ?_) hrest ?_ _
      · rw [nodes_visit]
        exact hl n (List.mem_cons_of_mem _ hn)
      · rw [refusal?_visit]
        exact h

/-! ## a pass that is reported -/

/-- The summary of a pass from `f` to `f'`: every node is counted for its fate, and the directory of a
node that has artifacts holds them; one that is left unchanged does unless two documents have one digest.
`f.atTurn` is the fleet that the node is compiled in. -/
structure Reported (o : Options) (now : Nat) (f f' : Fleet) (summary : FleetSummary) : Prop where
  count : ∀ k, summary.count k =
    f.store.nodes.records.countP (f.fateIn o now f.store.nodes.records · = k)
  failed : summary.failed =
    (f.store.nodes.records.filter (f.fateIn o now f.store.nodes.records · = .failed)).map Node.id
  disabled_iff : ∀ node ∈ f.store.nodes.records,
    f.fateIn o now f.store.nodes.records node = .disabled ↔ node.runtimeEnabled = false
  failed_iff : ∀ node ∈ f.store.nodes.records,
    f.fateIn o now f.store.nodes.records node = .failed ↔
      node.runtimeEnabled = true ∧ ∃ e, (compile f.store o node.id now).1 = .error e
  written : ∀ node ∈ f.store.nodes.records,
    f.fateIn o now f.store.nodes.records node = .written →
      ∃ a s, compile (f.atTurn o now f.store.nodes.records node).store o node.id now = (.ok a, s) ∧
        (f'.directory (nodeDirectory node.id)).Holds a
  unchanged : ∀ node ∈ f.store.nodes.records,
    f.fateIn o now f.store.nodes.records node = .unchanged →
      ∃ a s, compile (f.atTurn o now f.store.nodes.records node).store o node.id now = (.ok a, s) ∧
        f'.directory (nodeDirectory node.id) = f.directory (nodeDirectory node.id) ∧
        a.isCurrent (f'.directory (nodeDirectory node.id)) = true ∧
        ((∀ bytes, (f'.directory (nodeDirectory node.id)).bytes? configFile = some bytes →
          a.Told bytes) → (f'.directory (nodeDirectory node.id)).Holds a)
  rest : ∀ node ∈ f.store.nodes.records,
    f.fateIn o now f.store.nodes.records node = .failed ∨
        f.fateIn o now f.store.nodes.records node = .disabled →
      f'.directory (nodeDirectory node.id) = f.directory (nodeDirectory node.id)

theorem refusal?_atTurn (f : Fleet) (o : Options) (now : Nat) (l : List Node) (node : Node) :
    (f.atTurn o now l node).store.refusal? o node.id = f.store.refusal? o node.id := by
  rw [atTurn_store, Store.refusal?_afterNodes]

theorem reported_noteAll (o : Options) (now : Nat) (f : Fleet) :
    Reported o now f (visitAll o now f f.store.nodes.records)
      (noteAll o now f ⟨0, 0, 0, []⟩ f.store.nodes.records) := by
  have hnodup : (f.store.nodes.records.map Node.id).Nodup := nodup_keys f.store.nodes.ascending
  constructor
  case count =>
    intro k
    rw [count_noteAll hnodup]
    cases k <;> exact Nat.zero_add _
  case failed => exact failed_noteAll hnodup _
  case disabled_iff => exact fun node _ => fate_disabled_iff
  case failed_iff =>
    intro node _
    unfold fateIn
    rw [fate_failed_iff, refusal?_atTurn]
    simp only [compile_error, Option.ne_none_iff_exists']
  case written =>
    intro node hnode h
    obtain ⟨a, s, hok, hholds⟩ := holds_of_written h
    refine ⟨a, s, hok, ?_⟩
    rw [directory_visitAll_mem hnodup hnode]
    exact hholds
  case unchanged =>
    intro node hnode h
    obtain ⟨a, s, hok, hcurrent, hsame⟩ := isCurrent_of_unchanged h
    rw [directory_atTurn] at hcurrent hsame
    rw [directory_visitAll_mem hnodup hnode, hsame]
    exact ⟨a, s, hok, rfl, hcurrent, fun ht =>
      Directory.holds_of_isCurrent (compile_built hok) ht hcurrent⟩
  case rest =>
    intro node hnode h
    have hrefused : (f.atTurn o now f.store.nodes.records node).store.refusal? o node.id ≠ none := by
      rcases h with hfailed | hdisabled
      · exact (fate_failed_iff.1 hfailed).2
      · rw [refusal?_atTurn, refusal?_of_disabled hnode (fate_disabled_iff.1 hdisabled)]
        nofun
    obtain ⟨e, he⟩ := Option.ne_none_iff_exists'.1 hrefused
    have hstays : visit o now (f.atTurn o now f.store.nodes.records node) node =
        f.atTurn o now f.store.nodes.records node := congrArg Prod.snd (visit_of_refused he)
    rw [directory_visitAll_mem hnodup hnode, hstays, directory_atTurn]

/-- **A pass reports on all nodes unless an enabled node downloads a build whose digest cannot be
shortened.**  Six bytes of such a digest end inside a character; it can only be a digest of other
characters than hexadecimal digits. -/
theorem compileFleet_reports_iff (o : Options) (now : Nat) (f : Fleet) :
    (∃ summary f', compileFleet o now f = (.ok summary, f') ∧ Reported o now f f' summary) ↔
      ∀ node ∈ f.store.nodes.records, node.runtimeEnabled = true →
        ∀ b, Downloads f.store node b → ¬ CutsCharacter 6 b.hash.toList := by
  constructor
  · rintro ⟨summary, f', hpass, -⟩ node hnode henabled b hdownloads hcuts
    have hbroken : f.store.refusal? o node.id = some (.brokenDigest b.hash) :=
      (refusal?_brokenDigest (Table.mem_records.1 hnode)).2 ⟨henabled, b, hdownloads, hcuts, rfl⟩
    obtain ⟨n, f'', hends⟩ := compileNodes_broken (o := o) now (fun _ hn => hn) hnode
      hbroken ⟨0, 0, 0, []⟩
    cases (Prod.mk.inj (hpass.symm.trans hends)).1
  · intro hshort
    refine ⟨_, _, compileNodes_eq (fun _ hn => hn) (fun node hnode digest hbroken => ?_) _,
      reported_noteAll o now f⟩
    obtain ⟨henabled, b, hdownloads, hcuts, -⟩ :=
      (refusal?_brokenDigest (Table.mem_records.1 hnode)).1 hbroken
    exact hshort node hnode henabled b hdownloads hcuts

end

/-! ## a digest of other characters -/

/-- the second node has no runtime of its own and downloads one whose digest is cut in a character -/
def clipped : Fleet where
  store := { Store.empty with
    site := some { Site.default with runtimeProgram := some "xray" }
    nodes := .ofList [⟨1, "edge-1", "amd64", none, true, .empty⟩,
      ⟨2, "edge-2", "amd64", none, true, .empty⟩, ⟨3, "edge-3", "amd64", none, true, .empty⟩]
    programs := .ofList [⟨"xray", [⟨"amd64", "https://releases.example.com/xray", "abcdeé"⟩],
      [⟨1, "/usr/bin/xray"⟩, ⟨3, "/usr/bin/xray"⟩]⟩] }
  directories := .empty

/-- no summary, though the other two nodes have artifacts -/
theorem clipped_unreported :
    (∀ summary f', compileFleet ⟨"/srv", ""⟩ 0 clipped ≠ (.ok summary, f')) ∧
      (∃ a s, compile clipped.store ⟨"/srv", ""⟩ 1 0 = (.ok a, s)) ∧
      ∃ a s, compile clipped.store ⟨"/srv", ""⟩ 3 0 = (.ok a, s) := by
  have hbroken : clipped.store.refusal? ⟨"/srv", ""⟩ 2 = some (.brokenDigest "abcdeé") := by
    decide +kernel
  have hnode : ⟨2, "edge-2", "amd64", none, true, .empty⟩ ∈ clipped.store.nodes.records := by
    decide +kernel
  refine ⟨fun summary f' hpass => ?_, compile_of_refusal (by decide +kernel) 0,
    compile_of_refusal (by decide +kernel) 0⟩
  obtain ⟨n, f'', hends⟩ := compileNodes_broken (o := ⟨"/srv", ""⟩) 0
    (fun _ hn => hn) hnode hbroken ⟨0, 0, 0, []⟩
  cases (Prod.mk.inj (hpass.symm.trans hends)).1

end Fleet
end ProxyMesh
