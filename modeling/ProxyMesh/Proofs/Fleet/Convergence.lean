import ProxyMesh.Proofs.Fleet.Passes

/-!
# The fleet converges

A pass compiles every node and writes what has changed.  The first pass may write documents that
the users of later compiles would change; after it the users are settled, the second pass writes
what is still out of date, and from then on nothing is written.  In which order the nodes come makes
no difference to any of this.

* `Fleet.pass`, `passes`       one pass in a given order, and passes one after the other;
* `Fleet.Meets`, `NoCollision` the documents that a pass may compare, no two with one digest;
* `Fleet.Settled`              no compile changes the store, and every directory is up to date;
* `holds_visitAll`             a pass over a settled store leaves every directory up to date;
* `compileNodes_settled`       a pass over a settled fleet writes nothing;
* `passes_settle`              **two passes settle the fleet, in any order of the nodes**.
-/

namespace ProxyMesh
namespace Fleet

/-- all nodes compiled in this order -/
def pass (o : Options) (now : Nat) (f : Fleet) (order : List Node) :
    Except FleetError FleetSummary × Fleet :=
  f.compileNodes o now ⟨0, 0, 0, []⟩ order

/-- one pass after the other, each in an order of its own -/
def passes (o : Options) (now : Nat) (f : Fleet) (orders : List (List Node)) : Fleet :=
  orders.foldl (fun f order => (f.pass o now order).2) f

theorem compileFleet_eq_pass (o : Options) (now : Nat) (f : Fleet) :
    compileFleet o now f = f.pass o now f.store.nodes.records := rfl

/-- no node has settings that break its compile -/
def Unbroken (f : Fleet) (o : Options) (now : Nat) : Prop :=
  ∀ node ∈ f.store.nodes.records, ∀ digest,
    (compile f.store o node.id now).1 ≠ .error (.brokenDigest digest)

/-- a document that is there before the first pass, or that a pass may write: that of a node, after
any compiles of any nodes -/
inductive Meets (f : Fleet) (o : Options) (now : Nat) : ByteArray → Prop
  | before {node : Node} {bytes : ByteArray} (hnode : node ∈ f.store.nodes.records)
      (h : (f.directory (nodeDirectory node.id)).bytes? configFile = some bytes) : Meets f o now bytes
  | compiled {done : List Node} {node : Node} {a : Artifacts} {s : Store}
      (hdone : ∀ n ∈ done, n ∈ f.store.nodes.records) (hnode : node ∈ f.store.nodes.records)
      (h : compile (f.store.afterNodes o now done) o node.id now = (.ok a, s)) :
      Meets f o now a.configText.toUTF8

/-- no two documents that a pass may compare have one digest -/
def NoCollision (f : Fleet) (o : Options) (now : Nat) : Prop :=
  ∀ x y, f.Meets o now x → f.Meets o now y → Sha256.hexOfBytes x = Sha256.hexOfBytes y → x = y

section
variable {f : Fleet} {o : Options} {now : Nat} {node : Node} {a : Artifacts} {s : Store}

/-! ## a settled store -/

/-- no compile of these nodes changes the store any more -/
def StoreSettled (f : Fleet) (o : Options) (now : Nat) (l : List Node) : Prop :=
  ∀ n ∈ l, (compile f.store o n.id now).2 = f.store

/-- and their directories are up to date -/
structure Settled (f : Fleet) (o : Options) (now : Nat) (l : List Node) : Prop where
  store : f.StoreSettled o now l
  holds : ∀ n ∈ l, ∀ a s, compile f.store o n.id now = (.ok a, s) →
    (f.directory (nodeDirectory n.id)).Holds a

/-- a node whose directory is up to date is visited without effect -/
theorem compileNode_settled (hstore : (compile f.store o node.id now).2 = f.store)
    (hholds : ∀ a s, compile f.store o node.id now = (.ok a, s) →
      (f.directory (nodeDirectory node.id)).Holds a) :
    (f.compileNode o now node.id).1 ≠ .ok true ∧ visit o now f node = f := by
  unfold visit
  rcases h : compile f.store o node.id now with ⟨e | a, s⟩
  · rw [h] at hstore
    obtain rfl : s = f.store := hstore
    rw [compileNode_of_error h]
    exact ⟨nofun, rfl⟩
  · have hcurrent := Directory.isCurrent_of_holds (compile_built h) (hholds a s h)
    rw [h] at hstore
    obtain rfl : s = f.store := hstore
    rw [compileNode_of_ok h]
    have hwrite : f.write (nodeDirectory node.id) a = (false, f) := by
      unfold write Directory.write
      rw [if_pos hcurrent]
      rfl
    show Except.ok (f.write (nodeDirectory node.id) a).1 ≠ .ok true ∧
      (f.write (nodeDirectory node.id) a).2 = f
    rw [hwrite]
    exact ⟨nofun, rfl⟩

theorem written_note (h : (f.compileNode o now node.id).1 ≠ .ok true) (summary : FleetSummary) :
    (summary.note node.id (f.fate o now node)).written = summary.written := by
  unfold fate
  split
  · rfl
  · split
    next hwritten => exact absurd hwritten h
    · rfl
    · rfl

/-- **a pass over a settled fleet writes nothing** -/
theorem compileNodes_settled {l : List Node} (hl : ∀ n ∈ l, n ∈ f.store.nodes.records)
    (hb : ∀ n ∈ l, ∀ digest, f.store.refusal? o n.id ≠ some (.brokenDigest digest))
    (hs : f.Settled o now l) (summary : FleetSummary) :
    ∃ summary', f.compileNodes o now summary l = (.ok summary', f) ∧
      summary'.written = summary.written := by
  induction l generalizing summary with
  | nil => exact ⟨summary, rfl, rfl⟩
  | cons node rest ih =>
    obtain ⟨hquiet, hvisit⟩ := compileNode_settled (hs.store node List.mem_cons_self)
      (hs.holds node List.mem_cons_self)
    have hcons := compileNodes_cons now rest (hl node List.mem_cons_self)
      (hb node List.mem_cons_self) summary
    obtain ⟨summary'', hrest, hsame⟩ := ih (fun n hn => hl n (List.mem_cons_of_mem _ hn))
      (fun n hn => hb n (List.mem_cons_of_mem _ hn))
      ⟨fun n hn => hs.store n (List.mem_cons_of_mem _ hn),
        fun n hn => hs.holds n (List.mem_cons_of_mem _ hn)⟩
      (summary.note node.id (f.fate o now node))
    refine ⟨summary'', ?_, hsame.trans (written_note hquiet summary)⟩
    rw [hcons, hvisit, hrest]

/-! ## a pass over a settled store -/

theorem holds_visit {n : Node} (h : compile f.store o n.id now = (.ok a, s))
    (hholds : (f.directory (nodeDirectory n.id)).Holds a) :
    ((visit o now f node).directory (nodeDirectory n.id)).Holds a := by
  rcases hm : compile f.store o node.id now with ⟨e | b, s'⟩
  · rw [directory_visit_of_refused hm]
    exact hholds
  · rw [directory_visit_of_ok hm]
    by_cases hn : nodeDirectory n.id = nodeDirectory node.id
    · rw [if_pos hn]
      rw [← nodeDirectory_inj hn, h] at hm
      obtain rfl : a = b := Except.ok.inj (Prod.mk.inj hm).1
      rw [Directory.write_of_holds (compile_built h) hholds]
      exact hholds
    · rw [if_neg hn]
      exact hholds

/-- a visit brings the node's own directory up to date -/
theorem holds_visit_self (h : compile f.store o node.id now = (.ok a, s))
    (ht : ∀ bytes, (f.directory (nodeDirectory node.id)).bytes? configFile = some bytes → a.Told bytes) :
    ((visit o now f node).directory (nodeDirectory node.id)).Holds a := by
  rw [directory_visit_of_ok h, if_pos rfl]
  exact Directory.holds_write (compile_built h) ht

/-- and a document with another digest or the right one stays so -/
theorem told_visit {n : Node} (h : compile f.store o n.id now = (.ok a, s))
    (ht : ∀ bytes, (f.directory (nodeDirectory n.id)).bytes? configFile = some bytes → a.Told bytes)
    {bytes : ByteArray}
    (hbytes : ((visit o now f node).directory (nodeDirectory n.id)).bytes? configFile = some bytes) :
    a.Told bytes := by
  rcases hm : compile f.store o node.id now with ⟨e | b, s'⟩
  · rw [directory_visit_of_refused hm] at hbytes
    exact ht bytes hbytes
  · by_cases hn : nodeDirectory n.id = nodeDirectory node.id
    · rw [← nodeDirectory_inj hn, h] at hm
      obtain rfl : a = b := Except.ok.inj (Prod.mk.inj hm).1
      rw [directory_visit_of_ok (nodeDirectory_inj hn ▸ h), if_pos hn] at hbytes
      exact fun _ => Option.some.inj
        (hbytes.symm.trans (Directory.holds_write (compile_built h) ht).config)
    · rw [directory_visit_of_ok hm, if_neg hn] at hbytes
      exact ht bytes hbytes

theorem holds_visitAll_of_holds {n : Node} {l : List Node} (hs : f.StoreSettled o now l)
    (h : compile f.store o n.id now = (.ok a, s))
    (hholds : (f.directory (nodeDirectory n.id)).Holds a) :
    ((visitAll o now f l).directory (nodeDirectory n.id)).Holds a := by
  induction l generalizing f with
  | nil => exact hholds
  | cons node rest ih =>
    have hstore : (visit o now f node).store = f.store :=
      (visit_store f o now node).trans (hs node List.mem_cons_self)
    refine ih (f := visit o now f node) (fun m hm => ?_) ?_ (holds_visit h hholds)
    · rw [hstore]
      exact hs m (List.mem_cons_of_mem _ hm)
    · rw [hstore]
      exact h

/-- **a pass over a settled store brings every directory up to date** -/
theorem holds_visitAll {l : List Node} (hs : f.StoreSettled o now l)
    (ht : ∀ n ∈ l, ∀ a s, compile f.store o n.id now = (.ok a, s) →
      ∀ bytes, (f.directory (nodeDirectory n.id)).bytes? configFile = some bytes → a.Told bytes) :
    ∀ n ∈ l, ∀ a s, compile f.store o n.id now = (.ok a, s) →
      ((visitAll o now f l).directory (nodeDirectory n.id)).Holds a := by
  induction l generalizing f with
  | nil => exact fun n hn => absurd hn List.not_mem_nil
  | cons node rest ih =>
    intro n hn a s h
    have hstore : (visit o now f node).store = f.store :=
      (visit_store f o now node).trans (hs node List.mem_cons_self)
    have hrest : (visit o now f node).StoreSettled o now rest := by
      intro m hm
      rw [hstore]
      exact hs m (List.mem_cons_of_mem _ hm)
    rcases List.mem_cons.1 hn with rfl | hn
    · show ((visitAll o now (visit o now f n) rest).directory _).Holds a
      refine holds_visitAll_of_holds hrest (by rw [hstore]; exact h) ?_
      exact holds_visit_self h (ht n List.mem_cons_self a s h)
    · refine ih hrest ?_ n hn a s (by rw [hstore]; exact h)
      intro m hm b s' hb bytes hbytes
      rw [hstore] at hb
      exact told_visit hb (ht m (List.mem_cons_of_mem _ hm) b s' hb) hbytes

/-- the directory of a node without artifacts stays as it is -/
theorem directory_visitAll_of_refused {l : List Node} {n : Node} {e : CompileError}
    (h : f.store.refusal? o n.id = some e) :
    (visitAll o now f l).directory (nodeDirectory n.id) = f.directory (nodeDirectory n.id) := by
  induction l generalizing f with
  | nil => rfl
  | cons node rest ih =>
    show (visitAll o now (visit o now f node) rest).directory _ = _
    rw [ih (by rw [refusal?_visit]; exact h)]
    rcases compile_cases f.store o node.id now with ⟨e', -, hc⟩ | ⟨hnone, _, _, _, -, hc⟩
    · exact directory_visit_of_refused hc _
    · rw [directory_visit_of_ok hc, if_neg]
      intro hd
      rw [← nodeDirectory_inj hd, h] at hnone
      cases hnone

/-! ## the first pass -/

/-- `f` comes from `f₀` by compiles of its nodes, and its documents are among those that a pass meets -/
structure Follows (f₀ f : Fleet) (o : Options) (now : Nat) : Prop where
  store : ∃ done, (∀ n ∈ done, n ∈ f₀.store.nodes.records) ∧
    f.store = f₀.store.afterNodes o now done
  meets : ∀ n ∈ f₀.store.nodes.records, ∀ bytes,
    (f.directory (nodeDirectory n.id)).bytes? configFile = some bytes → f₀.Meets o now bytes

variable {f₀ : Fleet}

theorem follows_refl (f₀ : Fleet) (o : Options) (now : Nat) : Follows f₀ f₀ o now :=
  ⟨⟨[], fun _ hn => absurd hn List.not_mem_nil, rfl⟩, fun _ hn _ hbytes => .before hn hbytes⟩

theorem follows_visit (h : Follows f₀ f o now) (hnode : node ∈ f₀.store.nodes.records) :
    Follows f₀ (visit o now f node) o now := by
  obtain ⟨done, hdone, hstore⟩ := h.store
  constructor
  · refine ⟨done ++ [node], ?_, ?_⟩
    · intro n hn
      rcases List.mem_append.1 hn with hn | hn
      · exact hdone n hn
      · exact List.mem_singleton.1 hn ▸ hnode
    · rw [visit_store, hstore, Store.afterNodes_append]
      rfl
  · intro n hn bytes hbytes
    rcases hc : compile f.store o node.id now with ⟨e | a, s⟩
    · rw [directory_visit_of_refused hc] at hbytes
      exact h.meets n hn bytes hbytes
    · rw [directory_visit_of_ok hc] at hbytes
      split at hbytes
      · rcases Directory.bytes?_write (f.directory (nodeDirectory n.id)) a with hsame | hnew
        · exact h.meets n hn bytes (hsame ▸ hbytes)
        · obtain rfl := Option.some.inj (hnew.symm.trans hbytes)
          rw [hstore] at hc
          exact .compiled hdone hnode hc
      · exact h.meets n hn bytes hbytes

theorem follows_visitAll {l : List Node} (h : Follows f₀ f o now)
    (hl : ∀ n ∈ l, n ∈ f₀.store.nodes.records) : Follows f₀ (visitAll o now f l) o now := by
  induction l generalizing f with
  | nil => exact h
  | cons node rest ih =>
    exact ih (follows_visit h (hl node List.mem_cons_self)) fun n hn => hl n (List.mem_cons_of_mem _ hn)

/-! ## passes -/

/-- the store once every node has been compiled, in the order of the nodes' ids -/
def settledStore (f : Fleet) (o : Options) (now : Nat) : Store :=
  f.store.afterNodes o now f.store.nodes.records

/-- the directory of the node is what the settled store of `f₀` makes of it: the node's artifacts, or
what was there if it has none -/
def Shows (f₀ f : Fleet) (o : Options) (now : Nat) (node : Node) : Prop :=
  match (compile (f₀.settledStore o now) o node.id now).1 with
  | .ok a => (f.directory (nodeDirectory node.id)).Holds a
  | .error _ => f.directory (nodeDirectory node.id) = f₀.directory (nodeDirectory node.id)

theorem Unbroken.refusal (hb : f₀.Unbroken o now) (hnode : node ∈ f₀.store.nodes.records)
    (digest : String) : f₀.store.refusal? o node.id ≠ some (.brokenDigest digest) :=
  fun h => hb node hnode digest (compile_error.2 h)

theorem Follows.nodes (h : Follows f₀ f o now) : f.store.nodes = f₀.store.nodes := by
  obtain ⟨done, -, hstore⟩ := h.store
  rw [hstore, Store.nodes_afterNodes]

theorem Follows.refusal (h : Follows f₀ f o now) (id : Id) :
    f.store.refusal? o id = f₀.store.refusal? o id := by
  obtain ⟨done, -, hstore⟩ := h.store
  rw [hstore, Store.refusal?_afterNodes]

theorem pass_eq (hb : f₀.Unbroken o now) (h : Follows f₀ f o now) {l : List Node}
    (hl : l.Perm f₀.store.nodes.records) :
    ∃ summary, f.pass o now l = (.ok summary, visitAll o now f l) := by
  refine ⟨_, compileNodes_eq (fun n hn => ?_) (fun n hn digest => ?_) _⟩
  · rw [h.nodes]
    exact hl.mem_iff.1 hn
  · rw [h.refusal]
    exact hb.refusal (hl.mem_iff.1 hn) digest

theorem Follows.pass (hb : f₀.Unbroken o now) (h : Follows f₀ f o now) {l : List Node}
    (hl : l.Perm f₀.store.nodes.records) : Follows f₀ (f.pass o now l).2 o now := by
  obtain ⟨summary, hpass⟩ := pass_eq hb h hl
  rw [hpass]
  exact follows_visitAll h fun n hn => hl.mem_iff.1 hn

theorem pass_first_store (hb : f₀.Unbroken o now) {l : List Node}
    (hl : l.Perm f₀.store.nodes.records) : (f₀.pass o now l).2.store = f₀.settledStore o now := by
  obtain ⟨summary, hpass⟩ := pass_eq hb (follows_refl f₀ o now) hl
  rw [hpass, visitAll_store]
  exact Store.afterNodes_congr fun n => hl.mem_iff

theorem pass_later_store (hb : f₀.Unbroken o now) (h : Follows f₀ f o now)
    (hstore : f.store = f₀.settledStore o now) {l : List Node} (hl : l.Perm f₀.store.nodes.records) :
    (f.pass o now l).2.store = f₀.settledStore o now := by
  obtain ⟨summary, hpass⟩ := pass_eq hb h hl
  rw [hpass, visitAll_store, hstore]
  exact Store.afterNodes_absorb fun n hn => hl.mem_iff.1 hn

theorem passes_later_store (hb : f₀.Unbroken o now) (h : Follows f₀ f o now)
    (hstore : f.store = f₀.settledStore o now) {orders : List (List Node)}
    (horders : ∀ l ∈ orders, l.Perm f₀.store.nodes.records) :
    (f.passes o now orders).store = f₀.settledStore o now := by
  induction orders generalizing f with
  | nil => exact hstore
  | cons l rest ih =>
    have hl := horders l List.mem_cons_self
    exact ih (h.pass hb hl) (pass_later_store hb h hstore hl) fun l' hl' =>
      horders l' (List.mem_cons_of_mem _ hl')

theorem storeSettled_of_store (hstore : f.store = f₀.settledStore o now) {l : List Node}
    (hl : ∀ n ∈ l, n ∈ f₀.store.nodes.records) : f.StoreSettled o now l := by
  intro n hn
  have habsorb : (f₀.settledStore o now).afterNodes o now [n] = f₀.settledStore o now :=
    Store.afterNodes_absorb fun m hm => List.mem_singleton.1 hm ▸ hl n hn
  rw [hstore]
  exact habsorb

/-- on a settled store a document cannot be taken for one that it is not -/
theorem told_of_noCollision (hsha : f₀.NoCollision o now) (h : Follows f₀ f o now)
    (hstore : f.store = f₀.settledStore o now) {n : Node} (hn : n ∈ f₀.store.nodes.records)
    (hc : compile f.store o n.id now = (.ok a, s)) {bytes : ByteArray}
    (hbytes : (f.directory (nodeDirectory n.id)).bytes? configFile = some bytes) : a.Told bytes := by
  rw [hstore] at hc
  exact hsha _ _ (h.meets n hn bytes hbytes) (.compiled (fun _ hm => hm) hn hc)

/-- after the second pass every directory shows the settled store -/
theorem shows_visitAll (hsha : f₀.NoCollision o now) (h : Follows f₀ f o now)
    (hstore : f.store = f₀.settledStore o now) {l : List Node} (hl : l.Perm f₀.store.nodes.records)
    (hkept : ∀ (n : Node) e, f₀.store.refusal? o n.id = some e →
      f.directory (nodeDirectory n.id) = f₀.directory (nodeDirectory n.id))
    (hnode : node ∈ f₀.store.nodes.records) : Shows f₀ (visitAll o now f l) o now node := by
  have hmem : ∀ n ∈ l, n ∈ f₀.store.nodes.records := fun n hn => hl.mem_iff.1 hn
  unfold Shows
  rw [← hstore]
  rcases hc : compile f.store o node.id now with ⟨e | a, s⟩
  · have hr : f.store.refusal? o node.id = some e := compile_error.1 (congrArg Prod.fst hc)
    exact (directory_visitAll_of_refused hr).trans (hkept node e ((h.refusal node.id).symm.trans hr))
  · exact holds_visitAll (storeSettled_of_store hstore hmem)
      (fun n hn b s' hb bytes hbytes => told_of_noCollision hsha h hstore (hmem n hn) hb hbytes)
      node (hl.mem_iff.2 hnode) a s hc

theorem Shows.holds (h : Shows f₀ f o now node) (hstore : f.store = f₀.settledStore o now)
    (hc : compile f.store o node.id now = (.ok a, s)) :
    (f.directory (nodeDirectory node.id)).Holds a := by
  unfold Shows at h
  rw [← hstore, hc] at h
  exact h

/-- **Two passes settle the fleet, in any order of the nodes.**  The store of the first pass is that of
any later one and the same for every order; the directories of the second pass are the same for all
orders, and a third pass writes nothing. -/
theorem passes_settle (hb : f.Unbroken o now) (hsha : f.NoCollision o now) {l₁ l₂ l₃ : List Node}
    {more : List (List Node)} (h₁ : l₁.Perm f.store.nodes.records)
    (h₂ : l₂.Perm f.store.nodes.records) (h₃ : l₃.Perm f.store.nodes.records)
    (hmore : ∀ l ∈ more, l.Perm f.store.nodes.records) :
    (f.passes o now (l₁ :: more)).store = f.settledStore o now ∧
      (∀ node ∈ f.store.nodes.records, Shows f (f.passes o now [l₁, l₂]) o now node) ∧
      ∃ summary, (f.passes o now [l₁, l₂]).pass o now l₃ = (.ok summary, f.passes o now [l₁, l₂]) ∧
        summary.written = 0 := by
  have hf₁ : Follows f (f.passes o now [l₁]) o now := (follows_refl f o now).pass hb h₁
  have hs₁ : (f.passes o now [l₁]).store = f.settledStore o now := pass_first_store hb h₁
  have hf₂ : Follows f (f.passes o now [l₁, l₂]) o now := hf₁.pass hb h₂
  have hs₂ : (f.passes o now [l₁, l₂]).store = f.settledStore o now :=
    pass_later_store hb hf₁ hs₁ h₂
  have hshows : ∀ node ∈ f.store.nodes.records, Shows f (f.passes o now [l₁, l₂]) o now node := by
    intro node hnode
    obtain ⟨_, hpass₁⟩ := pass_eq hb (follows_refl f o now) h₁
    obtain ⟨_, hpass₂⟩ := pass_eq hb hf₁ h₂
    show Shows f ((f.passes o now [l₁]).pass o now l₂).2 o now node
    rw [hpass₂]
    refine shows_visitAll hsha hf₁ hs₁ h₂ (fun n e hr => ?_) hnode
    show (f.pass o now l₁).2.directory _ = _
    rw [hpass₁]
    exact directory_visitAll_of_refused hr
  have hmem : ∀ n ∈ l₃, n ∈ f.store.nodes.records := fun n hn => h₃.mem_iff.1 hn
  refine ⟨passes_later_store hb hf₁ hs₁ hmore, hshows, ?_⟩
  refine compileNodes_settled (fun n hn => ?_) (fun n hn digest => ?_) ⟨?_, ?_⟩ _
  · rw [hf₂.nodes]
    exact hmem n hn
  · rw [hf₂.refusal]
    exact hb.refusal (hmem n hn) digest
  · exact storeSettled_of_store hs₂ hmem
  · exact fun n hn a s hc => (hshows n (hmem n hn)).holds hs₂ hc

end

/-! ## a fleet of two nodes

Only the second node has a user for the rule.  In the order of the ids it gets a consumer from the
first one in time, in the other order only by the second pass. -/

section

def nearNode : Node := ⟨1, "near", "amd64", none, true, .empty⟩
def farNode : Node := ⟨2, "far", "amd64", none, true, .empty⟩

def hop (id node : Id) : Binding := ⟨id, "hop", .rule 7, node, none, ⟨"", none, none, none⟩, []⟩

def pair : Fleet where
  store := { Store.empty with
    site := some { Site.default with runtimeProgram := some "xray" }
    nodes := .ofList [nearNode, farNode]
    programs := .ofList [⟨"xray", [], [⟨1, "/opt/xray"⟩, ⟨2, "/opt/xray"⟩]⟩]
    rules := .ofList [⟨7, "rule", "", "", ""⟩]
    bindings := .ofList [hop 1 1, hop 2 2]
    internalUsers := .ofList [⟨7, 2, true, "", .none⟩] }
  directories := .empty

def pairOptions : Options := ⟨"/srv", ""⟩

/-- the document of a node after some compiles -/
def pairText (done : List Node) (node : Node) : Option String :=
  match (compile (pair.store.afterNodes pairOptions 0 done) pairOptions node.id 0).1 with
  | .ok a => some a.configText
  | .error _ => none

theorem pairText_eq {done : List Node} (hdone : ∀ n ∈ done, n ∈ [nearNode, farNode]) {node : Node}
    (hnode : node ∈ [nearNode, farNode]) : pairText done node = pairText [] nearNode := by
  have hsub : ∀ n, n ∈ done ↔ n ∈ [nearNode, farNode].filter (· ∈ done) := by
    intro n
    rw [List.mem_filter, decide_eq_true_iff, and_iff_right_of_imp (hdone n)]
  have hcases : [nearNode, farNode].filter (· ∈ done) ∈
      [[], [nearNode], [farNode], [nearNode, farNode]] := by
    by_cases hnear : nearNode ∈ done <;> by_cases hfar : farNode ∈ done <;>
      simp [List.filter, hnear, hfar]
  have hall : ∀ l ∈ [[], [nearNode], [farNode], [nearNode, farNode]], ∀ n ∈ [nearNode, farNode],
      pairText l n = pairText [] nearNode := by decide +kernel
  have hstore : pair.store.afterNodes pairOptions 0 done = pair.store.afterNodes pairOptions 0
      ([nearNode, farNode].filter (· ∈ done)) := Store.afterNodes_congr hsub
  unfold pairText at hall ⊢
  rw [hstore]
  exact hall _ hcases node hnode

theorem meets_pair {bytes : ByteArray} (h : pair.Meets pairOptions 0 bytes) :
    some bytes = (pairText [] nearNode).map String.toUTF8 := by
  have hnodes : pair.store.nodes.records = [nearNode, farNode] := by decide +kernel
  cases h with
  | before hnode h => cases h
  | compiled hdone hnode h =>
    rw [hnodes] at hdone hnode
    rw [← pairText_eq hdone hnode]
    unfold pairText
    rw [h]
    rfl

theorem passes_settle_pair :
    pair.Unbroken pairOptions 0 ∧ pair.NoCollision pairOptions 0 ∧
      (pair.passes pairOptions 0 [[farNode, nearNode], [nearNode, farNode]]).store =
        pair.settledStore pairOptions 0 ∧
      (∀ node ∈ pair.store.nodes.records,
        Shows pair (pair.passes pairOptions 0 [[farNode, nearNode], [nearNode, farNode]])
          pairOptions 0 node) ∧
      ∃ summary, (pair.passes pairOptions 0 [[farNode, nearNode], [nearNode, farNode]]).pass
          pairOptions 0 [farNode, nearNode] =
            (.ok summary, pair.passes pairOptions 0 [[farNode, nearNode], [nearNode, farNode]]) ∧
        summary.written = 0 := by
  have hnodes : pair.store.nodes.records = [nearNode, farNode] := by decide +kernel
  have hunbroken : pair.Unbroken pairOptions 0 := by
    intro node hnode digest h
    rw [hnodes] at hnode
    have hnone : ∀ n ∈ [nearNode, farNode], pair.store.refusal? pairOptions n.id = none := by
      decide +kernel
    rw [compile_error, hnone node hnode] at h
    cases h
  have hsha : pair.NoCollision pairOptions 0 := fun x y hx hy _ =>
    Option.some.inj ((meets_pair hx).trans (meets_pair hy).symm)
  have hswap : [farNode, nearNode].Perm pair.store.nodes.records := by
    rw [hnodes]
    exact .swap _ _ _
  have hsame : [nearNode, farNode].Perm pair.store.nodes.records := .of_eq hnodes.symm
  exact ⟨hunbroken, hsha, passes_settle hunbroken hsha hswap hsame hswap
    (by simpa using hsame)⟩

end
end Fleet
end ProxyMesh
