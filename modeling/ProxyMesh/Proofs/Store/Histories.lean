import Mathlib.Data.List.Induction
import ProxyMesh.Proofs.Lists
import ProxyMesh.Proofs.Store.Rows
import ProxyMesh.Proofs.Text.Bytes
import ProxyMesh.Proofs.Topology.Documents
import ProxyMesh.Proofs.Topology.Keys

/-!
# Tables after any history

Records of every kind are put and deleted, and the tables are kept as rows of texts.  What is found and
listed is decided by the history alone: it is the record under a key that was put last, if the key was not
deleted since, as it is read back, and a list has these records in the order of their keys.

* `Naming.Precedes`           the order of names;
* `Kind.Sized`, `Kind.reread?`   records that can be written, and what is read of them;
* `reread?_of_plain`          without binary64 numbers and deep nesting they are read as they were;
* `decode_print`              **what is read of the text of a record**;
* `changesOf`, `left?`        what a history does to one kind, and what it leaves under a key;
* `rows_edits`                **the rows of a kind go through its changes as a table does**;
* `tables_ordered`            **the tables are ordered maps of records**;
* `burstPlan_drifts`          a number in the arguments of a plan is read as the next one.
-/

namespace ProxyMesh

/-! ## names -/

namespace Naming

/-- ids as numbers, names by their bytes, of two parts the first one first -/
def Precedes : (n : Naming) → n.KeyOf → n.KeyOf → Prop
  | .only => fun _ _ => False
  | .id => fun a b => UInt64.toNat a < UInt64.toNat b
  | .name => fun a b => Text.bytes a < Text.bytes b
  | .scopedName => fun a b => before a.1 b.1 = true ∨ a.1 = b.1 ∧ Text.bytes a.2 < Text.bytes b.2
  | .pair => fun a b => a.1.toNat < b.1.toNat ∨ a.1 = b.1 ∧ a.2.toNat < b.2.toNat

theorem before_iff : (n : Naming) → (a b : n.KeyOf) → (before a b = true ↔ n.Precedes a b)
  | .only, _, _ => ⟨nofun, nofun⟩
  | .id, _, _ => decide_eq_true_iff
  | .name, _, _ => decide_eq_true_iff.trans Text.bytes_lt_iff.symm
  | .scopedName, a, b => by
    have hname : before a.2 b.2 = true ↔ Text.bytes a.2 < Text.bytes b.2 :=
      decide_eq_true_iff.trans Text.bytes_lt_iff.symm
    exact before_pair_iff.trans (or_congr Iff.rfl (and_congr Iff.rfl hname))
  | .pair, _, _ =>
    before_pair_iff.trans (or_congr decide_eq_true_iff (and_congr Iff.rfl decide_eq_true_iff))

theorem embeds (n : Naming) : Embeds n.text := by
  have htext : ∀ a b : n.KeyOf, n.text a < n.text b ↔ before a b = true := by
    cases n with
    | only => exact fun a b => ⟨fun h => absurd h (String.lt_irrefl "site"), nofun⟩
    | id => exact fun a b => String.lt_iff.trans (padded_lt_iff.trans decide_eq_true_iff.symm)
    | name => exact fun a b => decide_eq_true_iff.symm
    | scopedName => exact Balancer.keyText_lt_iff
    | pair => exact InternalUser.keyText_lt_iff
  intro a b
  exact Bool.eq_iff_iff.2 (decide_eq_true_iff.trans (htext a b))

end Naming

/-! ## records read back -/

theorem eq_ok_of_toOption {ε α : Type} {e : Except ε α} {a : α} (h : e.toOption = some a) : e = .ok a := by
  cases e with
  | error e => cases h
  | ok b => exact congrArg Except.ok (Option.some.inj h)

namespace Kind

/-- the numbers have their widths, and free arguments are values that can be written -/
def Sized : (kind : Kind) → kind.Record → Prop
  | .balancer => Balancer.Fits
  | .binding => Binding.Fits
  | .tunnel => Tunnel.Fits
  | .plan => fun p => p.providerArgs.Proper
  | .period => fun p => p.Sized ∧ p.planArgs.Proper
  | .internalUser => fun u => u.usage.Fits
  | _ => fun _ => True

/-- no binary64 number in the free arguments, and at most 126 containers inside each other -/
def Plain : (kind : Kind) → kind.Record → Prop
  | .plan => fun p => p.providerArgs.Whole ∧ p.providerArgs.nesting ≤ 126
  | .period => fun p => p.planArgs.Whole ∧ p.planArgs.nesting ≤ 126
  | _ => fun _ => True

/-- the record with its free arguments as they are read of their text -/
def reread? : (kind : Kind) → kind.Record → Option kind.Record
  | .plan => fun p => p.providerArgs.reread?.map fun args => { p with providerArgs := args }
  | .period => fun p => p.planArgs.reread?.map fun args => { p with planArgs := args }
  | _ => some

/-- the key stays, whatever is read of the arguments -/
theorem key_of_reread? {kind : Kind} {a b : kind.Record} (h : kind.reread? a = some b) :
    (key b : kind.KeyOf) = key a := by
  cases kind
  case plan =>
    obtain ⟨args, -, rfl⟩ := Option.map_eq_some_iff.1 h
    rfl
  case period =>
    obtain ⟨args, -, rfl⟩ := Option.map_eq_some_iff.1 h
    rfl
  all_goals
    obtain rfl := Option.some.inj h
    rfl

theorem reread?_of_plain {kind : Kind} {a : kind.Record} (h : kind.Plain a) : kind.reread? a = some a := by
  have hargs : ∀ {v : Json}, v.Whole ∧ v.nesting ≤ 126 → v.reread? = some v := fun hv =>
    (if_pos hv.2).trans hv.1.reprinted?
  cases kind
  case plan =>
    show (Plan.providerArgs a).reread?.map _ = _
    rw [hargs h]
    rfl
  case period =>
    show (Period.planArgs a).reread?.map _ = _
    rw [hargs h]
    rfl
  all_goals rfl

theorem mapM_reread? {kind : Kind} {l : List kind.Record} (h : ∀ a ∈ l, kind.Plain a) :
    l.mapM kind.reread? = some l := by
  have hmap := Json.mapM_map_eq (f := id) (g := id) fun a ha => reread?_of_plain (h a ha)
  rwa [List.map_id] at hmap

/-- **what is read of the text of a record** -/
theorem decode_print : (kind : Kind) → {a : kind.Record} → kind.Sized a →
    Json.decode kind.decoder (kind.print a) = kind.reread? a
  | .node, a, _ => (Node.documented a).decode_compact (by decide)
  | .program, a, _ => (Program.documented a).decode_compact (by decide)
  | .site, a, _ => (Site.documented a).decode_compact (by decide)
  | .rule, a, _ => (Rule.documented a).decode_compact (by decide)
  | .balancer, _, h => (Balancer.documented h).decode_compact (by decide)
  | .binding, _, h => (Binding.documented h).decode_compact (by decide)
  | .tunnel, _, h => (Tunnel.documented h).decode_compact (by decide)
  | .inboundType, a, _ => (InboundType.documented a).decode_compact (by decide)
  | .fixedInbound, a, _ => (FixedInbound.documented a).decode_compact (by decide)
  | .profile, a, _ => (Profile.documented a).decode_compact (by decide)
  | .plan, _, h => Plan.decode_compact h
  | .period, _, h => Period.decode_compact h.1 h.2
  | .internalUser, _, h => (InternalUser.documented h).decode_compact (by decide)

theorem toOption_read {kind : Kind} {a : kind.Record} (h : kind.Sized a) :
    (kind.read (kind.print a)).toOption = kind.reread? a := by
  rw [← decode_print kind h]
  unfold read
  cases Json.decode kind.decoder (kind.print a) <;> rfl

theorem toOption_mapM_read {kind : Kind} {l : List kind.Record} (h : ∀ a ∈ l, kind.Sized a) :
    ((l.map kind.print).mapM kind.read).toOption = l.mapM kind.reread? := by
  induction l with
  | nil => rfl
  | cons a rest ih =>
    have hrest := ih fun b hb => h b (List.mem_cons_of_mem _ hb)
    rw [List.map_cons, List.mapM_cons, List.mapM_cons, ← toOption_read (h a List.mem_cons_self), ← hrest]
    cases kind.read (kind.print a) with
    | error e => rfl
    | ok b => cases (rest.map kind.print).mapM kind.read <;> rfl

theorem mem_all (kind : Kind) : kind ∈ all := by cases kind <;> decide

theorem shelf_inj {kind other : Kind} (h : kind.shelf = other.shelf) : kind = other :=
  List.inj_on_of_nodup_map (f := shelf) (l := all) (by decide) (mem_all kind) (mem_all other) h

end Kind

/-! ## changes of one table -/

section
variable {α κ : Type} [Key κ] [Keyed α κ] {text : κ → String} {print : α → String}

namespace Change

/-- the key that is put or deleted -/
def target : Change α κ → κ
  | .put a => key a
  | .delete k => k

def record? : Change α κ → Option α
  | .put a => some a
  | .delete _ => none

/-- the same change of the rows -/
def under (text : κ → String) (print : α → String) : Change α κ → Change (String × String) String
  | .put a => .put (row text print a)
  | .delete k => .delete (text k)

end Change

/-- what changes leave under a key: the record of the last change of the key, if that is no deletion -/
def left? [DecidableEq κ] (k : κ) (changes : List (Change α κ)) : Option α :=
  (changes.reverse.find? (·.target = k)).bind Change.record?

namespace Table

theorem rows_change (t : Table α) (htext : Embeds text) (c : Change α κ) :
    (t.rows htext print).change (c.under text print) = (t.change c).rows htext print := by
  cases c with
  | put a => exact rows_put t htext a
  | delete k => exact rows_erase t htext k

theorem rows_changes (t : Table α) (htext : Embeds text) (changes : List (Change α κ)) :
    changes.foldl (fun rows c => rows.change (c.under text print)) (t.rows htext print) =
      (changes.foldl change t).rows htext print :=
  List.foldl_hom (rows · htext print) fun t c => rows_change t htext c

theorem get?_change [DecidableEq κ] (t : Table α) (c : Change α κ) (k : κ) :
    (t.change c).get? k = if c.target = k then c.record? else t.get? k := by
  cases c with
  | put a =>
    show (t.put a).get? k = if key a = k then some a else t.get? k
    split
    next h => exact get?_put_some h
    next h => exact get?_put_ne t (Ne.symm h)
  | delete l =>
    show (t.erase l).get? k = if l = k then none else t.get? k
    rw [get?_erase]
    exact if_congr eq_comm rfl rfl

/-- a table that went through changes has what they leave -/
theorem get?_changes [DecidableEq κ] (changes : List (Change α κ)) (k : κ) :
    (changes.foldl change (empty : Table α)).get? k = left? k changes := by
  induction changes using List.reverseRecOn with
  | nil => rfl
  | append_singleton changes c ih =>
    unfold left?
    rw [List.foldl_append, List.reverse_append]
    show (change _ c).get? k = ((c :: changes.reverse).find? _).bind _
    rw [get?_change, List.find?_cons]
    split
    next h => rw [decide_eq_true h]; rfl
    next h => rw [decide_eq_false h]; exact ih

end Table
end

/-! ## histories -/

/-- the change of this kind that the edit is, if it is one -/
def Edit.of? (kind : Kind) (e : Edit) : Option (Change kind.Record kind.KeyOf) :=
  if h : e.kind = kind then some (h ▸ e.change) else none

/-- what a history does to one kind -/
def changesOf (kind : Kind) (history : List Edit) : List (Change kind.Record kind.KeyOf) :=
  history.filterMap (Edit.of? kind)

/-- the record that is put can be written -/
def Edit.Sized (e : Edit) : Prop := ∀ a, e.change = .put a → e.kind.Sized a

theorem sized_of_left {history : List Edit} (h : ∀ e ∈ history, e.Sized) {kind : Kind} {a : kind.Record}
    {k : kind.KeyOf} (hleft : left? k (changesOf kind history) = some a) : kind.Sized a := by
  obtain ⟨c, hfound, hrecord⟩ := Option.bind_eq_some_iff.1 hleft
  obtain ⟨e, he, hof⟩ := List.mem_filterMap.1 (List.mem_reverse.1 (List.mem_of_find?_eq_some hfound))
  obtain ⟨other, change⟩ := e
  unfold Edit.of? at hof
  split at hof
  next hkind =>
    cases hkind
    obtain rfl := Option.some.inj hof
    cases change with
    | put b =>
      obtain rfl := Option.some.inj hrecord
      exact h _ he b rfl
    | delete k => cases hrecord
  · cases hof

namespace Database

variable {d : Database} {kind : Kind}

theorem rows_setRows_self (d : Database) (kind : Kind) (rows : TextMap String) :
    (d.setRows kind rows).rows kind = rows := by
  have hget : (Table.put d (kind.shelf, rows)).get? kind.shelf = some (kind.shelf, rows) :=
    Table.get?_put_some rfl
  unfold Database.rows setRows
  rw [hget]
  rfl

theorem rows_setRows_ne {other : Kind} (h : kind ≠ other) (d : Database) (rows : TextMap String) :
    (d.setRows other rows).rows kind = d.rows kind := by
  have hget : (Table.put d (other.shelf, rows)).get? kind.shelf = d.get? kind.shelf :=
    Table.get?_put_ne d fun hshelf => h (Kind.shelf_inj hshelf)
  unfold Database.rows setRows
  rw [hget]

theorem rows_edit (d : Database) (kind : Kind) (e : Edit) :
    (d.edit e).rows kind = (e.of? kind).elim (d.rows kind) fun c =>
      (d.rows kind).change (c.under kind.naming.text kind.print) := by
  obtain ⟨other, c⟩ := e
  unfold Edit.of? edit
  by_cases h : other = kind
  · subst h
    rw [dif_pos rfl]
    cases c <;> exact rows_setRows_self _ _ _
  · rw [dif_neg h]
    cases c <;> exact rows_setRows_ne (Ne.symm h) _ _

/-- **the rows of a kind go through its changes as a table does** -/
theorem rows_edits {t : Table kind.Record} (h : d.rows kind = t.rows kind.naming.embeds kind.print)
    (history : List Edit) : (d.edits history).rows kind =
      ((changesOf kind history).foldl Table.change t).rows kind.naming.embeds kind.print := by
  have hstep : ∀ (d : Database) (e : Edit), (d.edit e).rows kind = (e.of? kind).toList.foldl
      (fun rows c => rows.change (c.under kind.naming.text kind.print)) (d.rows kind) := by
    intro d e
    rw [rows_edit]
    cases e.of? kind <;> rfl
  have hrows := foldl_view (fun d : Database => d.rows kind) hstep history d
  rw [← List.filterMap_eq_flatMap_toList] at hrows
  exact hrows.trans (by rw [h]; exact Table.rows_changes t _ _)

section
variable {t : Table kind.Record} (hrows : d.rows kind = t.rows kind.naming.embeds kind.print)
  (hsized : ∀ a ∈ t.records, kind.Sized a)
include hrows

theorem delete_of_rows (k : kind.KeyOf) : (d.delete kind k).1 = (t.get? k).isSome := by
  unfold delete Table.contains
  rw [hrows, Table.get?_rows, Option.isSome_map]

include hsized

theorem get_of_rows (k : kind.KeyOf) : (d.get kind k).toOption = (t.get? k).mapM kind.reread? := by
  unfold get
  rw [hrows, Table.get?_rows]
  cases hfound : t.get? k with
  | none => rfl
  | some a =>
    have hread := Kind.toOption_read (hsized a (Table.mem_of_get? hfound))
    show ((kind.read (kind.print a)).map some).toOption = (kind.reread? a).map some
    rw [← hread]
    cases kind.read (kind.print a) <;> rfl

theorem list_of_rows : (d.list kind).toOption = t.records.mapM kind.reread? := by
  have hlist : d.list kind = (t.records.map kind.print).mapM kind.read := by
    unfold list
    rw [hrows, List.mapM_map]
    exact List.mapM_map
  rw [hlist]
  exact Kind.toOption_mapM_read hsized

end

/-- a scan finds the rows of the balancers of a scope -/
theorem scan_rows (t : Table Balancer) (print : Balancer → String) (scope : Scope) :
    scan (scope.keyText ++ "/") (t.rows (Naming.embeds .scopedName) print) =
      (t.records.filter fun b => b.scope = scope).map print := by
  have hbegins : ∀ b ∈ t.records, beginsWith (scope.keyText ++ "/") (Balancer.keyText (key b)) =
      decide (b.scope = scope) := by
    intro b _
    rw [Bool.eq_iff_iff, decide_eq_true_eq]
    exact List.isPrefixOf_iff_prefix.trans (Balancer.keyText_prefix_iff scope (b.scope, b.name))
  rw [scan_eq_filter, ← List.filter_congr hbegins]
  unfold Table.rows
  rw [List.filter_map, List.map_map]
  rfl

theorem balancersFor_of_rows {t : Table Balancer}
    (hrows : d.rows .balancer = t.rows (Naming.embeds .scopedName) (Kind.print .balancer))
    (hsized : ∀ b ∈ t.records, b.Fits) (scope : Scope) :
    d.balancersFor scope = .ok (t.records.filter fun b => b.scope = scope) := by
  let found : List (Kind.Record .balancer) := t.records.filter fun b => b.scope = scope
  have hread := Kind.toOption_mapM_read (l := found) fun b hb => hsized b (List.mem_of_mem_filter hb)
  unfold balancersFor
  rw [hrows, scan_rows]
  exact eq_ok_of_toOption (hread.trans (Kind.mapM_reread? fun _ _ => trivial))

end Database

/-- the records that a history leaves of a kind, in the order of their keys -/
structure Left (kind : Kind) (history : List Edit) (records : List kind.Record) : Prop where
  mem : ∀ a, a ∈ records ↔ left? (key a) (changesOf kind history) = some a
  order : records.Pairwise fun a b => kind.naming.Precedes (key a) (key b)

/-- **The tables are ordered maps of records**, whatever is put and deleted, and whatever the names.  What
the history leaves under a key is found and deleted there; these records, and no others, are listed in the
order of their keys, and those of a scope are its balancers.  A record is found and listed as it was put,
but for free arguments with binary64 numbers, which are read of their text, and such as are nested too deep,
which are not read. -/
theorem tables_ordered {history : List Edit} (h : ∀ e ∈ history, e.Sized) :
    let d := Database.edits .empty history
    (∀ kind : Kind, ∃ records, Left kind history records ∧
      (d.list kind).toOption = records.mapM kind.reread? ∧
      ∀ k, (d.get kind k).toOption = (left? k (changesOf kind history)).mapM kind.reread? ∧
        (d.delete kind k).1 = (left? k (changesOf kind history)).isSome) ∧
      (∃ balancers, Left .balancer history balancers ∧ d.list .balancer = .ok balancers ∧
        ∀ scope : Scope, d.balancersFor scope = .ok (balancers.filter fun b => b.scope = scope)) ∧
      ∀ (kind : Kind) (a : kind.Record), (kind.Plain a → kind.reread? a = some a) ∧
        ∀ b, kind.reread? a = some b → (key b : kind.KeyOf) = key a := by
  intro d
  let tables (kind : Kind) : Table kind.Record := (changesOf kind history).foldl Table.change .empty
  have hrows : ∀ kind, d.rows kind = (tables kind).rows kind.naming.embeds kind.print :=
    fun _ => Database.rows_edits rfl history
  have hleft : ∀ kind, Left kind history (tables kind).records := by
    intro kind
    constructor
    case mem =>
      intro a
      rw [Table.mem_records, Table.get?_changes]
    case order => exact (Table.ascending _).imp fun h => (Naming.before_iff _ _ _).1 h
  have hsized : ∀ kind, ∀ a ∈ (tables kind).records, kind.Sized a := fun kind a ha =>
    sized_of_left h (((hleft kind).mem a).1 ha)
  have hlist : ∀ kind, (d.list kind).toOption = (tables kind).records.mapM kind.reread? := fun kind =>
    Database.list_of_rows (hrows kind) (hsized kind)
  refine ⟨fun kind => ⟨_, hleft kind, hlist kind, fun k => ?_⟩, ⟨_, hleft .balancer, ?_, ?_⟩,
    fun _ _ => ⟨Kind.reread?_of_plain, fun _ => Kind.key_of_reread?⟩⟩
  · rw [← Table.get?_changes]
    exact ⟨Database.get_of_rows (hrows kind) (hsized kind) k, Database.delete_of_rows (hrows kind) k⟩
  · exact eq_ok_of_toOption ((hlist .balancer).trans (Kind.mapM_reread? fun _ _ => trivial))
  · exact Database.balancersFor_of_rows (hrows .balancer) (hsized .balancer)

/-! ## a number that is another one -/

/-- a plan with a binary64 number among its arguments -/
def burstPlan (bits : UInt64) : Plan := ⟨6, 7, "quota", .obj [("burst", .real ⟨bits⟩)]⟩

/-- 93.46382017454367, which is read as the number after the one that is printed so -/
def burst : UInt64 := 4636277348588599543

/-- names with separators in them, ids of one and of two digits, and a name that is given again -/
def mixed : List Edit := [
  ⟨.rule, .put ⟨10, "ten", "", "", ""⟩⟩,
  ⟨.balancer, .put ⟨.rule 1, "0/main", none, [], none⟩⟩,
  ⟨.rule, .put ⟨9, "nine", "", "", ""⟩⟩,
  ⟨.balancer, .put ⟨.rule 10, "main", none, [], none⟩⟩,
  ⟨.plan, .put (burstPlan burst)⟩,
  ⟨.rule, .put ⟨10, "again", "", "", ""⟩⟩,
  ⟨.rule, .delete (9 : Id)⟩]

theorem sized_mixed : ∀ e ∈ mixed, e.Sized := by
  have hbare : ∀ {b : Balancer}, b.baselinesMs = [] ∧ b.maxRttMs = none → b.Fits := fun h =>
    ⟨by rw [h.1]; nofun, by rw [h.2]; nofun⟩
  have hplan : (burstPlan burst).providerArgs.Proper :=
    ⟨⟨(rfl : Binary64.isFinite ⟨burst⟩ = true), trivial⟩, ⟨by unfold Ascending; decide, trivial, trivial⟩⟩
  simp only [mixed, List.forall_mem_cons, List.not_mem_nil, false_imp_iff, implies_true, and_true]
  refine ⟨?_, ?_, ?_, ?_, ?_, ?_, ?_⟩ <;> rintro _ ⟨⟩
  · trivial
  · exact hbare ⟨rfl, rfl⟩
  · trivial
  · exact hbare ⟨rfl, rfl⟩
  · exact hplan
  · trivial

theorem tables_ordered_mixed :
    (∀ e ∈ mixed, e.Sized) ∧
      let d := Database.edits .empty mixed
      ((d.get .rule (10 : Id)).toOption = some (some ⟨10, "again", "", "", ""⟩) ∧
        (d.get .rule (9 : Id)).toOption = some none ∧ (d.delete .rule (9 : Id)).1 = false) ∧
      (d.get .plan (6 : Id)).toOption = some (some (burstPlan (burst + 1))) := by
  obtain ⟨htables, -, -⟩ := tables_ordered sized_mixed
  obtain ⟨-, -, -, hrule⟩ := htables .rule
  obtain ⟨-, -, -, hplan⟩ := htables .plan
  refine ⟨sized_mixed, ⟨?_, ?_, ?_⟩, ?_⟩
  · exact (hrule (10 : Id)).1.trans (by decide +kernel)
  · exact (hrule (9 : Id)).1.trans (by decide +kernel)
  · exact (hrule (9 : Id)).2.trans (by decide +kernel)
  · exact (hplan (6 : Id)).1.trans (by decide +kernel)

def drifting : Database := .edits .empty [⟨.plan, .put (burstPlan burst)⟩]

/-- neither found nor listed as it was put -/
theorem burstPlan_drifts :
    (drifting.get .plan (6 : Id)).toOption = some (some (burstPlan (burst + 1))) ∧
      (drifting.list .plan).toOption = some [burstPlan (burst + 1)] ∧
      burstPlan (burst + 1) ≠ burstPlan burst := by
  decide +kernel

end ProxyMesh
