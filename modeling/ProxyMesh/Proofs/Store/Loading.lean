import ProxyMesh.Proofs.Store.Histories

/-!
# Records loaded and written back

All other work is done on the records themselves, which are loaded from the tables and written back.  As
long as no free argument holds a binary64 number or is nested too deep, that is as if there were no texts
at all: the tables keep the store that the work makes of the store that they kept.

* `Database.Keeps`        the tables have the texts of the records of a store;
* `changes_changesTo`     the changes from one table to another lead there;
* `Keeps.edits`, `Keeps.importSnapshot`   what is written back is kept;
* `Keeps.load`            a store is loaded as it was;
* `Keeps.update`          **work on the records is kept**.
-/

namespace ProxyMesh

/-! ## from one table to another -/

namespace Table

section
variable {α κ : Type} [Key κ] [Keyed α κ]

theorem get?_eraseAll [DecidableEq κ] (l : List α) (t : Table α) (k : κ) :
    (l.foldl (fun t a => t.erase (key a)) t).get? k =
      if ∃ a ∈ l, key a = k then none else t.get? k := by
  induction l generalizing t with
  | nil => exact (if_neg (by simp)).symm
  | cons a rest ih =>
    rw [List.foldl_cons, ih, get?_erase]
    by_cases hrest : ∃ b ∈ rest, key b = k
    · rw [if_pos hrest, if_pos (by obtain ⟨b, hb, hk⟩ := hrest; exact ⟨b, List.mem_cons_of_mem _ hb, hk⟩)]
    · by_cases ha : key a = k
      · rw [if_neg hrest, if_pos ha.symm, if_pos ⟨a, List.mem_cons_self, ha⟩]
      · rw [if_neg hrest, if_neg (Ne.symm ha), if_neg]
        rintro ⟨b, hb, hk⟩
        rcases List.mem_cons.1 hb with rfl | hb
        · exact ha hk
        · exact hrest ⟨b, hb, hk⟩

/-- the keys that changes from one table to another delete -/
theorem exists_gone_iff {before after : Table α} {k : κ} :
    (∃ a ∈ before.records.filter fun a => !after.contains (key a), key a = k) ↔
      before.get? k ≠ none ∧ after.get? k = none := by
  constructor
  · rintro ⟨a, ha, rfl⟩
    obtain ⟨hmem, hnot⟩ := List.mem_filter.1 ha
    rw [mem_records] at hmem
    unfold contains at hnot
    rw [Bool.not_eq_true', Option.isSome_eq_false_iff, Option.isNone_iff_eq_none] at hnot
    exact ⟨by rw [hmem]; exact Option.some_ne_none a, hnot⟩
  · rintro ⟨hsome, hnone⟩
    obtain ⟨a, ha⟩ := Option.ne_none_iff_exists'.1 hsome
    refine ⟨a, List.mem_filter.2 ⟨mem_of_get? ha, ?_⟩, key_of_get? ha⟩
    unfold contains
    rw [key_of_get? ha, hnone]
    rfl

theorem changes_changesTo [DecidableEq α] [DecidableEq κ] (before after : Table α) :
    (before.changesTo after).foldl change before = after := by
  let gone := before.records.filter fun a => !after.contains (key a)
  let fresh := after.records.filter fun a => before.get? (key a) ≠ some a
  let rest : Table α := gone.foldl (fun t a => t.erase (key a)) before
  have hfold : (before.changesTo after).foldl change before = rest.putAll fresh := by
    unfold changesTo
    rw [List.foldl_append, List.foldl_map, List.foldl_map]
    rfl
  have hfresh : ∀ {a}, a ∈ fresh ↔ after.get? (key a) = some a ∧ before.get? (key a) ≠ some a := by
    intro a
    rw [List.mem_filter, mem_records, decide_eq_true_eq]
  have hnodup : (fresh.map key).Nodup :=
    (nodup_keys after.ascending).sublist (List.filter_sublist.map key)
  rw [hfold]
  refine ext_get? fun k => ?_
  by_cases hput : ∃ a ∈ fresh, key a = k
  · obtain ⟨a, ha, rfl⟩ := hput
    rw [get?_putAll_mem hnodup ha, (hfresh.1 ha).1]
  · rw [get?_putAll_ne fun a ha e => hput ⟨a, ha, e⟩, get?_eraseAll]
    cases hafter : after.get? k with
    | none =>
      split
      · rfl
      next hkept =>
        by_contra hsome
        exact hkept (exists_gone_iff.2 ⟨hsome, hafter⟩)
    | some a =>
      rw [if_neg fun h => by rw [(exists_gone_iff.1 h).2] at hafter; cases hafter]
      obtain rfl := key_of_get? hafter
      by_contra hother
      exact hput ⟨a, hfresh.2 ⟨hafter, hother⟩, rfl⟩

theorem get?_putAll (l : List α) (t : Table α) (k : κ) :
    (t.putAll l).get? k = ((empty.putAll l).get? k).or (t.get? k) := by
  induction l generalizing t with
  | nil => rfl
  | cons a rest ih =>
    have hput : (t.put a).get? k = ((empty.put a).get? k).or (t.get? k) := by
      by_cases h : key a = k
      · rw [get?_put_some h, get?_put_some h, Option.some_or]
      · rw [get?_put_ne _ (Ne.symm h), get?_put_ne _ (Ne.symm h)]
        rfl
    show ((t.put a).putAll rest).get? k = (((empty.put a).putAll rest).get? k).or _
    rw [ih, ih (empty.put a), hput, Option.or_assoc]

/-- records put into an empty table first are put alike -/
theorem putAll_records_putAll (l : List α) (t : Table α) :
    t.putAll (empty.putAll l : Table α).records = t.putAll l :=
  ext_get? fun k => by rw [get?_putAll_records, ← get?_putAll]

theorem changes_changesTo_empty [DecidableEq α] (t after : Table α) :
    ((empty : Table α).changesTo after).foldl change t = t.putAll after.records := by
  have hall : after.records.filter (fun a => (empty : Table α).get? (key a) ≠ some a) = after.records :=
    List.filter_eq_self.2 fun a _ => rfl
  unfold changesTo
  rw [hall, List.foldl_append, List.foldl_map]
  rfl

end
end Table

/-! ## what a database keeps -/

/-- of a kind, the edits from one store to another are the changes of its table -/
theorem changesOf_editsTo (kind : Kind) (before after : Store) :
    changesOf kind (before.editsTo after) = (before.table kind).changesTo (after.table kind) := by
  have hnodup : Kind.all.Nodup := by decide
  have hof : ∀ other, (((before.table other).changesTo (after.table other)).map (Edit.mk other)).filterMap
      (Edit.of? kind) = if h : other = kind then
        h ▸ (before.table other).changesTo (after.table other) else [] := by
    intro other
    rw [List.filterMap_map]
    by_cases h : other = kind
    · subst h
      rw [dif_pos rfl]
      refine (List.filterMap_congr fun c _ => ?_).trans List.filterMap_some
      exact dif_pos rfl
    · rw [dif_neg h]
      exact List.filterMap_eq_nil_iff.2 fun c _ => dif_neg h
  unfold changesOf Store.editsTo
  rw [List.filterMap_flatMap]
  simp only [hof]
  rw [flatMap_eq_of_ne hnodup (Kind.mem_all kind) fun other h => dif_neg h, dif_pos rfl]

/-- no free argument holds a binary64 number or is nested too deep -/
def Store.Plain (s : Store) : Prop :=
  ∀ kind, ∀ a ∈ (s.table kind).records, kind.Sized a ∧ kind.Plain a

namespace Database

/-- the tables have the texts of the records of the store -/
def Keeps (d : Database) (s : Store) : Prop :=
  ∀ kind, d.rows kind = (s.table kind).rows kind.naming.embeds kind.print

theorem keeps_empty : Keeps .empty .empty := by
  intro kind
  cases kind <;> rfl

namespace Keeps

variable {d : Database} {s : Store} (h : d.Keeps s)
include h

theorem edits (after : Store) : (d.edits (s.editsTo after)).Keeps after := by
  intro kind
  rw [rows_edits (h kind), changesOf_editsTo, Table.changes_changesTo]

theorem importSnapshot (snapshot : Snapshot) :
    (d.importSnapshot snapshot).Keeps (s.importSnapshot snapshot) := by
  intro kind
  have hempty : Store.empty.table kind = .empty := by cases kind <;> rfl
  unfold Database.importSnapshot
  rw [rows_edits (h kind), changesOf_editsTo, hempty, Table.changes_changesTo_empty]
  congr 1
  cases kind
  case site =>
    show (s.table .site).putAll (Table.ofList (Store.empty.importSnapshot snapshot).site.toList).records =
      .ofList (s.importSnapshot snapshot).site.toList
    unfold Store.importSnapshot
    cases snapshot.site with
    | none => rfl
    | some site =>
      show (Table.ofList s.site.toList).put site = _
      cases s.site <;> rfl
  all_goals exact Table.putAll_records_putAll _ _

theorem load (hplain : s.Plain) : d.load = .ok s := by
  have hlist : ∀ kind, d.list kind = .ok (s.table kind).records := by
    intro kind
    refine eq_ok_of_toOption ((list_of_rows (h kind) fun a ha => (hplain kind a ha).1).trans ?_)
    exact Kind.mapM_reread? fun a ha => (hplain kind a ha).2
  have hstep : (fun (acc : Store) kind => do pure (acc.setTable kind (.ofList (← d.list kind)))) =
      fun acc kind => (pure (acc.setTable kind (s.table kind)) : Except StoreError Store) := by
    funext acc kind
    have hsame := Table.ofList_records (s.table kind)
    rw [hlist]
    show Except.ok (acc.setTable kind (.ofList (s.table kind).records)) = .ok _
    rw [hsame]
  unfold Database.load
  rw [hstep, List.foldlM_pure]
  obtain ⟨site, nodes⟩ := s
  cases site <;> rfl

/-- **work on the records is kept** -/
theorem update (hplain : s.Plain) {α : Type} (work : Store → α × Store) :
    ∃ d', d.update work = .ok ((work s).1, d') ∧ d'.Keeps (work s).2 := by
  refine ⟨_, ?_, h.edits (work s).2⟩
  unfold Database.update
  rw [h.load hplain]
  rfl

end Keeps
end Database
end ProxyMesh
