import Mathlib.Algebra.Ring.Int.Defs
import Mathlib.Data.List.Nodup
import ProxyMesh.Table

/-!
# Tables as finite maps

What `get?` finds after each operation, and that a table is decided by what `get?` finds.

* `seek_place_self`, `seek_place_ne`   the list form, without any assumption on the order;
* `sum_place`                          a sum over the records;
* `Table.get?_put_self`, `get?_put_ne`, `get?_put_some`, `get?_map`;
* `Table.get?_putAll_mem`, `get?_putAll_ne`, `mem_putAll_empty`   many records put, one after the other;
* `Table.get?_putAll_records`, `ofList_records`   those of another table put, or of this one;
* `Table.put_of_mem`, `putAll_eq_self_iff`   records that are there already;
* `Table.records_erase`, `get?_erase`  what is left after a record is taken out;
* `Table.mem_records`, `filter_key`    a record is in the table exactly if its key finds it, and alone;
* `Table.ext_get?`                     **two tables that find the same records are equal**.
-/

namespace ProxyMesh

section
variable {κ : Type} [Key κ]

theorem before_asymm {a b : κ} (h : before a b = true) : before b a = false := by
  cases hba : before b a with
  | false => rfl
  | true => rw [← Key.irrefl a, Key.trans a b a h hba]

theorem not_before_trans {a b c : κ} (h₁ : before b a = false) (h₂ : before c b = false) :
    before c a = false := by
  cases hca : before c a with
  | false => rfl
  | true =>
    cases hab : before a b with
    | false => rw [← hca, Key.connex a b hab h₁, h₂]
    | true => rw [← h₂, Key.trans c a b hca hab]

theorem ne_of_before {a b : κ} (h : before a b = true) : a ≠ b := by
  rintro rfl
  rw [Key.irrefl a] at h
  cases h

end

section Lists
variable {α κ : Type} [Key κ] [Keyed α κ]

theorem key_of_seek {k : κ} {l : List α} {a : α} (h : seek k l = some a) : key a = k := by
  induction l with
  | nil => cases h
  | cons b rest ih =>
    unfold seek at h
    split at h
    · cases h
    next h₁ =>
      split at h
      · exact ih h
      next h₂ =>
        obtain rfl := Option.some.inj h
        exact (Key.connex k (key b) (by simpa using h₁) (by simpa using h₂)).symm

theorem mem_of_seek {k : κ} {l : List α} {a : α} (h : seek k l = some a) : a ∈ l := by
  induction l with
  | nil => cases h
  | cons b rest ih =>
    unfold seek at h
    split at h
    · cases h
    · split at h
      · exact List.mem_cons_of_mem _ (ih h)
      · exact Option.some.inj h ▸ List.mem_cons_self

theorem seek_of_mem {l : List α} {a : α} (hl : Ascending l) (h : a ∈ l) :
    seek (key a) l = some a := by
  induction l with
  | nil => cases h
  | cons b rest ih =>
    obtain ⟨hb, hr⟩ := List.pairwise_cons.1 hl
    unfold seek
    rcases List.mem_cons.1 h with rfl | h
    · rw [Key.irrefl]; rfl
    · rw [before_asymm (hb a h), hb a h]
      exact ih hr h

theorem seek_place_self (a : α) (l : List α) : seek (key a) (place a l) = some a := by
  induction l with
  | nil => simp [place, seek, Key.irrefl]
  | cons b rest ih =>
    unfold place
    split
    · simp [seek, Key.irrefl]
    next h₁ =>
      split
      next h₂ => simpa [seek, h₁, h₂] using ih
      · simp [seek, Key.irrefl]

theorem seek_place_ne {a : α} {k : κ} (hk : k ≠ key a) (l : List α) :
    seek k (place a l) = seek k l := by
  have hne : before k (key a) = false → before (key a) k = true := by
    intro h₁
    cases h₂ : before (key a) k with
    | false => exact absurd (Key.connex _ _ h₁ h₂) hk
    | true => rfl
  induction l with
  | nil =>
    cases h : before k (key a) with
    | true => simp [place, seek, h]
    | false => simp [place, seek, h, hne h]
  | cons b rest ih =>
    unfold place
    split
    next hab =>
      cases h : before k (key a) with
      | true => simp [seek, h, Key.trans _ _ _ h hab]
      | false =>
        show (if before k (key a) then none
          else if before (key a) k then seek k (b :: rest) else some a) = _
        rw [h, hne h]
        rfl
    next h₁ =>
      split
      · unfold seek; rw [ih]
      next h₂ =>
        have e : key a = key b := Key.connex _ _ (by simpa using h₁) (by simpa using h₂)
        cases h : before k (key a) with
        | true => simp [seek, ← e, h]
        | false => simp [seek, ← e, h, hne h]

theorem nodup_keys {l : List α} (hl : Ascending l) : (l.map key).Nodup :=
  List.pairwise_map.2 (hl.imp fun hab => ne_of_before hab)

theorem nodup_of_ascending {l : List α} (hl : Ascending l) : l.Nodup := by
  refine hl.imp ?_
  rintro a b hab rfl
  exact ne_of_before hab rfl

/-- a record that is passed over comes and goes unseen -/
theorem filter_place {p : α → Bool} {a : α} {l : List α} (ha : p a = false)
    (hl : ∀ b ∈ l, key b = key a → p b = false) : (place a l).filter p = l.filter p := by
  induction l with
  | nil => exact List.filter_cons_of_neg (Bool.eq_false_iff.1 ha)
  | cons b rest ih =>
    unfold place
    split
    · exact List.filter_cons_of_neg (Bool.eq_false_iff.1 ha)
    next hab =>
      split
      · rw [List.filter_cons, List.filter_cons, ih fun c hc => hl c (List.mem_cons_of_mem _ hc)]
      next hba =>
        have hkey : key b = key a :=
          (Key.connex (key a) (key b) (Bool.eq_false_iff.2 hab) (Bool.eq_false_iff.2 hba)).symm
        have hb : p b = false := hl b List.mem_cons_self hkey
        rw [List.filter_cons_of_neg (Bool.eq_false_iff.1 ha),
          List.filter_cons_of_neg (Bool.eq_false_iff.1 hb)]

theorem sum_place (g : α → Int) (a : α) (l : List α) :
    ((place a l).map g).sum + (seek (key a) l).elim 0 g = (l.map g).sum + g a := by
  induction l with
  | nil => simp [place, seek]
  | cons b rest ih =>
    unfold place seek
    split
    · rw [List.map_cons, List.sum_cons, Option.elim_none]
      omega
    · split
      · rw [List.map_cons, List.sum_cons, List.map_cons, List.sum_cons]
        omega
      · rw [List.map_cons, List.sum_cons, List.map_cons, List.sum_cons, Option.elim_some]
        omega

/-- from an ascending list exactly the record with the key is taken -/
theorem without_eq_filter [DecidableEq κ] {k : κ} {l : List α} (hl : Ascending l) :
    without k l = l.filter (key · ≠ k) := by
  induction l with
  | nil => rfl
  | cons b rest ih =>
    obtain ⟨hb, hrest⟩ := List.pairwise_cons.1 hl
    unfold without
    split
    next hbefore =>
      refine (List.filter_eq_self.2 fun a ha => decide_eq_true ?_).symm
      rcases List.mem_cons.1 ha with rfl | ha
      · exact (ne_of_before hbefore).symm
      · exact (ne_of_before (Key.trans _ _ _ hbefore (hb a ha))).symm
    next hnot =>
      split
      next hafter =>
        rw [List.filter_cons, if_pos (decide_eq_true (ne_of_before hafter)), ih hrest]
      next hnot' =>
        have hkey : key b = k :=
          Key.connex _ _ (Bool.eq_false_iff.2 hnot') (Bool.eq_false_iff.2 hnot)
        rw [List.filter_cons_of_neg (by simp [hkey])]
        refine (List.filter_eq_self.2 fun a ha => decide_eq_true ?_).symm
        rw [← hkey]
        exact (ne_of_before (hb a ha)).symm

/-- **an ascending list is decided by what `seek` finds in it** -/
theorem eq_of_seek_eq {l l' : List α} (hl : Ascending l) (hl' : Ascending l')
    (h : ∀ k, seek k l = seek k l') : l = l' := by
  have hmem : ∀ a, a ∈ l ↔ a ∈ l' := fun a =>
    ⟨fun ha => mem_of_seek ((h (key a)).symm.trans (seek_of_mem hl ha)),
      fun ha => mem_of_seek ((h (key a)).trans (seek_of_mem hl' ha))⟩
  have hp : l.Perm l' := (List.perm_ext_iff_of_nodup (nodup_of_ascending hl)
    (nodup_of_ascending hl')).2 hmem
  refine hp.eq_of_pairwise (fun a b _ _ hab hba => ?_) hl hl'
  rw [before_asymm hab] at hba
  cases hba

end Lists

namespace Table

variable {α κ : Type} [Key κ] [Keyed α κ] {t : Table α}

theorem get?_put_self (t : Table α) (a : α) : (t.put a).get? (key a) = some a :=
  seek_place_self a t.records

theorem get?_put_ne (t : Table α) {a : α} {k : κ} (h : k ≠ key a) :
    (t.put a).get? k = t.get? k :=
  seek_place_ne h t.records

theorem key_of_get? {k : κ} {a : α} (h : t.get? k = some a) : key a = k := key_of_seek h

theorem get?_put_some {k : κ} {a : α} (h : key a = k) : (t.put a).get? k = some a :=
  h ▸ get?_put_self t a

theorem mem_records {a : α} : a ∈ t.records ↔ t.get? (key a) = some a :=
  ⟨seek_of_mem t.ascending, mem_of_seek⟩

theorem mem_of_get? {k : κ} {a : α} (h : t.get? k = some a) : a ∈ t.records := mem_of_seek h

theorem filter_key [DecidableEq κ] {k : κ} {a : α} (h : t.get? k = some a) :
    t.records.filter (key · = k) = [a] := by
  have hnodup : (t.records.filter (key · = k)).Nodup := (nodup_of_ascending t.ascending).filter _
  refine List.perm_singleton.1 ((List.perm_ext_iff_of_nodup hnodup (List.nodup_singleton a)).2 ?_)
  intro b
  rw [List.mem_filter, List.mem_singleton, decide_eq_true_eq]
  constructor
  · rintro ⟨hb, rfl⟩
    exact Option.some.inj ((mem_records.1 hb).symm.trans h)
  · rintro rfl
    exact ⟨mem_of_get? h, key_of_get? h⟩

theorem get?_map (t : Table α) {f : α → α} (keeps : ∀ a, key (f a) = key a) (k : κ) :
    (t.map f keeps).get? k = (t.get? k).map f := by
  obtain ⟨l, hl⟩ := t
  show seek k (l.map f) = (seek k l).map f
  clear hl
  induction l with
  | nil => rfl
  | cons a rest ih =>
    rw [List.map_cons]
    unfold seek
    rw [keeps a, ih]
    split
    · rfl
    · split <;> rfl

theorem contains_put {a : α} {k : κ} :
    (t.put a).contains k = true ↔ k = key a ∨ t.contains k = true := by
  unfold contains
  by_cases h : k = key a
  · subst h
    simp [get?_put_self]
  · rw [get?_put_ne t h]
    simp [h]

theorem isEmpty_records : t.records.isEmpty = true ↔ ∀ k, t.contains k = false := by
  constructor
  · intro h k
    unfold contains get?
    rw [List.isEmpty_iff.1 h]
    rfl
  · intro h
    cases hrecords : t.records with
    | nil => rfl
    | cons a rest =>
      have ha : t.contains (key a) = true := by
        unfold contains
        rw [mem_records.1 (hrecords ▸ List.mem_cons_self)]
        rfl
      exact nomatch (h (key a)).symm.trans ha

theorem ext_get? {t t' : Table α} (h : ∀ k, t.get? k = t'.get? k) : t = t' := by
  obtain ⟨l, hl⟩ := t
  obtain ⟨l', hl'⟩ := t'
  have e : l = l' := eq_of_seek_eq hl hl' h
  subst e
  rfl

theorem get?_putAll_ne {l : List α} {k : κ} (h : ∀ a ∈ l, key a ≠ k) (t : Table α) :
    (t.putAll l).get? k = t.get? k := by
  induction l generalizing t with
  | nil => rfl
  | cons a rest ih =>
    show ((t.put a).putAll rest).get? k = t.get? k
    rw [ih (fun b hb => h b (List.mem_cons_of_mem _ hb)),
      get?_put_ne t (h a List.mem_cons_self).symm]

/-- a record is found unless another one with its key is put as well -/
theorem get?_putAll_of_agree {l : List α} {a : α} (hagree : ∀ b ∈ l, key b = key a → b = a)
    (ha : a ∈ l) (t : Table α) : (t.putAll l).get? (key a) = some a := by
  induction l generalizing t with
  | nil => cases ha
  | cons b rest ih =>
    have hrest : ∀ c ∈ rest, key c = key a → c = a := fun c hc => hagree c (List.mem_cons_of_mem _ hc)
    show ((t.put b).putAll rest).get? (key a) = some a
    by_cases hlater : a ∈ rest
    · exact ih hrest hlater _
    · obtain rfl : a = b := (List.mem_cons.1 ha).resolve_right hlater
      rw [get?_putAll_ne, get?_put_self]
      intro c hc e
      exact hlater (hrest c hc e ▸ hc)

theorem get?_putAll_mem {l : List α} (hl : (l.map key).Nodup) {a : α} (ha : a ∈ l)
    (t : Table α) : (t.putAll l).get? (key a) = some a :=
  get?_putAll_of_agree (fun _ hb e => List.inj_on_of_nodup_map hl hb ha e) ha t

theorem mem_of_mem_putAll {l : List α} {a : α} {t : Table α} (h : a ∈ (t.putAll l).records) :
    a ∈ t.records ∨ a ∈ l := by
  induction l generalizing t with
  | nil => exact Or.inl h
  | cons b rest ih =>
    rcases ih h with h | h
    · rcases mem_place h with rfl | h
      · exact Or.inr List.mem_cons_self
      · exact Or.inl h
    · exact Or.inr (List.mem_cons_of_mem _ h)

theorem mem_of_mem_ofList {l : List α} {a : α} (h : a ∈ (ofList l).records) : a ∈ l :=
  (mem_of_mem_putAll h).resolve_left List.not_mem_nil

theorem mem_putAll_empty {l : List α} (hagree : ∀ a ∈ l, ∀ b ∈ l, key a = key b → a = b) {a : α} :
    a ∈ (empty.putAll l).records ↔ a ∈ l := by
  constructor
  · intro h
    exact mem_of_mem_ofList h
  · intro ha
    exact mem_of_get? (get?_putAll_of_agree (fun b hb e => hagree b hb a ha e) ha empty)

theorem get?_putAll_records (t s : Table α) (k : κ) :
    (t.putAll s.records).get? k = (s.get? k).or (t.get? k) := by
  cases hs : s.get? k with
  | some a =>
    rw [← key_of_get? hs]
    exact get?_putAll_mem (nodup_keys s.ascending) (mem_of_get? hs) t
  | none =>
    refine get?_putAll_ne (fun a ha hk => ?_) t
    rw [← hk, mem_records.1 ha] at hs
    cases hs

theorem ofList_records (t : Table α) : ofList t.records = t := by
  refine ext_get? fun k => ?_
  exact (get?_putAll_records empty t k).trans (Option.or_none)

theorem records_putAll (t : Table α) (l : List α) :
    (t.putAll l).records = l.foldl (fun sorted a => place a sorted) t.records := by
  induction l generalizing t with
  | nil => rfl
  | cons a rest ih => exact ih (t.put a)

theorem put_of_mem {a : α} (h : a ∈ t.records) : t.put a = t := by
  refine ext_get? fun k => ?_
  by_cases hk : k = key a
  · rw [hk, get?_put_self, mem_records.1 h]
  · exact get?_put_ne t hk

theorem putAll_eq_self_iff {l : List α} (hagree : ∀ a ∈ l, ∀ b ∈ l, key a = key b → a = b) :
    t.putAll l = t ↔ ∀ a ∈ l, a ∈ t.records := by
  constructor
  · intro h a ha
    rw [mem_records, ← h]
    exact get?_putAll_of_agree (fun b hb => hagree b hb a ha) ha t
  · intro h
    clear hagree
    induction l with
    | nil => rfl
    | cons a rest ih =>
      show (t.put a).putAll rest = t
      rw [put_of_mem (h a List.mem_cons_self)]
      exact ih fun b hb => h b (List.mem_cons_of_mem _ hb)

theorem records_erase [DecidableEq κ] (t : Table α) (k : κ) :
    (t.erase k).records = t.records.filter (key · ≠ k) :=
  without_eq_filter t.ascending

theorem get?_erase [DecidableEq κ] (t : Table α) (k l : κ) :
    (t.erase l).get? k = if k = l then none else t.get? k := by
  have hsome : ∀ a, (t.erase l).get? k = some a ↔ k ≠ l ∧ t.get? k = some a := by
    intro a
    constructor
    · intro h
      have hkey : key a = k := key_of_get? h
      have ha := mem_of_get? h
      rw [records_erase, List.mem_filter, mem_records, hkey, decide_eq_true_eq] at ha
      exact ha.symm
    · rintro ⟨hne, h⟩
      have hkey : key a = k := key_of_get? h
      rw [← hkey, ← mem_records, records_erase, List.mem_filter, mem_records, hkey, decide_eq_true_eq]
      exact ⟨h, hne⟩
  refine Option.ext fun a => (hsome a).trans ?_
  split
  next h => exact ⟨fun hk => absurd h hk.1, nofun⟩
  next h => exact and_iff_right h

end Table

end ProxyMesh
