/-!
# Tables of keyed records

A table holds at most one record for each key and lists them in key order.

* `Key`          a strict total order on keys;
* `Keyed`        records that carry their key;
* `place`        a record put into an ascending list, in the place of one with the same key;
* `Table`        an ascending list of records;
* `Table.put`, `Table.get?`, `Table.erase`, `Table.map`;
* `distinctKeys` a list of keys in order, without repetitions.
-/

namespace ProxyMesh

/-- keys with a strict total order -/
class Key (κ : Type) where
  before : κ → κ → Bool
  irrefl : ∀ a, before a a = false
  trans : ∀ a b c, before a b = true → before b c = true → before a c = true
  connex : ∀ a b, before a b = false → before b a = false → a = b

export Key (before)

instance : Key UInt64 where
  before a b := decide (a < b)
  irrefl a := by simp
  trans a b c h₁ h₂ := by simp only [decide_eq_true_eq] at *; exact UInt64.lt_trans h₁ h₂
  connex a b h₁ h₂ := by
    simp only [decide_eq_false_iff_not, UInt64.not_lt] at *; exact UInt64.le_antisymm h₂ h₁

instance : Key String where
  before a b := decide (a < b)
  irrefl a := by simp
  trans a b c h₁ h₂ := by simp only [decide_eq_true_eq] at *; exact String.lt_trans h₁ h₂
  connex a b h₁ h₂ := by
    simp only [decide_eq_false_iff_not, String.not_lt] at *; exact String.le_antisymm h₂ h₁

/-- pairs are ordered by the first part, then by the second -/
instance {κ κ' : Type} [Key κ] [Key κ'] : Key (κ × κ') where
  before a b := before a.1 b.1 || (!before b.1 a.1 && before a.2 b.2)
  irrefl a := by simp [Key.irrefl]
  trans a b c h₁ h₂ := by
    simp only [Bool.or_eq_true, Bool.and_eq_true, Bool.not_eq_true'] at *
    rcases h₁ with h₁ | ⟨n₁, h₁⟩ <;> rcases h₂ with h₂ | ⟨n₂, h₂⟩
    · exact Or.inl (Key.trans _ _ _ h₁ h₂)
    · cases hbc : before b.1 c.1
      · exact Or.inl (Key.connex _ _ hbc n₂ ▸ h₁)
      · exact Or.inl (Key.trans _ _ _ h₁ hbc)
    · cases hab : before a.1 b.1
      · exact Or.inl (Key.connex _ _ hab n₁ ▸ h₂)
      · exact Or.inl (Key.trans _ _ _ hab h₂)
    · cases hac : before a.1 c.1
      · refine Or.inr ⟨?_, Key.trans _ _ _ h₁ h₂⟩
        cases hca : before c.1 a.1
        · rfl
        · cases hab : before a.1 b.1
          · rw [Key.connex _ _ hab n₁, n₂] at hca; exact hca.symm
          · rw [Key.trans _ _ _ hca hab] at n₂; exact n₂
      · exact Or.inl rfl
  connex a b h₁ h₂ := by
    simp only [Bool.or_eq_false_iff, Bool.and_eq_false_iff, Bool.not_eq_false'] at *
    have e := Key.connex _ _ h₁.1 h₂.1
    have h₃ : before a.2 b.2 = false := by
      rcases h₁.2 with h | h
      · rw [h₂.1] at h; exact absurd h (by simp)
      · exact h
    have h₄ : before b.2 a.2 = false := by
      rcases h₂.2 with h | h
      · rw [h₁.1] at h; exact absurd h (by simp)
      · exact h
    exact Prod.ext e (Key.connex _ _ h₃ h₄)

/-- records that carry their key -/
class Keyed (α : Type) (κ : outParam Type) where
  key : α → κ

export Keyed (key)

instance {κ α : Type} : Keyed (κ × α) κ := ⟨Prod.fst⟩

section Lists

variable {α κ : Type} [Key κ] [Keyed α κ]

/-- `a` at its place in an ascending list, instead of a record with the same key -/
def place (a : α) : List α → List α
  | [] => [a]
  | b :: rest =>
    if before (key a) (key b) then a :: b :: rest
    else if before (key b) (key a) then b :: place a rest
    else a :: rest

/-- the record with key `k` of an ascending list -/
def seek (k : κ) : List α → Option α
  | [] => none
  | b :: rest =>
    if before k (key b) then none
    else if before (key b) k then seek k rest
    else some b

/-- an ascending list without the record with key `k` -/
def without (k : κ) : List α → List α
  | [] => []
  | b :: rest =>
    if before k (key b) then b :: rest
    else if before (key b) k then b :: without k rest
    else rest

/-- keys strictly ascend -/
def Ascending (l : List α) : Prop := l.Pairwise fun a b => before (key a) (key b) = true

theorem mem_place {a b : α} {l : List α} (h : b ∈ place a l) : b = a ∨ b ∈ l := by
  induction l with
  | nil => simpa [place] using h
  | cons c rest ih =>
    unfold place at h
    split at h
    · simpa using h
    · split at h
      · rcases List.mem_cons.1 h with h | h
        · exact Or.inr (h ▸ List.mem_cons_self)
        · exact (ih h).imp id (List.mem_cons_of_mem _)
      · rcases List.mem_cons.1 h with h | h
        · exact Or.inl h
        · exact Or.inr (List.mem_cons_of_mem _ h)

theorem mem_of_mem_without {k : κ} {b : α} {l : List α} (h : b ∈ without k l) : b ∈ l := by
  induction l with
  | nil => simp [without] at h
  | cons c rest ih =>
    unfold without at h
    split at h
    · exact h
    · split at h
      · rcases List.mem_cons.1 h with h | h
        · exact h ▸ List.mem_cons_self
        · exact List.mem_cons_of_mem _ (ih h)
      · exact List.mem_cons_of_mem _ h

theorem ascending_place {a : α} {l : List α} (h : Ascending l) : Ascending (place a l) := by
  induction l with
  | nil => exact List.pairwise_singleton _ _
  | cons b rest ih =>
    obtain ⟨hb, hr⟩ := List.pairwise_cons.1 h
    unfold place
    split
    · next hab =>
      refine List.pairwise_cons.2 ⟨fun c hc => ?_, h⟩
      rcases List.mem_cons.1 hc with rfl | hc
      · exact hab
      · exact Key.trans _ _ _ hab (hb c hc)
    · next hab =>
      split
      · next hba =>
        refine List.pairwise_cons.2 ⟨fun c hc => ?_, ih hr⟩
        rcases mem_place hc with rfl | hc
        · exact hba
        · exact hb c hc
      · next hba =>
        refine List.pairwise_cons.2 ⟨fun c hc => ?_, hr⟩
        rw [Key.connex (key a) (key b) (by simpa using hab) (by simpa using hba)]
        exact hb c hc

theorem ascending_without {k : κ} {l : List α} (h : Ascending l) : Ascending (without k l) := by
  induction l with
  | nil => exact List.Pairwise.nil
  | cons b rest ih =>
    obtain ⟨hb, hr⟩ := List.pairwise_cons.1 h
    unfold without
    split
    · exact h
    · split
      · exact List.pairwise_cons.2 ⟨fun c hc => hb c (mem_of_mem_without hc), ih hr⟩
      · exact hr

end Lists

/-- at most one record for each key, in key order -/
structure Table (α : Type) {κ : Type} [Key κ] [Keyed α κ] where
  records : List α
  ascending : Ascending records

namespace Table

variable {α κ : Type} [Key κ] [Keyed α κ]

instance [DecidableEq α] : DecidableEq (Table α) := fun s t =>
  if h : s.records = t.records then
    isTrue (by cases s; cases t; cases h; rfl)
  else isFalse fun e => h (e ▸ rfl)

def empty : Table α := ⟨[], List.Pairwise.nil⟩

instance : Inhabited (Table α) := ⟨empty⟩

/-- the record takes the place of one with the same key -/
def put (t : Table α) (a : α) : Table α := ⟨place a t.records, ascending_place t.ascending⟩

def get? (t : Table α) (k : κ) : Option α := seek k t.records

def contains (t : Table α) (k : κ) : Bool := (t.get? k).isSome

def erase (t : Table α) (k : κ) : Table α := ⟨without k t.records, ascending_without t.ascending⟩

def putAll (t : Table α) (l : List α) : Table α := l.foldl put t

def ofList (l : List α) : Table α := empty.putAll l

/-- every record changed, its key kept -/
def map (t : Table α) (f : α → α) (keeps : ∀ a, key (f a) = key a) : Table α :=
  ⟨t.records.map f, by
    have h := t.ascending
    simp only [Ascending, List.pairwise_map, keeps] at *
    exact h⟩

/-- the record with this key changed, if there is one -/
def adjust (t : Table α) (k : κ) (f : α → α) : Table α :=
  match t.get? k with
  | some a => t.put (f a)
  | none => t

end Table

/-- every key once, in order -/
def distinctKeys {κ : Type} [Key κ] (keys : List κ) : List κ :=
  (Table.ofList (keys.map (·, ()))).records.map (·.1)

/-- texts with a value each, in the order of the texts -/
abbrev TextMap (α : Type) := Table (String × α)

end ProxyMesh
