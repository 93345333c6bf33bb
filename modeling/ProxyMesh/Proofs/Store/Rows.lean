import ProxyMesh.Proofs.Tables
import ProxyMesh.Store.Database

/-!
# Tables kept as rows

A table is kept as rows under texts, and the texts are in the order of the keys.  What is done to a table
is done to its rows, with a text in the place of each key, and the rows under the texts that begin alike
stand one after the other.

* `Embeds`               the order of the texts is that of the keys;
* `Table.rows`           what is kept of the records, under the texts of their keys;
* `rows_put`, `rows_erase`, `get?_rows`   rows change and are found as the records are;
* `scan_eq_filter`       **a scan finds all rows whose texts begin with the text**.
-/

namespace ProxyMesh

/-- the order of the texts is that of the keys -/
def Embeds {κ : Type} [Key κ] (text : κ → String) : Prop :=
  ∀ k l, before (text k) (text l) = before k l

section
variable {α β κ : Type} [Key κ] [Keyed α κ] {text : κ → String} {print : α → β}

/-- what is kept of a record, under the text of its key -/
def row (text : κ → String) (print : α → β) (a : α) : String × β := (text (key a), print a)

section
variable (htext : Embeds text)
include htext

theorem place_row (a : α) (l : List α) :
    place (row text print a) (l.map (row text print)) = (place a l).map (row text print) := by
  have hbefore : ∀ a b : α, before (key (row text print a)) (key (row text print b)) =
      before (key a) (key b) :=
    fun a b => htext (key a) (key b)
  induction l with
  | nil => rfl
  | cons b rest ih =>
    rw [List.map_cons, place, hbefore, hbefore, ih, place]
    split
    · rfl
    · split <;> rfl

theorem without_row (k : κ) (l : List α) :
    without (text k) (l.map (row text print)) = (without k l).map (row text print) := by
  have hleft : ∀ b : α, before (text k) (key (row text print b)) = before k (key b) :=
    fun b => htext k (key b)
  have hright : ∀ b : α, before (key (row text print b)) (text k) = before (key b) k :=
    fun b => htext (key b) k
  induction l with
  | nil => rfl
  | cons b rest ih =>
    rw [List.map_cons, without, hleft, hright, ih, without]
    split
    · rfl
    · split <;> rfl

theorem seek_row (k : κ) (l : List α) :
    seek (text k) (l.map (row text print)) = (seek k l).map (row text print) := by
  have hleft : ∀ b : α, before (text k) (key (row text print b)) = before k (key b) :=
    fun b => htext k (key b)
  have hright : ∀ b : α, before (key (row text print b)) (text k) = before (key b) k :=
    fun b => htext (key b) k
  induction l with
  | nil => rfl
  | cons b rest ih =>
    rw [List.map_cons, seek, hleft, hright, ih, seek]
    split
    · rfl
    · split <;> rfl

theorem ascending_rows {l : List α} (h : Ascending l) : Ascending (l.map (row text print)) := by
  refine List.pairwise_map.2 (h.imp fun {a b} hab => ?_)
  show before (text (key a)) (text (key b)) = true
  rw [htext, hab]

end

namespace Table

/-- what is kept of the records, under the texts of their keys -/
def rows (t : Table α) (htext : Embeds text) (print : α → β) : TextMap β :=
  ⟨t.records.map (row text print), ascending_rows htext t.ascending⟩

variable (t : Table α) (htext : Embeds text)

theorem rows_put (a : α) : (t.rows htext print).put (row text print a) = (t.put a).rows htext print := by
  unfold put rows
  congr 1
  exact place_row htext a t.records

theorem rows_erase (k : κ) : (t.rows htext print).erase (text k) = (t.erase k).rows htext print := by
  unfold erase rows
  congr 1
  exact without_row htext k t.records

theorem get?_rows (k : κ) : (t.rows htext print).get? (text k) = (t.get? k).map (row text print) :=
  seek_row htext k t.records

end Table
end

/-! ## scans -/

/-- texts that begin with a text do not come before it -/
theorem not_lt_of_prefix {lead s : List Char} (h : lead <+: s) : ¬ s < lead := by
  obtain ⟨rest, rfl⟩ := h
  induction lead with
  | nil => exact List.not_lt_nil rest
  | cons c lead ih =>
    rw [List.cons_append, List.cons_lt_cons_iff]
    rintro (hlt | ⟨-, hlt⟩)
    · exact Char.lt_irrefl c hlt
    · exact ih hlt

/-- what stands between a text and one that begins with it begins with it as well -/
theorem prefix_of_between {lead s t : List Char} (hs : ¬ s < lead) (hst : s < t) (ht : lead <+: t) :
    lead <+: s := by
  obtain ⟨rest, rfl⟩ := ht
  induction lead generalizing s with
  | nil => exact List.nil_prefix
  | cons c lead ih =>
    cases s with
    | nil => exact absurd (List.nil_lt_cons c lead) hs
    | cons d s =>
      rw [List.cons_append, List.cons_lt_cons_iff] at hst
      rw [List.cons_lt_cons_iff, not_or] at hs
      obtain ⟨rfl, hrest⟩ := hst.resolve_left hs.1
      exact List.cons_prefix_cons.2 ⟨rfl, ih (fun h => hs.2 ⟨rfl, h⟩) hrest⟩

section
variable {α : Type} {p q : α → Bool} {R : α → α → Prop} {l : List α}

/-- where the wanted items stand one after the other, they are found by reading from the first place that
is not passed over to the first item that is not wanted -/
theorem takeWhile_dropWhile_eq_filter (hl : l.Pairwise R) (hskip : ∀ a, p a = true → q a = false)
    (hstay : ∀ a b, R a b → p a = false → p b = false)
    (hend : ∀ a b, R a b → p a = false → q a = false → q b = false) :
    (l.dropWhile p).takeWhile q = l.filter q := by
  induction l with
  | nil => rfl
  | cons a rest ih =>
    obtain ⟨ha, hrest⟩ := List.pairwise_cons.1 hl
    cases hp : p a with
    | true => rw [List.dropWhile_cons_of_pos hp, ih hrest, List.filter_cons_of_neg (by simp [hskip a hp])]
    | false =>
      have hnone : rest.dropWhile p = rest := by
        cases rest with
        | nil => rfl
        | cons b more =>
          exact List.dropWhile_cons_of_neg (by simp [hstay a b (ha b List.mem_cons_self) hp])
      rw [List.dropWhile_cons_of_neg (by simp [hp])]
      cases hq : q a with
      | true =>
        rw [List.takeWhile_cons_of_pos hq, List.filter_cons_of_pos hq, ← ih hrest, hnone]
      | false =>
        have hothers : rest.filter q = [] :=
          List.filter_eq_nil_iff.2 fun b hb => by simp [hend a b (ha b hb) hp hq]
        rw [List.takeWhile_cons_of_neg (by simp [hq]), List.filter_cons_of_neg (by simp [hq]), hothers]

end

/-- **a scan finds all rows whose texts begin with the text** -/
theorem scan_eq_filter {α : Type} (lead : String) (rows : TextMap α) :
    scan lead rows = (rows.records.filter fun r => beginsWith lead r.1).map (·.2) := by
  have hbegins : ∀ s : String, beginsWith lead s = true ↔ lead.toList <+: s.toList :=
    fun s => List.isPrefixOf_iff_prefix
  have hbefore : ∀ s t : String, before s t = true ↔ s.toList < t.toList :=
    fun s t => decide_eq_true_iff.trans String.lt_iff
  unfold scan
  rw [takeWhile_dropWhile_eq_filter rows.ascending]
  · intro a ha
    rw [Bool.eq_false_iff, ne_eq, hbegins]
    exact fun h => not_lt_of_prefix h ((hbefore _ _).1 ha)
  · intro a b hab ha
    exact not_before_trans ha (before_asymm hab)
  · intro a b hab ha hnot
    rw [Bool.eq_false_iff, ne_eq, hbegins] at hnot ⊢
    rw [Bool.eq_false_iff, ne_eq, hbefore] at ha
    exact fun hb => hnot (prefix_of_between ha ((hbefore _ _).1 hab) hb)

end ProxyMesh
