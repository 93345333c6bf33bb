import Mathlib.Algebra.BigOperators.Group.List.Basic
import Mathlib.Algebra.GroupWithZero.Nat
import ProxyMesh.Balancing.Plan
import ProxyMesh.Proofs.Tables

/-!
# The members of a plan

A list of candidates gives weights to tags, in some order and with some tags named more than once.  The
members are the tags that have a weight, each with the sum of its own, held to 32 bits.

* `weightOf`               the weight of a tag in a list of candidates;
* `get?_mergeWeights`      candidates added up one by one give every tag its weight;
* `mem_members`, `members_ascending`   the members are the tags with weight, in the order of digests;
* `members_congr`          lists with the same weighty candidates, in any order, have the same members;
* `compile_selector`       **the selector names candidates only**;
* `compile_fallback`       **the fallback is one of the members**.
-/

namespace ProxyMesh.Balancing

/-- the weights that candidates give to a tag -/
def weightsOf (candidates : List Candidate) (tag : String) : List Nat :=
  (candidates.filter (·.tag = tag)).map (·.weight)

/-- the weights of a tag added up, as far as 32 bits go -/
def weightOf (candidates : List Candidate) (tag : String) : Nat :=
  min (weightsOf candidates tag).sum weightMax

/-- the candidates that have a weight at all -/
def weighty (candidates : List Candidate) : List Candidate := candidates.filter (0 < ·.weight)

/-! ## weights added up -/

section
variable {candidates : List Candidate} {c : Candidate} {m : TextMap Nat} {tag : String}

theorem sum_weightsOf_cons (c : Candidate) (rest : List Candidate) (tag : String) :
    (weightsOf (c :: rest) tag).sum =
      (if c.tag = tag then c.weight else 0) + (weightsOf rest tag).sum := by
  unfold weightsOf
  rw [List.filter_cons]
  by_cases h : c.tag = tag
  · simp [h]
  · simp [h]

theorem sum_weightsOf_weighty (candidates : List Candidate) (tag : String) :
    (weightsOf (weighty candidates) tag).sum = (weightsOf candidates tag).sum := by
  unfold weighty
  induction candidates with
  | nil => rfl
  | cons c rest ih =>
    rw [List.filter_cons, sum_weightsOf_cons c rest]
    split
    next => rw [sum_weightsOf_cons, ih]
    next hzero =>
      have hweight : c.weight = 0 := by
        rw [decide_eq_true_eq] at hzero
        omega
      rw [ih, hweight, ite_self, Nat.zero_add]

/-- the weight that a tag has so far -/
def held (m : TextMap Nat) (tag : String) : Nat := (m.get? tag).elim 0 (·.2)

/-- one more weight added to its tag -/
def addWeight (m : TextMap Nat) (c : Candidate) : TextMap Nat :=
  m.put (c.tag, min (held m c.tag + c.weight) weightMax)

theorem mergeWeights_eq (candidates : List Candidate) :
    mergeWeights candidates = (weighty candidates).foldl addWeight .empty := rfl

theorem held_addWeight (m : TextMap Nat) (c : Candidate) (tag : String) :
    held (addWeight m c) tag =
      if c.tag = tag then min (held m tag + c.weight) weightMax else held m tag := by
  unfold addWeight
  split
  next h =>
    subst h
    have hput : (m.put (c.tag, min (held m c.tag + c.weight) weightMax)).get? c.tag =
        some (c.tag, min (held m c.tag + c.weight) weightMax) := Table.get?_put_self m _
    exact congrArg (Option.elim · 0 (·.2)) hput
  next h =>
    unfold held
    rw [Table.get?_put_ne m (show tag ≠ key (c.tag, _) from fun e => h e.symm)]

/-- weights of one tag add up to the same whether they are held to 32 bits at each step or at the end -/
theorem held_foldl (hm : held m tag ≤ weightMax) :
    held (candidates.foldl addWeight m) tag =
      min (held m tag + (weightsOf candidates tag).sum) weightMax := by
  induction candidates generalizing m with
  | nil => exact (Nat.min_eq_left hm).symm
  | cons c rest ih =>
    rw [List.foldl_cons, sum_weightsOf_cons]
    have hstep := held_addWeight m c tag
    split at hstep
    next h =>
      rw [ih (hstep ▸ Nat.min_le_right _ _), hstep, if_pos h]
      omega
    next h =>
      rw [ih (hstep ▸ hm), hstep, if_neg h, Nat.zero_add]

theorem contains_foldl : (candidates.foldl addWeight m).contains tag = true ↔
    tag ∈ candidates.map (·.tag) ∨ m.contains tag = true := by
  induction candidates generalizing m with
  | nil => exact (or_iff_right List.not_mem_nil).symm
  | cons c rest ih =>
    rw [List.foldl_cons, ih, List.map_cons, List.mem_cons, addWeight, Table.contains_put]
    exact or_left_comm.trans or_assoc.symm

theorem get?_eq_held (m : TextMap Nat) (tag : String) :
    m.get? tag = if m.contains tag = true then some (tag, held m tag) else none := by
  unfold held Table.contains
  cases h : m.get? tag with
  | none => rfl
  | some entry =>
    have hkey : entry.1 = tag := Table.key_of_get? h
    exact congrArg some (Prod.ext hkey rfl)

theorem get?_mergeWeights (candidates : List Candidate) (tag : String) :
    (mergeWeights candidates).get? tag =
      if tag ∈ (weighty candidates).map (·.tag) then some (tag, weightOf candidates tag)
      else none := by
  have hheld : held (mergeWeights candidates) tag = weightOf candidates tag := by
    rw [mergeWeights_eq, held_foldl (Nat.zero_le _), sum_weightsOf_weighty]
    exact congrArg (min · weightMax) (Nat.zero_add _)
  have hcontains : (mergeWeights candidates).contains tag = true ↔
      tag ∈ (weighty candidates).map (·.tag) :=
    contains_foldl.trans (or_iff_left Bool.false_ne_true)
  rw [get?_eq_held, hheld]
  simp only [hcontains]

theorem mergeWeights_congr {candidates' : List Candidate}
    (h : (weighty candidates').Perm (weighty candidates)) :
    mergeWeights candidates' = mergeWeights candidates := by
  refine Table.ext_get? fun tag => ?_
  have hweight : weightOf candidates' tag = weightOf candidates tag := by
    unfold weightOf
    rw [← sum_weightsOf_weighty, ← sum_weightsOf_weighty candidates]
    exact congrArg (min · weightMax) ((h.filter _).map _).sum_eq
  rw [get?_mergeWeights, get?_mergeWeights, hweight]
  simp only [(h.map _).mem_iff]

/-! ## members -/

theorem members_congr {candidates' : List Candidate}
    (h : (weighty candidates').Perm (weighty candidates)) :
    members candidates' = members candidates := by
  unfold members
  rw [mergeWeights_congr h]

/-- the members are the tags that have a weight, each with the whole of it -/
theorem members_perm (candidates : List Candidate) : (members candidates).Perm
    ((mergeWeights candidates).records.map fun entry => Candidate.mk entry.1 entry.2) := by
  unfold members
  have h := (List.mergeSort_perm ((mergeWeights candidates).records.map fun entry =>
    (orderKey entry.1, Candidate.mk entry.1 entry.2)) inOrder).map Prod.snd
  rw [List.map_map] at h
  exact h

theorem mem_members : c ∈ members candidates ↔
    c.tag ∈ (weighty candidates).map (·.tag) ∧ c.weight = weightOf candidates c.tag := by
  rw [(members_perm candidates).mem_iff, List.mem_map]
  constructor
  · rintro ⟨entry, hentry, rfl⟩
    have hget := (Table.mem_records.1 hentry).symm.trans (get?_mergeWeights candidates entry.1)
    obtain ⟨htag, he⟩ := Option.ite_none_right_eq_some.1 hget.symm
    exact ⟨htag, (congrArg Prod.snd (Option.some.inj he)).symm⟩
  · rintro ⟨htag, hweight⟩
    have hget := get?_mergeWeights candidates c.tag
    rw [if_pos htag, ← hweight] at hget
    exact ⟨(c.tag, c.weight), Table.mem_of_get? hget, rfl⟩

theorem nodup_tags (candidates : List Candidate) : ((members candidates).map (·.tag)).Nodup := by
  rw [((members_perm candidates).map _).nodup_iff, List.map_map]
  exact nodup_keys (mergeWeights candidates).ascending

/-- the digest of a tag decides, and the tag itself between tags of one digest -/
def Precedes (a b : String) : Prop :=
  Sha256.hex a < Sha256.hex b ∨ Sha256.hex a = Sha256.hex b ∧ a < b

theorem before_orderKey_iff {a b : String} :
    before (orderKey a) (orderKey b) = true ↔ Precedes a b := by
  have hpair : before (orderKey a) (orderKey b) = (decide (Sha256.hex a < Sha256.hex b) ||
      (!decide (Sha256.hex b < Sha256.hex a) && decide (a < b))) := rfl
  rw [hpair, Bool.or_eq_true, Bool.and_eq_true, Bool.not_eq_true', decide_eq_true_eq,
    decide_eq_true_eq, decide_eq_false_iff_not]
  constructor
  · rintro (hlt | ⟨hnot, htag⟩)
    · exact Or.inl hlt
    · by_cases hlt : Sha256.hex a < Sha256.hex b
      · exact Or.inl hlt
      · exact Or.inr ⟨String.le_antisymm (String.not_lt.1 hnot) (String.not_lt.1 hlt), htag⟩
  · rintro (hlt | ⟨he, htag⟩)
    · exact Or.inl hlt
    · exact Or.inr ⟨he ▸ String.lt_irrefl _, htag⟩

theorem precedes_of_not_before {a b : String} (hle : before (orderKey b) (orderKey a) = false)
    (hne : a ≠ b) : Precedes a b := by
  rw [← before_orderKey_iff]
  by_contra h
  have hkey := Key.connex _ _ (Bool.eq_false_iff.2 h) hle
  exact hne (congrArg Prod.snd hkey)

/-- the members with the keys that they are sorted by -/
def keyed (candidates : List Candidate) : List ((String × String) × Candidate) :=
  (mergeWeights candidates).records.map fun entry => (orderKey entry.1, .mk entry.1 entry.2)

theorem members_eq (candidates : List Candidate) :
    members candidates = ((keyed candidates).mergeSort inOrder).map (·.2) := rfl

theorem key_of_mem_keyed {x : (String × String) × Candidate} (h : x ∈ keyed candidates) :
    x.1 = orderKey x.2.tag := by
  obtain ⟨entry, -, rfl⟩ := List.mem_map.1 h
  rfl

theorem members_ascending (candidates : List Candidate) :
    ((members candidates).map (·.tag)).Pairwise Precedes := by
  have hsorted : ((keyed candidates).mergeSort inOrder).Pairwise fun x y => inOrder x y = true := by
    refine List.pairwise_mergeSort (fun x y z hxy hyz => ?_) (fun x y => ?_) _
    · unfold inOrder at *
      rw [Bool.not_eq_true'] at *
      exact not_before_trans hxy hyz
    · unfold inOrder
      cases h : before y.1 x.1 with
      | false => rfl
      | true =>
        rw [before_asymm h]
        rfl
  have htags := nodup_tags candidates
  rw [members_eq, List.map_map] at htags ⊢
  refine List.pairwise_map.2 ((hsorted.and (List.pairwise_map.1 htags)).imp_of_mem ?_)
  intro x y hx hy h
  obtain ⟨hle, hne⟩ := h
  unfold inOrder at hle
  rw [key_of_mem_keyed (List.mem_mergeSort.1 hx), key_of_mem_keyed (List.mem_mergeSort.1 hy),
    Bool.not_eq_true'] at hle
  exact precedes_of_not_before hle hne

theorem mem_weighty_tags :
    tag ∈ (weighty candidates).map (·.tag) ↔ ∃ c ∈ candidates, c.tag = tag ∧ 0 < c.weight := by
  unfold weighty
  rw [List.mem_map]
  constructor
  · rintro ⟨c, hc, rfl⟩
    obtain ⟨hc, hweight⟩ := List.mem_filter.1 hc
    exact ⟨c, hc, rfl, of_decide_eq_true hweight⟩
  · rintro ⟨c, hc, rfl, hweight⟩
    exact ⟨c, List.mem_filter.2 ⟨hc, decide_eq_true hweight⟩, rfl⟩

theorem mem_tags : tag ∈ (members candidates).map (·.tag) ↔
    ∃ c ∈ candidates, c.tag = tag ∧ 0 < c.weight := by
  rw [← mem_weighty_tags, List.mem_map]
  constructor
  · rintro ⟨c, hc, rfl⟩
    exact (mem_members.1 hc).1
  · intro htag
    exact ⟨⟨tag, weightOf candidates tag⟩, mem_members.2 ⟨htag, rfl⟩, rfl⟩

theorem members_eq_map (candidates : List Candidate) : members candidates =
    ((members candidates).map (·.tag)).map fun tag => ⟨tag, weightOf candidates tag⟩ := by
  have hself : ∀ c ∈ members candidates, (⟨c.tag, weightOf candidates c.tag⟩ : Candidate) = c := by
    intro c hc
    rw [← (mem_members.1 hc).2]
  rw [List.map_map]
  exact ((List.map_congr_left hself).trans (List.map_id _)).symm

theorem members_eq_nil : members candidates = [] ↔ ∀ c ∈ candidates, c.weight = 0 := by
  rw [← List.map_eq_nil_iff, List.eq_nil_iff_forall_not_mem]
  constructor
  · intro h c hc
    by_contra hweight
    exact h c.tag (mem_tags.2 ⟨c, hc, rfl, Nat.pos_of_ne_zero hweight⟩)
  · intro h tag htag
    obtain ⟨c, hc, -, hweight⟩ := mem_tags.1 htag
    rw [h c hc] at hweight
    exact absurd hweight (Nat.lt_irrefl 0)

end

/-! ## plans -/

namespace Plan

variable {candidates : List Candidate} {choose : Nat → Nat} {p : Plan} {tag : String}

/-- the members of a plan in order, and the draw among the heaviest -/
theorem compile_eq_some (h : compile choose candidates = some p) :
    p.selector = (members candidates).map (·.tag) ∧
      ∀ tag, p.fallback = some tag → ∃ c ∈ members candidates, c.tag = tag := by
  unfold compile at h
  split at h
  · cases h
  next first rest hmembers =>
    rw [hmembers]
    obtain rfl := Option.some.inj h
    refine ⟨?_, ?_⟩
    · unfold selector
      rw [List.map_map]
      rfl
    · intro tag hfallback
      obtain ⟨c, hc, rfl⟩ := Option.map_eq_some_iff.1 hfallback
      exact ⟨c, (List.mem_filter.1 (List.mem_of_getElem? hc)).1, rfl⟩

theorem compile_selector (h : compile choose candidates = some p) (htag : tag ∈ p.selector) :
    tag ∈ candidates.map (·.tag) := by
  rw [(compile_eq_some h).1] at htag
  obtain ⟨c, hc, rfl, -⟩ := mem_tags.1 htag
  exact List.mem_map_of_mem hc

theorem compile_fallback (h : compile choose candidates = some p) (htag : p.fallback = some tag) :
    tag ∈ p.selector := by
  obtain ⟨c, hc, rfl⟩ := (compile_eq_some h).2 tag htag
  rw [(compile_eq_some h).1]
  exact List.mem_map.2 ⟨c, hc, rfl⟩

end Plan

end ProxyMesh.Balancing
