import ProxyMesh.Proofs.Balancing.Members

/-!
# A plan is decided by the weights of its tags

A plan depends on nothing but the members of a list of candidates and on the draw.

* `heaviest`               the members that share the greatest weight;
* `compile_eq_none`, `compile_costs`, `compile_heaviest`   when there is a plan, its costs and its fallback;
* `compile_by_weights`     **which plan a list of candidates has, and that no other list of the same
                           weighty candidates has another one**.
-/

namespace ProxyMesh.Balancing

section
variable {c : Candidate}

theorem totalWeight_eq (l : List Candidate) : totalWeight l = (l.map (·.weight)).sum := by
  rw [List.sum_eq_foldl, List.foldl_map]
  rfl

/-- the members that share the greatest weight -/
def heaviest (l : List Candidate) : List Candidate :=
  l.filter (·.weight == (l.map (·.weight)).foldl max 0)

theorem le_of_mem_heaviest {l : List Candidate} (hc : c ∈ heaviest l) :
    c ∈ l ∧ ∀ d ∈ l, d.weight ≤ c.weight := by
  obtain ⟨hmem, hmost⟩ := List.mem_filter.1 hc
  refine ⟨hmem, fun d hd => ?_⟩
  have hweight : d.weight ∈ l.map (·.weight) := List.mem_map_of_mem hd
  obtain ⟨most, hmax⟩ := Option.isSome_iff_exists.1 (List.isSome_max?_of_mem hweight)
  rw [beq_iff_eq, List.foldl_max, hmax] at hmost
  have hle := (List.max?_eq_some_iff.1 hmax).2 _ hweight
  exact le_trans hle (hmost ▸ le_max_right 0 most)

theorem heaviest_ne_nil {l : List Candidate} (hl : l ≠ []) : heaviest l ≠ [] := by
  obtain ⟨first, hfirst⟩ := List.exists_mem_of_ne_nil l hl
  obtain ⟨most, hmax⟩ := Option.isSome_iff_exists.1
    (List.isSome_max?_of_mem (List.mem_map_of_mem (f := Candidate.weight) hfirst))
  obtain ⟨c, hc, hmost⟩ := List.mem_map.1 (List.max?_eq_some_iff.1 hmax).1
  apply List.ne_nil_of_mem (a := c)
  refine List.mem_filter.2 ⟨hc, ?_⟩
  rw [beq_iff_eq, List.foldl_max, hmax, hmost]
  exact (Nat.zero_max most).symm

end

namespace Plan

variable {candidates : List Candidate} {choose : Nat → Nat} {p : Plan}

theorem compile_eq_none :
    compile choose candidates = none ↔ ∀ c ∈ candidates, c.weight = 0 := by
  rw [← members_eq_nil]
  unfold compile
  cases members candidates with
  | nil => exact ⟨fun _ => rfl, fun _ => rfl⟩
  | cons first rest => exact ⟨nofun, nofun⟩

theorem compile_congr {candidates' : List Candidate}
    (h : (weighty candidates').Perm (weighty candidates)) :
    compile choose candidates' = compile choose candidates := by
  unfold compile
  rw [members_congr h]

theorem compile_parts (h : compile choose candidates = some p) : members candidates ≠ [] ∧
    p.costs = (members candidates).map (fun c =>
      (c.tag, cost (totalWeight (members candidates)) c.weight)) ∧
    p.fallback = ((heaviest (members candidates))[choose (heaviest (members candidates)).length]?).map
      (·.tag) := by
  unfold compile at h
  split at h
  · cases h
  next first rest hmembers =>
    obtain rfl := Option.some.inj h
    rw [hmembers]
    exact ⟨List.cons_ne_nil first rest, rfl, rfl⟩

theorem selector_eq (h : compile choose candidates = some p) :
    p.selector = (members candidates).map (·.tag) := (compile_eq_some h).1

theorem compile_costs (h : compile choose candidates = some p) :
    p.costs = p.selector.map fun tag =>
      (tag, cost (p.selector.map (weightOf candidates)).sum (weightOf candidates tag)) := by
  have hselector := selector_eq h
  have htotal : totalWeight (members candidates) = (p.selector.map (weightOf candidates)).sum := by
    rw [totalWeight_eq, members_eq_map, ← hselector, List.map_map]
    rfl
  rw [(compile_parts h).2.1, htotal, members_eq_map, ← hselector, List.map_map]
  rfl

theorem compile_heaviest (hchoose : ∀ n, 0 < n → choose n < n)
    (h : compile choose candidates = some p) :
    ∃ tag ∈ p.selector, p.fallback = some tag ∧
      ∀ other ∈ p.selector, weightOf candidates other ≤ weightOf candidates tag := by
  obtain ⟨hne, -, hfallback⟩ := compile_parts h
  have hlength := List.length_pos_iff.2 (heaviest_ne_nil hne)
  have hdrawn := hchoose _ hlength
  rw [List.getElem?_eq_getElem hdrawn] at hfallback
  have hmem := List.getElem_mem hdrawn
  generalize (heaviest (members candidates))[choose _] = c at hfallback hmem
  obtain ⟨hc, hmost⟩ := le_of_mem_heaviest hmem
  rw [selector_eq h]
  refine ⟨c.tag, List.mem_map_of_mem hc, hfallback, fun other hother => ?_⟩
  obtain ⟨d, hd, rfl⟩ := List.mem_map.1 hother
  rw [← (mem_members.1 hd).2, ← (mem_members.1 hc).2]
  exact hmost d hd

/-- **A plan is decided by the weights of its tags.**  There is none exactly if no candidate has a
weight; neither the order of the candidates nor those without weight matter.  The selector names each
tag that has a weight once, in the order of digests, the costs follow it, and the fallback is one of
the heaviest members, whichever the draw takes. -/
theorem compile_by_weights (hchoose : ∀ n, 0 < n → choose n < n) (candidates : List Candidate) :
    (compile choose candidates = none ↔ ∀ c ∈ candidates, c.weight = 0) ∧
      (∀ candidates', (weighty candidates').Perm (weighty candidates) →
        compile choose candidates' = compile choose candidates) ∧
      ∀ p, compile choose candidates = some p →
        (p.selector.Nodup ∧ p.selector.Pairwise Precedes ∧
          ∀ tag, tag ∈ p.selector ↔ ∃ c ∈ candidates, c.tag = tag ∧ 0 < c.weight) ∧
        p.costs = p.selector.map (fun tag =>
          (tag, cost (p.selector.map (weightOf candidates)).sum (weightOf candidates tag))) ∧
        ∃ tag ∈ p.selector, p.fallback = some tag ∧
          ∀ other ∈ p.selector, weightOf candidates other ≤ weightOf candidates tag := by
  refine ⟨compile_eq_none, fun _ h => compile_congr h, fun p h => ⟨?_, compile_costs h,
    compile_heaviest hchoose h⟩⟩
  rw [selector_eq h]
  exact ⟨nodup_tags candidates, members_ascending candidates, fun tag => mem_tags⟩

/-- two tags share the greatest weight, which 32 bits only just hold -/
def tied : List Candidate :=
  [⟨"A", 1⟩, ⟨"off", 0⟩, ⟨"B", weightMax⟩, ⟨"C", 5⟩, ⟨"B", 7⟩, ⟨"A", weightMax⟩]

theorem compile_by_weights_tied :
    (∀ n, 0 < n → KeyStream.choose (fallbackKey 1 "lb_1_main") n < n) ∧ ∃ p,
      compile (KeyStream.choose (fallbackKey 1 "lb_1_main")) tied = some p ∧
      compile (KeyStream.choose (fallbackKey 1 "lb_1_main")) tied.reverse = some p ∧
      "B" ∈ p.selector ∧ "off" ∉ p.selector ∧
      (p.fallback = some "A" ∨ p.fallback = some "B") := by
  have hchoose : ∀ n, 0 < n → KeyStream.choose (fallbackKey 1 "lb_1_main") n < n :=
    fun n => KeyStream.choose_lt
  obtain ⟨hnone, hsame, hsome⟩ := compile_by_weights hchoose tied
  have hperm : (weighty tied.reverse).Perm (weighty tied) := (List.reverse_perm tied).filter _
  cases hplan : compile (KeyStream.choose (fallbackKey 1 "lb_1_main")) tied with
  | none => exact absurd (hnone.1 hplan) (by decide)
  | some p =>
    obtain ⟨⟨-, -, htags⟩, -, tag, htag, hfallback, hmost⟩ := hsome p hplan
    have hfirst : "A" ∈ p.selector := (htags "A").2 (by decide)
    have hweight : weightMax ≤ weightOf tied tag := hmost "A" hfirst
    obtain ⟨c, hc, rfl, -⟩ := (htags tag).1 htag
    have hheavy : ∀ c ∈ tied, weightMax ≤ weightOf tied c.tag → c.tag = "A" ∨ c.tag = "B" := by
      decide +kernel
    refine ⟨hchoose, p, rfl, (hsame _ hperm).trans hplan, (htags "B").2 (by decide),
      fun hoff => absurd ((htags "off").1 hoff) (by decide), ?_⟩
    rw [hfallback, Option.some.injEq, Option.some.injEq]
    exact hheavy c hc hweight

end Plan

end ProxyMesh.Balancing
