import ProxyMesh.Proofs.Compile.Outcomes

/-!
# The users that a compile makes

A compile touches the store in one place: the node gets its own user for every rule that it takes
part in and that is live.  The user is one more consumer for the other nodes, so it may seem that
compiles wait for each other.  They do not: a user is made only for a rule that is live already, so
no compile makes a rule live or takes its life, and each makes its users whatever came before.

* `Store.isLive`            somebody can use the rule: a connectable period or an internal user;
* `Store.join`              a node's user for a rule that is live;
* `get?_joinAll`            the users after any number of joins, which depend only on which joins
                            were made;
* `addRule_store`           a rule is one join of the node;
* `compile_store`           **a compile is the joins of its node**.
-/

namespace ProxyMesh
namespace Store

/-- the store with other internal users -/
def withUsers (s : Store) (users : Table InternalUser) : Store := { s with internalUsers := users }

/-- the node has a binding of the rule -/
def takesPart (s : Store) (rule node : Id) : Bool := !(s.bindingsAt (.rule rule) node).isEmpty

/-- a period that can be connected, or an internal user of any node -/
def isLive (s : Store) (now : Nat) (rule : Id) : Bool :=
  s.periods.records.any (fun p => (s.periodUser? rule now p).isSome) ||
    s.internalUsers.records.any fun u => u.ruleId == rule && u.isActive

/-- the user that a node gets for a rule when it has none -/
def newUser (s : Store) (rule node : Id) : InternalUser :=
  ⟨rule, node, true, internalSecret s.siteSettings.reverseSeed rule node, .none⟩

/-- the node has its user for the rule, if it takes part in it and the rule is live -/
def join (now : Nat) (s : Store) (k : Id × Id) : Store :=
  if s.takesPart k.1 k.2 && s.isLive now k.1 then (s.internalUserFor k.1 k.2).2 else s

def joinAll (now : Nat) (s : Store) (l : List (Id × Id)) : Store := l.foldl (join now) s

section
variable {s : Store} {now : Nat} {rule node : Id} {k q : Id × Id} {l l' : List (Id × Id)}

/-! ## one user -/

theorem internalUserFor_of_some {u : InternalUser} (h : s.internalUsers.get? (rule, node) = some u) :
    (s.internalUserFor rule node).2 = s := by
  unfold internalUserFor ensureInternalUser
  rw [h]

theorem internalUserFor_of_none (h : s.internalUsers.get? (rule, node) = none) :
    (s.internalUserFor rule node).2 = s.putInternalUser (s.newUser rule node) := by
  unfold internalUserFor ensureInternalUser
  rw [h]
  rfl

theorem get?_ensureInternalUser (s : Store) (rule node : Id) (secret : String) (q : Id × Id) :
    (s.ensureInternalUser rule node secret).2.internalUsers.get? q =
      (s.internalUsers.get? q).or
        (if q = (rule, node) then some ⟨rule, node, true, secret, .none⟩ else none) := by
  unfold ensureInternalUser
  split
  next u hu =>
    by_cases hq : q = (rule, node)
    · rw [hq, hu]
      rfl
    · rw [if_neg hq, Option.or_none]
  next hnone =>
    by_cases hq : q = (rule, node)
    · rw [hq, hnone, if_pos rfl]
      exact Table.get?_put_some rfl
    · rw [if_neg hq, Option.or_none]
      exact Table.get?_put_ne _ hq

theorem get?_internalUserFor (s : Store) (rule node : Id) (q : Id × Id) :
    (s.internalUserFor rule node).2.internalUsers.get? q =
      (s.internalUsers.get? q).or (if q = (rule, node) then some (s.newUser rule node) else none) :=
  get?_ensureInternalUser s rule node _ q

theorem ensureInternalUser_fst (s : Store) (rule node : Id) (secret : String) :
    (s.ensureInternalUser rule node secret).1 =
      (s.internalUsers.get? (rule, node)).getD ⟨rule, node, true, secret, .none⟩ := by
  unfold ensureInternalUser
  split
  next h => rw [h]; rfl
  next h => rw [h]; rfl

theorem withUsers_internalUserFor (s : Store) (rule node : Id) :
    s.withUsers (s.internalUserFor rule node).2.internalUsers = (s.internalUserFor rule node).2 := by
  cases h : s.internalUsers.get? (rule, node) with
  | some u => rw [internalUserFor_of_some h]; rfl
  | none => rw [internalUserFor_of_none h]; rfl

/-- users have no say in whether a node is compiled -/
theorem refusal?_withUsers (s : Store) (users : Table InternalUser) (o : Options) (id : Id) :
    (s.withUsers users).refusal? o id = s.refusal? o id := rfl

/-! ## joins -/

/-- the users that a join may add -/
def joined (s : Store) (now : Nat) (q : Id × Id) : Option InternalUser :=
  if s.takesPart q.1 q.2 && s.isLive now q.1 then some (s.newUser q.1 q.2) else none

theorem withUsers_join (s : Store) (now : Nat) (k : Id × Id) :
    s.withUsers (s.join now k).internalUsers = s.join now k := by
  unfold join
  split
  · exact withUsers_internalUserFor s k.1 k.2
  · rfl

theorem get?_join (s : Store) (now : Nat) (k q : Id × Id) :
    (s.join now k).internalUsers.get? q =
      (s.internalUsers.get? q).or (if q = k then s.joined now q else none) := by
  unfold join joined
  split
  next h =>
    rw [get?_internalUserFor]
    by_cases hq : q = k
    · rw [hq, if_pos rfl, if_pos rfl, if_pos h]
    · rw [if_neg hq, if_neg hq]
  next h =>
    by_cases hq : q = k
    · rw [hq, if_pos rfl, if_neg h, Option.or_none]
    · rw [if_neg hq, Option.or_none]

theorem isLive_iff : s.isLive now rule = true ↔
    (∃ p ∈ s.periods.records, (s.periodUser? rule now p).isSome = true) ∨
      ∃ q u, s.internalUsers.get? q = some u ∧ u.ruleId = rule ∧ u.isActive = true := by
  unfold isLive
  rw [Bool.or_eq_true, List.any_eq_true, List.any_eq_true]
  refine or_congr_right ⟨?_, ?_⟩
  · rintro ⟨u, hu, h⟩
    obtain ⟨hr, ha⟩ := Bool.and_eq_true_iff.1 h
    exact ⟨key u, u, Table.mem_records.1 hu, eq_of_beq hr, ha⟩
  · rintro ⟨q, u, hu, rfl, ha⟩
    exact ⟨u, Table.mem_of_get? hu, by rw [beq_self_eq_true, ha]; rfl⟩

/-- no join makes a rule live, and none takes its life -/
theorem isLive_join (s : Store) (now : Nat) (k : Id × Id) (rule : Id) :
    (s.join now k).isLive now rule = s.isLive now rule := by
  have hperiods : (s.join now k).periods = s.periods := by rw [← withUsers_join]; rfl
  have huser : ∀ p, (s.join now k).periodUser? rule now p = s.periodUser? rule now p := by
    intro p
    rw [← withUsers_join]
    rfl
  rw [Bool.eq_iff_iff, isLive_iff, isLive_iff, hperiods]
  simp only [huser, get?_join]
  constructor
  · rintro (h | ⟨q, u, hu, hr, ha⟩)
    · exact Or.inl h
    · rcases Option.or_eq_some_iff.1 hu with hu | ⟨-, hu⟩
      · exact Or.inr ⟨q, u, hu, hr, ha⟩
      · unfold joined at hu
        split at hu
        · split at hu
          next hlive =>
            obtain rfl := Option.some.inj hu
            obtain rfl : q.1 = rule := hr
            exact isLive_iff.1 (Bool.and_eq_true_iff.1 hlive).2
          · cases hu
        · cases hu
  · rintro (h | ⟨q, u, hu, hr, ha⟩)
    · exact Or.inl h
    · exact Or.inr ⟨q, u, by rw [hu]; rfl, hr, ha⟩

theorem joined_join (s : Store) (now : Nat) (k q : Id × Id) :
    (s.join now k).joined now q = s.joined now q := by
  unfold joined
  rw [isLive_join, ← withUsers_join]
  rfl

theorem joinAll_append (s : Store) (now : Nat) (l l' : List (Id × Id)) :
    s.joinAll now (l ++ l') = (s.joinAll now l).joinAll now l' :=
  List.foldl_append

theorem withUsers_joinAll (s : Store) (now : Nat) (l : List (Id × Id)) :
    s.withUsers (s.joinAll now l).internalUsers = s.joinAll now l := by
  induction l generalizing s with
  | nil => rfl
  | cons k rest ih =>
    calc s.withUsers ((s.join now k).joinAll now rest).internalUsers
        = (s.withUsers (s.join now k).internalUsers).withUsers
            ((s.join now k).joinAll now rest).internalUsers := rfl
      _ = (s.join now k).joinAll now rest := by rw [withUsers_join, ih]

theorem get?_joinAll (s : Store) (now : Nat) (l : List (Id × Id)) (q : Id × Id) :
    (s.joinAll now l).internalUsers.get? q =
      (s.internalUsers.get? q).or (if q ∈ l then s.joined now q else none) := by
  induction l generalizing s with
  | nil => exact (Option.or_none).symm
  | cons k rest ih =>
    show ((s.join now k).joinAll now rest).internalUsers.get? q = _
    rw [ih, get?_join, joined_join, Option.or_assoc]
    congr 1
    by_cases hk : q = k
    · rw [if_pos hk, if_pos (List.mem_cons.2 (Or.inl hk))]
      split
      · exact Option.or_self
      · exact Option.or_none
    · rw [if_neg hk, Option.none_or]
      simp only [List.mem_cons, hk, false_or]

theorem joinAll_congr (h : ∀ q, q ∈ l ↔ q ∈ l') : s.joinAll now l = s.joinAll now l' := by
  rw [← withUsers_joinAll s now l, ← withUsers_joinAll s now l']
  congr 1
  refine Table.ext_get? fun q => ?_
  rw [get?_joinAll, get?_joinAll]
  simp only [h q]

end

/-! ## the joins of a compile -/

section
variable {s : Store} {now : Nat} {rule node : Id} {c : Context}

theorem isLive_of_ruleConsumers (h : (s.ruleConsumers rule node now).isEmpty = false) :
    s.isLive now rule = true := by
  obtain ⟨u, hu⟩ := List.isEmpty_eq_false_iff_exists_mem.1 h
  unfold ruleConsumers at hu
  unfold isLive
  rw [Bool.or_eq_true, List.any_eq_true, List.any_eq_true]
  rcases List.mem_append.1 hu with hu | hu
  · obtain ⟨p, hp, hpu⟩ := List.mem_filterMap.1 hu
    exact Or.inl ⟨p, hp, by rw [hpu]; rfl⟩
  · obtain ⟨u, hu, -⟩ := List.mem_map.1 hu
    obtain ⟨hmem, hcons⟩ := List.mem_filter.1 hu
    exact Or.inr ⟨u, hmem, (Bool.and_eq_true_iff.1 hcons).1⟩

theorem ruleConsumers_isEmpty_iff : (s.ruleConsumers rule node now).isEmpty = true ↔
    (∀ p ∈ s.periods.records, s.periodUser? rule now p = none) ∧
      ∀ q u, s.internalUsers.get? q = some u → isConsumer rule node u = false := by
  unfold ruleConsumers
  rw [List.isEmpty_iff, List.append_eq_nil_iff, List.filterMap_eq_nil_iff, List.map_eq_nil_iff,
    List.filter_eq_nil_iff]
  refine and_congr_right fun _ => ⟨fun h q u hu => ?_, fun h u hu => ?_⟩
  · exact Bool.eq_false_iff.2 (h u (Table.mem_of_get? hu))
  · exact Bool.eq_false_iff.1 (h (key u) u (Table.mem_records.1 hu))

/-- a live rule without consumers for the node lives by the node's own user -/
theorem ownUser_of_isLive (hlive : s.isLive now rule = true)
    (h : (s.ruleConsumers rule node now).isEmpty = true) :
    ∃ u, s.internalUsers.get? (rule, node) = some u := by
  obtain ⟨hperiods, hinternal⟩ := ruleConsumers_isEmpty_iff.1 h
  rcases isLive_iff.1 hlive with ⟨p, hp, hsome⟩ | ⟨q, u, hu, hr, ha⟩
  · rw [hperiods p hp] at hsome
    cases hsome
  · have hn : u.nodeId = node := by
      have hcons := hinternal q u hu
      unfold isConsumer at hcons
      rw [hr, ha, beq_self_eq_true, Bool.and_self, Bool.true_and] at hcons
      exact bne_eq_false_iff_eq.1 hcons
    have hq : q = (rule, node) := by
      rw [← Table.key_of_get? hu, ← hr, ← hn]
      rfl
    exact ⟨u, hq ▸ hu⟩

/-- a node's own users are no consumers of its rules -/
theorem ruleConsumers_join (s : Store) (now : Nat) (other rule node : Id) :
    (s.join now (other, node)).ruleConsumers rule node now = s.ruleConsumers rule node now := by
  have hperiods : (s.join now (other, node)).periods = s.periods := by
    rw [← withUsers_join]
    rfl
  have huser : (s.join now (other, node)).periodUser? rule now = s.periodUser? rule now := by
    funext p
    rw [← withUsers_join]
    rfl
  have hinternal : (s.join now (other, node)).internalUsers.records.filter (isConsumer rule node) =
      s.internalUsers.records.filter (isConsumer rule node) := by
    unfold join
    split
    · cases h : s.internalUsers.get? (other, node) with
      | some u => rw [internalUserFor_of_some h]
      | none =>
        rw [internalUserFor_of_none h]
        refine filter_place ?_ fun u hu hkey => ?_
        · show (other == rule && true && node != node) = false
          rw [bne_self_eq_false, Bool.and_false]
        · have hget := Table.mem_records.1 hu
          rw [hkey] at hget
          exact absurd (hget.symm.trans h) (Option.some_ne_none u)
    · rfl
  unfold ruleConsumers
  rw [hperiods, huser, hinternal]

theorem bindingsAt_join (s : Store) (now : Nat) (k : Id × Id) (scope : Scope) (node : Id) :
    (s.join now k).bindingsAt scope node = s.bindingsAt scope node := by
  rw [← withUsers_join]
  rfl

theorem internalUserFor_fst (s : Store) (rule node : Id) : (s.internalUserFor rule node).1 =
    (s.internalUsers.get? (rule, node)).getD (s.newUser rule node) :=
  ensureInternalUser_fst s rule node _

theorem internalUserFor_join (s : Store) (now : Nat) (k : Id × Id) (rule node : Id) :
    ((s.join now k).internalUserFor rule node).1 = (s.internalUserFor rule node).1 := by
  have hnew : (s.join now k).newUser rule node = s.newUser rule node := by
    rw [← withUsers_join]
    rfl
  rw [internalUserFor_fst, internalUserFor_fst, get?_join, hnew]
  cases h : s.internalUsers.get? (rule, node) with
  | some u => rfl
  | none =>
    unfold joined
    split
    · split <;> rfl
    · rfl

theorem addRule_store (c : Context) (d : Draft) (s : Store) (r : Rule) :
    (addRule c (d, s) r).2 = s.join c.now (r.id, c.node.id) := by
  have hpart : s.takesPart r.id c.node.id = !(s.bindingsAt (.rule r.id) c.node.id).isEmpty := rfl
  unfold addRule join
  rw [hpart]
  cases hb : (s.bindingsAt (.rule r.id) c.node.id).isEmpty with
  | true => simp [hb]
  | false =>
    cases hc : (s.ruleConsumers r.id c.node.id c.now).isEmpty with
    | false => simp [hb, hc, isLive_of_ruleConsumers hc]
    | true =>
      cases hl : s.isLive c.now r.id with
      | false => simp [hb, hc]
      | true =>
        obtain ⟨u, hu⟩ := ownUser_of_isLive hl hc
        simp [hb, hc, internalUserFor_of_some hu]

theorem foldl_addRule_store (c : Context) (rules : List Rule) (d : Draft) (s : Store) :
    (rules.foldl (addRule c) (d, s)).2 =
      s.joinAll c.now (rules.map fun r => (r.id, c.node.id)) := by
  induction rules generalizing d s with
  | nil => rfl
  | cons r rest ih =>
    show (rest.foldl (addRule c) (addRule c (d, s) r)).2 =
      (s.join c.now (r.id, c.node.id)).joinAll c.now (rest.map fun r => (r.id, c.node.id))
    rw [← addRule_store c d s r]
    exact ih _ _

theorem draftOf_store (c : Context) (s : Store) :
    (draftOf c s).2 = s.joinAll c.now (s.rules.records.map fun r => (r.id, c.node.id)) :=
  foldl_addRule_store c s.rules.records .empty s

/-- the joins that the compile of a node makes -/
def joinsOf (s : Store) (o : Options) (id : Id) : List (Id × Id) :=
  if (s.refusal? o id).isSome then [] else s.rules.records.map fun r => (r.id, id)

/-- **all that a compile does to the store** -/
theorem compile_store (s : Store) (o : Options) (id : Id) (now : Nat) :
    (compile s o id now).2 = s.joinAll now (s.joinsOf o id) := by
  unfold joinsOf
  rcases compile_cases s o id now with ⟨e, hr, he⟩ | ⟨hr, node, path, file, hn, hb⟩
  · rw [he, hr]
    rfl
  · rw [hb, hr, ← Table.key_of_get? hn]
    exact draftOf_store ⟨node, s.siteSettings, o, now⟩ s

end
end Store
end ProxyMesh
