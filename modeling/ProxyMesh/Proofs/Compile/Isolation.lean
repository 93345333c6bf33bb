import ProxyMesh.Proofs.Compile.Consumers
import ProxyMesh.Proofs.Compile.Reads
import ProxyMesh.Proofs.Fleet.Nodes

/-!
# A node is compiled for itself

What a compile leaves behind are users of its own node, and what it takes in is what its node has a
part in.  So a compile that is repeated gives what it gave before, and changes to other nodes, to their
hops and to the amounts that periods have used do not reach the node.

* `GainsUsers`              one store is the other with new users of the node;
* `compile_repeats`         **a compile that is repeated gives what it gave, and changes nothing more**;
* `AgreeFor`                the stores agree on all that a node has a part in;
* `readsAlike_of_agreeFor`  such stores answer a compile of the node alike;
* `compile_isolated`        **the compile of a node does not depend on anything else**.
-/

namespace ProxyMesh

section
variable {s s' after : Store} {o : Options} {id : Id} {now : Nat} {a : Artifacts}

/-! ## a compile repeated -/

/-- `after` is `s` with new users of the node, each for a rule that the node takes part in and that had
a consumer -/
structure GainsUsers (id : Id) (now : Nat) (s after : Store) : Prop where
  rest : after = s.withUsers after.internalUsers
  kept : ∀ k u, s.internalUsers.get? k = some u → after.internalUsers.get? k = some u
  gained : ∀ k u, after.internalUsers.get? k = some u → s.internalUsers.get? k = none →
    ∃ r ∈ s.rules.records, k = (r.id, id) ∧ s.bindingsAt (.rule r.id) id ≠ [] ∧
      s.ruleConsumers r.id id now ≠ []

/-- a user that is not there yet is made for a rule that had a consumer -/
theorem ruleConsumers_of_joined {k : Id × Id} {u : InternalUser}
    (hnew : s.internalUsers.get? k = none) (h : s.joined now k = some u) :
    s.bindingsAt (.rule k.1) k.2 ≠ [] ∧ s.ruleConsumers k.1 k.2 now ≠ [] := by
  unfold Store.joined at h
  split at h
  next hjoins =>
    obtain ⟨hpart, hlive⟩ := Bool.and_eq_true_iff.1 hjoins
    constructor
    · rintro hnone
      unfold Store.takesPart at hpart
      rw [hnone] at hpart
      cases hpart
    -- without consumers the rule would live by the node's own user
    · rintro hnone
      obtain ⟨own, hown⟩ := Store.ownUser_of_isLive hlive (List.isEmpty_iff.2 hnone)
      rw [hnew] at hown
      cases hown
  · cases h

theorem gainsUsers_joinAll (s : Store) (now : Nat) (id : Id) :
    GainsUsers id now s (s.joinAll now (s.rules.records.map fun r => (r.id, id))) where
  rest := (Store.withUsers_joinAll _ _ _).symm
  kept k u hu := by
    rw [Store.get?_joinAll, hu]
    rfl
  gained k u hu hnew := by
    rw [Store.get?_joinAll, hnew, Option.none_or] at hu
    split at hu
    next hk =>
      obtain ⟨r, hr, rfl⟩ := List.mem_map.1 hk
      exact ⟨r, hr, rfl, ruleConsumers_of_joined hnew hu⟩
    · cases hu

theorem joinsOf_of_ok (h : compile s o id now = (.ok a, after)) :
    s.joinsOf o id = s.rules.records.map fun r => (r.id, id) := by
  unfold Store.joinsOf
  rcases compile_cases s o id now with ⟨e, -, he⟩ | ⟨hnone, -⟩
  · rw [he] at h
    cases (Prod.mk.inj h).1
  · rw [hnone]
    rfl

theorem compile_again (h : compile s o id now = (.ok a, after)) :
    compile after o id now = (.ok a, after) := by
  have hafter : after = s.joinAll now (s.rules.records.map fun r => (r.id, id)) := by
    rw [← joinsOf_of_ok h, ← Store.compile_store, h]
  obtain ⟨node, -, -, hnode, -⟩ := compile_ok h
  obtain rfl : node.id = id := Table.key_of_get? hnode
  refine Prod.ext ?_ ?_
  · rw [compile_congr (hafter ▸ readsAlike_joinAll s now node.id s.rules.records) o, h]
  · have hstore : after = s.afterNodes o now [node] := (congrArg Prod.snd h).symm
    have habsorb : (s.afterNodes o now [node]).afterNodes o now [node] = s.afterNodes o now [node] :=
      Store.afterNodes_absorb fun _ hn => hn
    rw [← hstore] at habsorb
    exact habsorb

/-- a user apart from the times of its traffic -/
def InternalUser.identity (u : InternalUser) : InternalUser := { u with usage := .none }

theorem InternalUser.key_identity (u : InternalUser) : key u.identity = key u := rfl

/-- whether a period can be connected; not known without its plan and profile -/
def Store.connectable? (s : Store) (now : Nat) (p : Period) : Option Bool := do
  let plan ← s.plans.get? p.planId
  let profile ← s.profiles.get? p.profileId
  pure (isConnectable p profile plan now)

/-- all that counts of a period: who it is for, and whether it can be connected -/
def Store.standing (s : Store) (now : Nat) (p : Period) : Id × Id × Id × Option Bool :=
  (p.id, p.profileId, p.planId, s.connectable? now p)

/-- the stores agree on all that the node has a part in -/
structure AgreeFor (id : Id) (now : Nat) (s s' : Store) : Prop where
  node : s.nodes.get? id = s'.nodes.get? id
  site : s.site = s'.site
  programs : ∀ name ∈ s.siteSettings.programNames, s.programs.get? name = s'.programs.get? name
  rules : s.rules = s'.rules
  tunnels : s.tunnels = s'.tunnels
  balancers : s.balancers = s'.balancers
  inboundTypes : s.inboundTypes = s'.inboundTypes
  profiles : s.profiles = s'.profiles
  plans : s.plans = s'.plans
  internalUsers : s.internalUsers.map .identity InternalUser.key_identity =
    s'.internalUsers.map .identity InternalUser.key_identity
  bindings : s.bindings.records.filter (·.involves id) = s'.bindings.records.filter (·.involves id)
  fixedInbounds : s.fixedInboundsAt id = s'.fixedInboundsAt id
  periods : s.periods.records.map (s.standing now) = s'.periods.records.map (s'.standing now)

/-- what is made of two lists item by item is the same if the items look the same to it -/
theorem filterMap_eq_of_map_eq {α β γ δ : Type} {f : α → γ} {f' : β → γ} {g : α → Option δ}
    {g' : β → Option δ} (h : ∀ a b, f a = f' b → g a = g' b) {l : List α} {l' : List β}
    (hl : l.map f = l'.map f') : l.filterMap g = l'.filterMap g' := by
  induction l generalizing l' with
  | nil =>
    obtain rfl := List.map_eq_nil_iff.1 hl.symm
    rfl
  | cons a rest ih =>
    obtain ⟨b, rest', rfl, hb, hrest⟩ := List.map_eq_cons_iff.1 hl.symm
    rw [List.filterMap_cons, List.filterMap_cons, h a b hb.symm, ih hrest.symm]

theorem bindingsAt_eq_filter (s : Store) (scope : Scope) (id : Id) : s.bindingsAt scope id =
    (s.bindings.records.filter (·.involves id)).filter (·.scope == scope) := by
  rw [List.filter_filter]
  rfl

theorem periodUser_of_standing (h : AgreeFor id now s s') (rule : Id) {p p' : Period}
    (hp : s.standing now p = s'.standing now p') :
    s.periodUser? rule now p = s'.periodUser? rule now p' := by
  obtain ⟨hid, hprofile, hplan, hconnectable⟩ :
      p.id = p'.id ∧ p.profileId = p'.profileId ∧ p.planId = p'.planId ∧
        s.connectable? now p = s'.connectable? now p' := by
    simpa only [Store.standing, Prod.mk.injEq] using hp
  unfold Store.connectable? at hconnectable
  unfold Store.periodUser?
  rw [← h.plans, ← h.profiles, ← hplan, ← hprofile] at hconnectable ⊢
  cases hplan : s.plans.get? p.planId with
  | none => rfl
  | some plan =>
    cases hprofile : s.profiles.get? p.profileId with
    | none => rfl
    | some profile =>
      rw [hplan, hprofile] at hconnectable
      have hverdict : isConnectable p profile plan now = isConnectable p' profile plan now :=
        Option.some.inj hconnectable
      dsimp only
      rw [hverdict, hid]

theorem ruleConsumers_of_agreeFor (h : AgreeFor id now s s') (rule : Id) :
    s.ruleConsumers rule id now = s'.ruleConsumers rule id now := by
  have hinternal : ∀ s : Store, (s.internalUsers.records.filter (Store.isConsumer rule id)).map
      User.ofInternal = ((s.internalUsers.map .identity InternalUser.key_identity).records.filter
        (Store.isConsumer rule id)).map User.ofInternal := by
    intro s
    show _ = ((s.internalUsers.records.map InternalUser.identity).filter _).map _
    rw [List.filter_map, List.map_map]
    rfl
  unfold Store.ruleConsumers
  rw [hinternal, hinternal s', h.internalUsers,
    filterMap_eq_of_map_eq (fun _ _ hp => periodUser_of_standing h rule hp) h.periods]

theorem own_of_agreeFor (h : AgreeFor id now s s') (rule : Id) :
    User.ofInternal (s.internalUserFor rule id).1 = User.ofInternal (s'.internalUserFor rule id).1 := by
  have hget : (s.internalUsers.get? (rule, id)).map InternalUser.identity =
      (s'.internalUsers.get? (rule, id)).map InternalUser.identity := by
    rw [← Table.get?_map _ InternalUser.key_identity, ← Table.get?_map _ InternalUser.key_identity,
      h.internalUsers]
  have hnew : s.newUser rule id = s'.newUser rule id := by
    unfold Store.newUser Store.siteSettings
    rw [h.site]
  rw [Store.internalUserFor_fst, Store.internalUserFor_fst, hnew]
  have hface : ∀ u : Option InternalUser, User.ofInternal (u.getD (s'.newUser rule id)) =
      User.ofInternal ((u.map InternalUser.identity).getD (s'.newUser rule id)) := by
    intro u
    cases u <;> rfl
  rw [hface, hget, ← hface]

theorem readsAlike_of_agreeFor (h : AgreeFor id now s s') : ReadsAlike id now s s' where
  node := h.node
  site := congrArg (·.getD .default) h.site
  programs := h.programs
  rules := h.rules
  tunnels := h.tunnels
  balancers := h.balancers
  inboundTypes := h.inboundTypes
  fixedInbounds := h.fixedInbounds
  bindings scope := by rw [bindingsAt_eq_filter, bindingsAt_eq_filter, h.bindings]
  consumers := ruleConsumers_of_agreeFor h
  own := own_of_agreeFor h

end

/-! ## the gate beside strangers -/

/-- the gate with another node, a hop and a fixed inbound of that node, another program, and with
amounts, claims and times of traffic that are new -/
def busyGate : Store := { gateStore with
  nodes := .ofList [hub, ⟨2, "leaf", "arm64", some "192.0.2.7", false, .empty⟩]
  programs := gateStore.programs.put ⟨"geo", [⟨"amd64", "sha256:abcdef", "abcdef"⟩], []⟩
  bindings := gateStore.bindings.put ⟨9, "elsewhere", .rule 7, 2, some 3, freedom, [⟨"main", 5⟩]⟩
  fixedInbounds := gateStore.fixedInbounds.put ⟨1, some 2, "\x7b\x7d"⟩
  periods := .ofList [
    ⟨1, 1, 1, .null, true, ⟨some 0, some 0⟩, ⟨some 0, ⟨5, 6⟩, ⟨50, 40⟩, some 0⟩, some ⟨.sync, 30⟩⟩,
    ⟨2, 1, 1, .null, false, .none, ⟨none, .none, ⟨1, 0⟩, none⟩, none⟩]
  internalUsers := .ofList [
    ⟨7, 1, true, "", ⟨some 1, some 2⟩⟩, ⟨7, 2, true, "", ⟨some 3, some 4⟩⟩, ⟨7, 3, false, "", .none⟩] }

end ProxyMesh
