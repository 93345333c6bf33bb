import Mathlib.Data.List.Nodup
import Mathlib.Data.Option.Basic
import ProxyMesh.Proofs.Compile.Contents

/-!
# A compile, hop by hop

The bindings that a node has a part in are worked on one after the other, each once, for its own rule or
tunnel.  Whatever a view of the parts sees of outbounds and reverse links, it sees it hop by hop.

* `nodup_flatMap_iff`        lists of things that know their list, one list after the other;
* `flatMap_keep`             items that are there for some of a list only;
* `hopsOf`, `mem_hopsOf`     the bindings that are worked on, and for whom;
* `nodup_hopsOf`             **each of them once**;
* `flatMap_bindingParts`     what a view sees of a hop;
* `flatMap_partsOf`          **and of all hops**;
* `forwards_draftOf`         the tunnels of a draft are those that start at the node.
-/

namespace ProxyMesh

/-! ## lists -/

section
variable {α β γ : Type}

theorem nodup_flatMap_iff {l : List α} {items : α → List β} (origin : β → γ) (name : α → γ)
    (hl : (l.map name).Nodup) (horigin : ∀ x ∈ l, ∀ y ∈ items x, origin y = name x) :
    (l.flatMap items).Nodup ↔ ∀ x ∈ l, (items x).Nodup := by
  rw [List.nodup_flatMap]
  refine and_iff_left ?_
  have hne : l.Pairwise fun x x' => name x ≠ name x' := List.pairwise_map.1 hl
  refine hne.imp_of_mem fun {x x'} hx hx' h => ?_
  intro y hy hy'
  exact h ((horigin x hx y hy).symm.trans (horigin x' hx' y hy'))

theorem flatMap_keep {l : List α} {items : α → List β} {keep : α → Bool} {item : α → β}
    (h : ∀ a ∈ l, items a = if keep a then [item a] else []) :
    l.flatMap items = (l.filter keep).map item := by
  rw [List.map_eq_flatMap]
  refine (flatMap_filter_of_nil fun a ha hdrop => ?_).symm.trans (List.flatMap_congr fun a ha => ?_)
  · rw [h a ha, hdrop]
    rfl
  · rw [h a (List.mem_of_mem_filter ha), (List.mem_filter.1 ha).2]
    rfl

end

/-! ## every binding is worked on once -/

section
variable {c : Context} {s : Store} {p : Principal} {b : Binding} {a : Allocation} {portal : Id}

/-- the rules and tunnels that are worked on, and for whom -/
def scopesOf (c : Context) (s : Store) : List (Scope × Principal) :=
  (s.rules.records.filter fun r => !(s.ruleConsumers r.id c.node.id c.now).isEmpty).map
      (fun r => (.rule r.id, rulePrincipal c s r)) ++
    s.tunnels.records.map fun t => (.tunnel t.id, tunnelPrincipal t)

/-- the bindings that are worked on, and for whom -/
def hopsOf (c : Context) (s : Store) : List (Principal × Binding) :=
  (scopesOf c s).flatMap fun x => (s.bindingsAt x.1 c.node.id).map (x.2, ·)

theorem mem_hopsOf : (p, b) ∈ hopsOf c s ↔ Hop c s p b := by
  unfold hopsOf scopesOf
  simp only [List.mem_flatMap, List.mem_append, List.mem_map, List.mem_filter, Prod.mk.injEq]
  constructor
  · rintro ⟨x, ⟨r, ⟨hr, hlive⟩, rfl⟩ | ⟨t, ht, rfl⟩, b', hb, rfl, rfl⟩
    · exact .rule hr (by simpa using hlive) hb
    · exact .tunnel ht hb
  · intro h
    cases h with
    | rule hr hlive hb => exact ⟨_, Or.inl ⟨_, ⟨hr, by simpa using hlive⟩, rfl⟩, b, hb, rfl, rfl⟩
    | tunnel ht hb => exact ⟨_, Or.inr ⟨_, ht, rfl⟩, b, hb, rfl, rfl⟩

theorem nodup_scopesOf (c : Context) (s : Store) : ((scopesOf c s).map (·.1)).Nodup := by
  have hrules : ((s.rules.records.filter fun r =>
      !(s.ruleConsumers r.id c.node.id c.now).isEmpty).map (·.id)).Nodup :=
    (nodup_keys s.rules.ascending).sublist (List.filter_sublist.map _)
  have htunnels : (s.tunnels.records.map (·.id)).Nodup := nodup_keys s.tunnels.ascending
  unfold scopesOf
  rw [List.map_append, List.map_map, List.map_map, List.nodup_append]
  refine ⟨?_, ?_, ?_⟩
  · have hmap := hrules.map (f := Scope.rule) fun _ _ h => Scope.rule.inj h
    rwa [List.map_map] at hmap
  · have hmap := htunnels.map (f := Scope.tunnel) fun _ _ h => Scope.tunnel.inj h
    rwa [List.map_map] at hmap
  · intro x hx y hy h
    obtain ⟨r, -, rfl⟩ := List.mem_map.1 hx
    obtain ⟨t, -, rfl⟩ := List.mem_map.1 hy
    cases h

/-- **No binding is worked on twice**: a binding has one scope, and no scope comes twice. -/
theorem nodup_hopsOf (c : Context) (s : Store) : ((hopsOf c s).map (·.2.id)).Nodup := by
  have hmap : (hopsOf c s).map (·.2.id) =
      (scopesOf c s).flatMap fun x => (s.bindingsAt x.1 c.node.id).map (·.id) := by
    unfold hopsOf
    rw [List.map_flatMap]
    simp only [List.map_map]
    rfl
  rw [hmap]
  have hname : ((scopesOf c s).map fun x => some x.1).Nodup := by
    have hsome := (nodup_scopesOf c s).map (Option.some_injective Scope)
    rwa [List.map_map] at hsome
  refine (nodup_flatMap_iff (fun id => (s.bindings.get? id).map (·.scope)) _ hname ?_).2 ?_
  · intro x _ id hid
    obtain ⟨b, hb, rfl⟩ := List.mem_map.1 hid
    obtain ⟨hstored, hscope, -⟩ := mem_bindingsAt.1 hb
    have hget : s.bindings.get? b.id = some b := Table.mem_records.1 hstored
    rw [hget, ← hscope]
    rfl
  · intro x _
    exact (nodup_keys s.bindings.ascending).sublist (List.filter_sublist.map _)

/-! ## what a view sees -/

section
variable {α : Type} {view : Part → List α}

theorem flatMap_consumers (hconsumer : ∀ u, view (.consumer u) = []) (users : List User) :
    (users.map Part.consumer).flatMap view = [] := by
  rw [List.flatMap_map]
  exact List.flatMap_eq_nil_iff.2 fun u _ => hconsumer u

theorem flatMap_ruleParts (hconsumer : ∀ u, view (.consumer u) = []) (r : Rule) :
    (ruleParts c s r).flatMap view =
      if (s.ruleConsumers r.id c.node.id c.now).isEmpty then []
      else (s.bindingsAt (.rule r.id) c.node.id).flatMap fun b =>
        (bindingParts c (rulePrincipal c s r) b).flatMap view := by
  unfold ruleParts
  dsimp only
  by_cases hlive : (s.ruleConsumers r.id c.node.id c.now).isEmpty = true
  · rw [if_pos hlive, hlive, Bool.or_true]
    rfl
  · rw [if_neg hlive, Bool.eq_false_iff.2 hlive, Bool.or_false]
    split
    next hnone =>
      rw [List.isEmpty_iff.1 hnone]
      rfl
    · rw [List.flatMap_append, flatMap_consumers hconsumer, List.nil_append, List.flatMap_assoc]

theorem flatMap_tunnelParts (hconsumer : ∀ u, view (.consumer u) = []) (t : Tunnel) :
    (tunnelParts c s t).flatMap view =
      (if c.node.id = t.sourceNodeId then view (.forward t) else []) ++
        (s.bindingsAt (.tunnel t.id) c.node.id).flatMap fun b =>
          (bindingParts c (tunnelPrincipal t) b).flatMap view := by
  unfold tunnelParts
  rw [List.flatMap_append, List.flatMap_append, List.flatMap_assoc]
  refine congrArg (· ++ _) ?_
  have hdest : (if c.node.id = t.destNodeId then [Part.consumer (tunnelUser t)] else []).flatMap view =
      [] := by
    split
    · exact (List.flatMap_singleton _ _).trans (hconsumer _)
    · rfl
  rw [hdest, List.append_nil]
  split
  · exact List.flatMap_singleton _ _
  · rfl

/-- **what a view sees of a compile is what it sees of its hops**, if it sees no more than that -/
theorem flatMap_partsOf (hconsumer : ∀ u, view (.consumer u) = [])
    (hforward : ∀ t, view (.forward t) = []) : (partsOf c s).flatMap view =
      (hopsOf c s).flatMap fun h => (bindingParts c h.1 h.2).flatMap view := by
  have htunnel : ∀ t, (tunnelParts c s t).flatMap view =
      (s.bindingsAt (.tunnel t.id) c.node.id).flatMap fun b =>
        (bindingParts c (tunnelPrincipal t) b).flatMap view := by
    intro t
    rw [flatMap_tunnelParts hconsumer, hforward, ite_self, List.nil_append]
  have hlive : s.rules.records.flatMap (fun r => (ruleParts c s r).flatMap view) =
      (s.rules.records.filter fun r => !(s.ruleConsumers r.id c.node.id c.now).isEmpty).flatMap
        fun r => (s.bindingsAt (.rule r.id) c.node.id).flatMap fun b =>
          (bindingParts c (rulePrincipal c s r) b).flatMap view := by
    refine (flatMap_filter_of_nil fun r _ hlive => ?_).symm.trans (List.flatMap_congr fun r hr => ?_)
    · rw [flatMap_ruleParts hconsumer, if_pos (by simpa using hlive)]
    · rw [flatMap_ruleParts hconsumer, if_neg (by simpa using (List.mem_filter.1 hr).2)]
  unfold partsOf hopsOf scopesOf
  rw [List.flatMap_append, List.flatMap_assoc, List.flatMap_assoc, hlive, funext htunnel]
  simp only [List.flatMap_append, List.flatMap_map, List.flatMap_assoc]

/-! ## what it sees of a hop -/

theorem flatMap_directParts (hnone : view (.outbounds []) = [])
    (hmember : ∀ scope balancer tag weight, view (.member scope balancer tag weight) = []) :
    (directParts c p b).flatMap view =
      view (.outbounds (c.outboundEntries b (directTag b) p.user)) := by
  unfold directParts
  dsimp only
  split
  next hempty =>
    rw [List.isEmpty_iff.1 hempty, hnone]
    rfl
  · have hmembers : (b.shares.map fun a =>
        Part.member b.scope a.balancer (directTag b) a.weight).flatMap view = [] := by
      rw [List.flatMap_map]
      exact List.flatMap_eq_nil_iff.2 fun a _ => hmember _ _ _ _
    rw [List.flatMap_cons, hmembers, List.append_nil]

theorem flatMap_portalParts (hconsumer : ∀ u, view (.consumer u) = [])
    (hmember : ∀ scope balancer tag weight, view (.member scope balancer tag weight) = []) :
    (portalParts c p b a).flatMap view = view (.portal (portalLink c p b a)) := by
  unfold portalParts
  rw [List.flatMap_cons, List.flatMap_cons, List.flatMap_singleton, hconsumer, hmember,
    List.append_nil, List.append_nil]

theorem flatMap_bridgeParts (hnone : view (.outbounds []) = []) :
    (bridgeParts c p b portal a).flatMap view =
      view (.outbounds (interconnectEntries c p b portal a)) ++
        if (interconnectEntries c p b portal a).isEmpty then []
        else view (.bridge (bridgeLink c b portal a)) := by
  unfold bridgeParts
  dsimp only
  split
  next hempty =>
    rw [List.isEmpty_iff.1 hempty, hnone]
    rfl
  · rw [List.flatMap_cons, List.flatMap_singleton]

/-- **what a view sees of a hop**, if it sees nothing of users and members -/
theorem flatMap_bindingParts (hnone : view (.outbounds []) = [])
    (hconsumer : ∀ u, view (.consumer u) = [])
    (hmember : ∀ scope balancer tag weight, view (.member scope balancer tag weight) = []) :
    (bindingParts c p b).flatMap view =
      match b.portalNodeId with
      | none =>
        if b.nodeId = c.node.id ∧ b.shares ≠ [] then
          view (.outbounds (c.outboundEntries b (directTag b) p.user))
        else []
      | some portal => b.shares.flatMap fun a =>
        (if c.node.id = portal then view (.portal (portalLink c p b a)) else []) ++
          if c.node.id = b.nodeId then
            view (.outbounds (interconnectEntries c p b portal a)) ++
              if (interconnectEntries c p b portal a).isEmpty then []
              else view (.bridge (bridgeLink c b portal a))
          else [] := by
  unfold bindingParts
  cases b.portalNodeId with
  | none =>
    dsimp only
    split
    · exact flatMap_directParts hnone hmember
    · rfl
  | some portal =>
    dsimp only
    rw [List.flatMap_assoc]
    refine List.flatMap_congr fun a _ => ?_
    unfold reverseParts
    rw [List.flatMap_append]
    refine congrArg₂ (· ++ ·) ?_ ?_
    · split
      · exact flatMap_portalParts hconsumer hmember
      · rfl
    · split
      · exact flatMap_bridgeParts hnone
      · rfl

end

/-! ## the tunnels of a node -/

/-- the tunnels that start at a node -/
def Store.tunnelsFrom (s : Store) (node : Id) : List Tunnel :=
  s.tunnels.records.filter fun t => decide (node = t.sourceNodeId)

theorem forwards_bindingParts (c : Context) (p : Principal) (b : Binding) :
    (bindingParts c p b).flatMap Part.forwards = [] := by
  rw [flatMap_bindingParts rfl (fun _ => rfl) fun _ _ _ _ => rfl]
  cases b.portalNodeId <;> simp [Part.forwards]

theorem forwards_draftOf (c : Context) (s : Store) :
    (draftOf c s).1.forwards = s.tunnelsFrom c.node.id := by
  have hlist : (draftOf c s).1.forwards = (partsOf c s).flatMap Part.forwards :=
    list_draftOf (fun _ => rfl) rfl fun d part => by
      cases part with
      | forward t => rfl
      | _ => exact (List.append_nil _).symm
  have hrule : ∀ r, (ruleParts c s r).flatMap Part.forwards = [] := by
    intro r
    rw [flatMap_ruleParts fun _ => rfl]
    simp only [forwards_bindingParts]
    rw [List.flatMap_eq_nil_iff.2 fun _ _ => rfl, ite_self]
  have htunnel : ∀ t ∈ s.tunnels.records, (tunnelParts c s t).flatMap Part.forwards =
      if decide (c.node.id = t.sourceNodeId) then [t] else [] := by
    intro t _
    rw [flatMap_tunnelParts fun _ => rfl]
    simp only [forwards_bindingParts, decide_eq_true_eq]
    rw [List.flatMap_eq_nil_iff.2 fun _ _ => rfl, List.append_nil]
    rfl
  rw [hlist]
  unfold partsOf
  rw [List.flatMap_append, List.flatMap_assoc, List.flatMap_assoc, funext hrule,
    List.flatMap_eq_nil_iff.2 fun _ _ => rfl, List.nil_append, flatMap_keep htunnel, List.map_id']
  rfl

end
end ProxyMesh
