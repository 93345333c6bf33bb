import ProxyMesh.Proofs.Compile.Parts

/-!
# What is in a draft

A draft is its parts added in order, so what is in its lists and tables is decided by its parts, and
every part of a binding is there for one of the binding's shares.

* `list_draftOf`             a list that every part appends its items to;
* `portals_draftOf`, `bridges_draftOf`, `outbounds_draftOf`, `consumers_draftOf`,
  `candidate_draftOf`        the lists and tables of a draft in terms of its parts;
* `Hop`                      a binding that is worked on, and for whom;
* `mem_partsOf`              **every part is a consumer of a rule, an end of a tunnel or a part of a hop**;
* `portal_mem_bindingParts`, `bridge_mem_bindingParts`, `consumer_mem_bindingParts`,
  `member_mem_bindingParts`, `outbounds_mem_bindingParts`   the parts of a hop.
-/

namespace ProxyMesh

/-! ## lists and tables -/

namespace Part

def portals : Part → List PortalLink
  | .portal link => [link]
  | _ => []

def bridges : Part → List BridgeLink
  | .bridge link => [link]
  | _ => []

def entries : Part → List Json
  | .outbounds entries => entries
  | _ => []

def forwards : Part → List Tunnel
  | .forward tunnel => [tunnel]
  | _ => []

def users : Part → List User
  | .consumer user => [user]
  | _ => []

variable {parts : List Part}

/-- a view that sees the parts of one kind sees those in the list -/
theorem mem_view {α : Type} {view : Part → List α} {wrap : α → Part}
    (h : ∀ part x, x ∈ view part ↔ part = wrap x) {x : α} :
    x ∈ parts.flatMap view ↔ wrap x ∈ parts := by
  rw [List.mem_flatMap]
  constructor
  · rintro ⟨part, hpart, hx⟩
    rwa [← (h part x).1 hx]
  · intro hx
    exact ⟨_, hx, (h _ x).2 rfl⟩

theorem mem_portals {link : PortalLink} : link ∈ parts.flatMap portals ↔ .portal link ∈ parts :=
  mem_view fun part _ => by cases part <;> simp [portals, eq_comm]

theorem mem_bridges {link : BridgeLink} : link ∈ parts.flatMap bridges ↔ .bridge link ∈ parts :=
  mem_view fun part _ => by cases part <;> simp [bridges, eq_comm]

theorem mem_users {u : User} : u ∈ parts.flatMap users ↔ .consumer u ∈ parts :=
  mem_view fun part _ => by cases part <;> simp [users, eq_comm]

end Part

section
variable {c : Context} {s : Store} {parts : List Part} {d : Draft}

theorem list_draftOf {α : Type} {field : Draft → List α} {items : Part → List α}
    (hlinks : ∀ d, field d.links = field d) (hempty : field .empty = [])
    (h : ∀ d part, field (d.add c part) = field d ++ items part) :
    field (draftOf c s).1 = (partsOf c s).flatMap items := by
  rw [← hlinks, draftOf_links, foldl_appends field h, hempty, List.nil_append]

theorem portals_draftOf (c : Context) (s : Store) :
    (draftOf c s).1.portals = (partsOf c s).flatMap Part.portals :=
  list_draftOf (fun _ => rfl) rfl fun d part => by
    cases part with
    | portal link => rfl
    | _ => exact (List.append_nil _).symm

theorem bridges_draftOf (c : Context) (s : Store) :
    (draftOf c s).1.bridges = (partsOf c s).flatMap Part.bridges :=
  list_draftOf (fun _ => rfl) rfl fun d part => by
    cases part with
    | bridge link => rfl
    | _ => exact (List.append_nil _).symm

theorem outbounds_draftOf (c : Context) (s : Store) :
    (draftOf c s).1.outbounds = (partsOf c s).flatMap Part.entries :=
  list_draftOf (fun _ => rfl) rfl fun d part => by
    cases part with
    | outbounds entries => rfl
    | _ => exact (List.append_nil _).symm

theorem consumers_foldl_add (c : Context) (parts : List Part) (d : Draft) :
    (parts.foldl (Draft.add c) d).consumers =
      d.consumers.putAll ((parts.flatMap Part.users).map fun u => (c.email u, u)) := by
  induction parts generalizing d with
  | nil => rfl
  | cons part rest ih =>
    rw [List.foldl_cons, ih]
    cases part <;> rfl

theorem consumers_draftOf (c : Context) (s : Store) : (draftOf c s).1.consumers =
    Table.empty.putAll (((partsOf c s).flatMap Part.users).map fun u => (c.email u, u)) := by
  show (draftOf c s).1.links.consumers = _
  rw [draftOf_links, consumers_foldl_add]
  rfl

/-- every candidate of a balancer was added as a member of it -/
theorem candidate_foldl_add {m : String × Group} {candidate : Balancing.Candidate}
    (hm : m ∈ (parts.foldl (Draft.add c) d).members.records)
    (hc : candidate ∈ m.2.candidates) :
    (∃ m' ∈ d.members.records, m'.1 = m.1 ∧ candidate ∈ m'.2.candidates) ∨
      ∃ scope balancer, balancerTag scope balancer = m.1 ∧
        .member scope balancer candidate.tag candidate.weight ∈ parts := by
  induction parts generalizing d with
  | nil => exact Or.inl ⟨m, hm, rfl, hc⟩
  | cons part rest ih =>
    rcases ih hm with ⟨m', hm', hkey, hc'⟩ | ⟨scope, balancer, hlb, hpart⟩
    · cases part with
      | member scope balancer tag weight =>
        rcases mem_place hm' with rfl | hm'
        · rcases List.mem_append.1 hc' with hc' | hc'
          · cases hget : d.members.get? (balancerTag scope balancer) with
            | none =>
              rw [hget] at hc'
              cases hc'
            | some old =>
              rw [hget] at hc'
              exact Or.inl ⟨old, Table.mem_of_get? hget, (Table.key_of_get? hget).trans hkey, hc'⟩
          · rw [List.mem_singleton.1 hc']
            exact Or.inr ⟨scope, balancer, hkey, List.mem_cons_self⟩
        · exact Or.inl ⟨m', hm', hkey, hc'⟩
      | _ => exact Or.inl ⟨m', hm', hkey, hc'⟩
    · exact Or.inr ⟨scope, balancer, hlb, List.mem_cons_of_mem _ hpart⟩

theorem candidate_draftOf {m : String × Group} {candidate : Balancing.Candidate}
    (hm : m ∈ (draftOf c s).1.members.records) (hc : candidate ∈ m.2.candidates) :
    ∃ scope balancer, balancerTag scope balancer = m.1 ∧
      .member scope balancer candidate.tag candidate.weight ∈ partsOf c s := by
  replace hm : m ∈ (draftOf c s).1.links.members.records := hm
  rw [draftOf_links] at hm
  rcases candidate_foldl_add hm hc with ⟨m', hm', -⟩ | hpart
  · cases hm'
  · exact hpart

end

/-! ## what every part is there for -/

/-- a binding that is worked on, and for whom -/
inductive Hop (c : Context) (s : Store) : Principal → Binding → Prop where
  | rule {r : Rule} {b : Binding} (hr : r ∈ s.rules.records)
      (hlive : s.ruleConsumers r.id c.node.id c.now ≠ [])
      (hb : b ∈ s.bindingsAt (.rule r.id) c.node.id) : Hop c s (rulePrincipal c s r) b
  | tunnel {t : Tunnel} {b : Binding} (ht : t ∈ s.tunnels.records)
      (hb : b ∈ s.bindingsAt (.tunnel t.id) c.node.id) : Hop c s (tunnelPrincipal t) b

section
variable {c : Context} {s : Store} {p : Principal} {b : Binding} {part : Part}

theorem mem_bindingsAt {scope : Scope} {node : Id} : b ∈ s.bindingsAt scope node ↔
    b ∈ s.bindings.records ∧ b.scope = scope ∧ (b.nodeId = node ∨ b.portalNodeId = some node) := by
  unfold Store.bindingsAt Binding.involves
  rw [List.mem_filter, Bool.and_eq_true, Bool.or_eq_true, beq_iff_eq, beq_iff_eq, beq_iff_eq]

theorem Hop.stored (h : Hop c s p b) : b ∈ s.bindings.records := by
  cases h with
  | rule _ _ hb => exact (mem_bindingsAt.1 hb).1
  | tunnel _ hb => exact (mem_bindingsAt.1 hb).1

theorem mem_ruleParts {r : Rule} : part ∈ ruleParts c s r ↔
    s.bindingsAt (.rule r.id) c.node.id ≠ [] ∧ s.ruleConsumers r.id c.node.id c.now ≠ [] ∧
      ((∃ u ∈ s.ruleConsumers r.id c.node.id c.now, part = .consumer u) ∨
        ∃ b ∈ s.bindingsAt (.rule r.id) c.node.id, part ∈ bindingParts c (rulePrincipal c s r) b) := by
  unfold ruleParts
  dsimp only
  split
  next h =>
    rw [Bool.or_eq_true, List.isEmpty_iff, List.isEmpty_iff] at h
    refine ⟨nofun, fun ⟨hbindings, hconsumers, _⟩ => ?_⟩
    exact (h.elim hbindings hconsumers).elim
  next h =>
    rw [Bool.or_eq_true, List.isEmpty_iff, List.isEmpty_iff, not_or] at h
    rw [and_iff_right h.1, and_iff_right h.2, List.mem_append, List.mem_map, List.mem_flatMap]
    simp only [eq_comm]

theorem mem_tunnelParts {t : Tunnel} : part ∈ tunnelParts c s t ↔
    (c.node.id = t.sourceNodeId ∧ part = .forward t) ∨
      (c.node.id = t.destNodeId ∧ part = .consumer (tunnelUser t)) ∨
        ∃ b ∈ s.bindingsAt (.tunnel t.id) c.node.id, part ∈ bindingParts c (tunnelPrincipal t) b := by
  unfold tunnelParts
  rw [List.mem_append, List.mem_append, List.mem_ite_nil_right, List.mem_ite_nil_right,
    List.mem_singleton, List.mem_singleton, List.mem_flatMap, or_assoc]

/-- **every part is a consumer of a rule, an end of a tunnel or a part of a hop** -/
theorem mem_partsOf : part ∈ partsOf c s ↔
    (∃ r ∈ s.rules.records, s.bindingsAt (.rule r.id) c.node.id ≠ [] ∧
      ∃ u ∈ s.ruleConsumers r.id c.node.id c.now, part = .consumer u) ∨
    (∃ t ∈ s.tunnels.records, (c.node.id = t.sourceNodeId ∧ part = .forward t) ∨
      (c.node.id = t.destNodeId ∧ part = .consumer (tunnelUser t))) ∨
    ∃ p b, Hop c s p b ∧ part ∈ bindingParts c p b := by
  unfold partsOf
  rw [List.mem_append, List.mem_flatMap, List.mem_flatMap]
  constructor
  · rintro (⟨r, hr, hpart⟩ | ⟨t, ht, hpart⟩)
    · obtain ⟨hbindings, hlive, hu | ⟨b, hb, hpart⟩⟩ := mem_ruleParts.1 hpart
      · exact Or.inl ⟨r, hr, hbindings, hu⟩
      · exact Or.inr (Or.inr ⟨_, b, .rule hr hlive hb, hpart⟩)
    · rcases mem_tunnelParts.1 hpart with hsource | hdest | ⟨b, hb, hpart⟩
      · exact Or.inr (Or.inl ⟨t, ht, Or.inl hsource⟩)
      · exact Or.inr (Or.inl ⟨t, ht, Or.inr hdest⟩)
      · exact Or.inr (Or.inr ⟨_, b, .tunnel ht hb, hpart⟩)
  · rintro (⟨r, hr, hbindings, u, hu, hpart⟩ | ⟨t, ht, hend⟩ | ⟨p, b, hhop, hpart⟩)
    · exact Or.inl ⟨r, hr, mem_ruleParts.2
        ⟨hbindings, List.ne_nil_of_mem hu, Or.inl ⟨u, hu, hpart⟩⟩⟩
    · exact Or.inr ⟨t, ht, mem_tunnelParts.2 (hend.imp_right Or.inl)⟩
    · cases hhop with
      | @rule r _ hr hlive hb =>
        exact Or.inl ⟨r, hr, mem_ruleParts.2
          ⟨List.ne_nil_of_mem hb, hlive, Or.inr ⟨b, hb, hpart⟩⟩⟩
      | @tunnel t _ ht hb =>
        exact Or.inr ⟨t, ht, mem_tunnelParts.2 (Or.inr (Or.inr ⟨b, hb, hpart⟩))⟩

/-! ## the parts of a hop -/

theorem mem_reverseParts {portal : Id} {a : Allocation} : part ∈ reverseParts c p b portal a ↔
    (c.node.id = portal ∧ part ∈ portalParts c p b a) ∨
      (c.node.id = b.nodeId ∧ part ∈ bridgeParts c p b portal a) := by
  unfold reverseParts
  rw [List.mem_append, List.mem_ite_nil_right, List.mem_ite_nil_right]

theorem mem_bindingParts : part ∈ bindingParts c p b ↔
    (b.portalNodeId = none ∧ b.nodeId = c.node.id ∧ b.shares ≠ [] ∧ part ∈ directParts c p b) ∨
      ∃ portal, b.portalNodeId = some portal ∧ ∃ a ∈ b.shares,
        (c.node.id = portal ∧ part ∈ portalParts c p b a) ∨
          (c.node.id = b.nodeId ∧ part ∈ bridgeParts c p b portal a) := by
  unfold bindingParts
  cases b.portalNodeId with
  | none =>
    rw [List.mem_ite_nil_right]
    simp [and_assoc]
  | some portal => simp [List.mem_flatMap, mem_reverseParts]

theorem mem_bridgeParts {portal : Id} {a : Allocation} : part ∈ bridgeParts c p b portal a ↔
    interconnectEntries c p b portal a ≠ [] ∧
      (part = .outbounds (interconnectEntries c p b portal a) ∨
        part = .bridge (bridgeLink c b portal a)) := by
  unfold bridgeParts
  dsimp only
  split
  next h => simp [List.isEmpty_iff.1 h]
  next h =>
    rw [and_iff_right (mt List.isEmpty_iff.2 h)]
    simp

theorem mem_directParts : part ∈ directParts c p b ↔
    c.outboundEntries b (directTag b) p.user ≠ [] ∧
      (part = .outbounds (c.outboundEntries b (directTag b) p.user) ∨
        ∃ a ∈ b.shares, part = .member b.scope a.balancer (directTag b) a.weight) := by
  unfold directParts
  dsimp only
  split
  next h => simp [List.isEmpty_iff.1 h]
  next h =>
    rw [and_iff_right (mt List.isEmpty_iff.2 h)]
    simp [eq_comm]

theorem mem_portalParts {a : Allocation} : part ∈ portalParts c p b a ↔
    part = .portal (portalLink c p b a) ∨ part = .consumer (reverseUser p.seed b a.balancer) ∨
      part = .member b.scope a.balancer (reverseTag b .portal b.nodeId a) a.weight := by
  unfold portalParts
  simp

theorem portal_mem_bindingParts {link : PortalLink} : .portal link ∈ bindingParts c p b ↔
    b.portalNodeId = some c.node.id ∧ ∃ a ∈ b.shares, link = portalLink c p b a := by
  rw [mem_bindingParts]
  simp only [mem_directParts, mem_portalParts, mem_bridgeParts, reduceCtorEq, Part.portal.injEq,
    and_false, false_or, or_false, exists_false]
  constructor
  · rintro ⟨portal, hportal, a, ha, rfl, hlink⟩
    exact ⟨hportal, a, ha, hlink⟩
  · rintro ⟨hportal, a, ha, hlink⟩
    exact ⟨_, hportal, a, ha, rfl, hlink⟩

theorem bridge_mem_bindingParts {link : BridgeLink} : .bridge link ∈ bindingParts c p b ↔
    b.nodeId = c.node.id ∧ ∃ portal, b.portalNodeId = some portal ∧ ∃ a ∈ b.shares,
      interconnectEntries c p b portal a ≠ [] ∧ link = bridgeLink c b portal a := by
  rw [mem_bindingParts]
  simp only [mem_directParts, mem_portalParts, mem_bridgeParts, reduceCtorEq, Part.bridge.injEq,
    and_false, false_or, exists_false]
  constructor
  · rintro ⟨portal, hportal, a, ha, hnode, hlink⟩
    exact ⟨hnode.symm, portal, hportal, a, ha, hlink⟩
  · rintro ⟨hnode, portal, hportal, a, ha, hlink⟩
    exact ⟨portal, hportal, a, ha, hnode.symm, hlink⟩

theorem consumer_mem_bindingParts {u : User} : .consumer u ∈ bindingParts c p b ↔
    b.portalNodeId = some c.node.id ∧ ∃ a ∈ b.shares, u = reverseUser p.seed b a.balancer := by
  rw [mem_bindingParts]
  simp only [mem_directParts, mem_portalParts, mem_bridgeParts, reduceCtorEq, Part.consumer.injEq,
    and_false, false_or, or_false, exists_false]
  constructor
  · rintro ⟨portal, hportal, a, ha, rfl, hu⟩
    exact ⟨hportal, a, ha, hu⟩
  · rintro ⟨hportal, a, ha, hu⟩
    exact ⟨_, hportal, a, ha, rfl, hu⟩

theorem outbounds_mem_bindingParts {portal : Id} {a : Allocation} (hnode : b.nodeId = c.node.id)
    (hportal : b.portalNodeId = some portal) (ha : a ∈ b.shares)
    (hsome : interconnectEntries c p b portal a ≠ []) :
    .outbounds (interconnectEntries c p b portal a) ∈ bindingParts c p b :=
  mem_bindingParts.2 (Or.inr ⟨portal, hportal, a, ha,
    Or.inr ⟨hnode.symm, mem_bridgeParts.2 ⟨hsome, Or.inl rfl⟩⟩⟩)

theorem member_mem_bindingParts {scope : Scope} {balancer tag : String} {weight : Nat}
    (h : .member scope balancer tag weight ∈ bindingParts c p b) :
    ∃ a ∈ b.shares, scope = b.scope ∧ balancer = a.balancer ∧
      ((b.portalNodeId = none ∧ b.nodeId = c.node.id ∧ tag = directTag b) ∨
        (b.portalNodeId = some c.node.id ∧ tag = reverseTag b .portal b.nodeId a)) := by
  rw [mem_bindingParts] at h
  simp only [mem_directParts, mem_portalParts, mem_bridgeParts, reduceCtorEq, Part.member.injEq,
    and_false, false_or, or_false] at h
  rcases h with ⟨hdirect, hnode, -, -, a, ha, hscope, hbalancer, htag, -⟩ |
    ⟨portal, hportal, a, ha, rfl, hscope, hbalancer, htag, -⟩
  · exact ⟨a, ha, hscope, hbalancer, Or.inl ⟨hdirect, hnode, htag⟩⟩
  · exact ⟨a, ha, hscope, hbalancer, Or.inr ⟨hportal, htag⟩⟩

end
end ProxyMesh
