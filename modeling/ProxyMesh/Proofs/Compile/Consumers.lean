import ProxyMesh.Proofs.Compile.Contents
import ProxyMesh.Proofs.Compile.Documents
import ProxyMesh.Proofs.User.Emails

/-!
# Who may enter a node

The users of a node's inbounds are collected from rules, tunnels and reverse links into a map by
e-mail, where two users with one e-mail would become one.  That never happens: the store decides the
user behind every name, and an e-mail says the name.

* `MayEnter`                  who is let in, and why;
* `userNamed`                 the user that the store has for a name;
* `consumer_mem_partsOf`      the consumers among the parts of a compile;
* `userNamed_of_mayEnter`     nobody is let in under the name of another;
* `mem_usersOf`               **the users of a node are those who may enter**;
* `compile_consumers`         **the inbounds of every compile that succeeds let in exactly these**.
-/

namespace ProxyMesh

/-- who may enter the node of `c`, and why -/
inductive MayEnter (c : Context) (s : Store) : User → Prop where
  /-- a consumer of a rule with a hop that starts or ends at the node -/
  | consumer {r : Rule} {b : Binding} {u : User} (hr : r ∈ s.rules.records)
      (hb : b ∈ s.bindings.records) (hscope : b.scope = .rule r.id)
      (hnode : b.nodeId = c.node.id ∨ b.portalNodeId = some c.node.id)
      (hu : u ∈ s.ruleConsumers r.id c.node.id c.now) : MayEnter c s u
  /-- a bridge that reaches its portal here, for a rule that has consumers -/
  | ruleLink {r : Rule} {b : Binding} {a : Allocation} (hr : r ∈ s.rules.records)
      (hlive : s.ruleConsumers r.id c.node.id c.now ≠ []) (hb : b ∈ s.bindings.records)
      (hscope : b.scope = .rule r.id) (hportal : b.portalNodeId = some c.node.id)
      (ha : a ∈ b.allocations) (hweight : 0 < a.weight) :
      MayEnter c s (reverseUser c.site.reverseSeed b a.balancer)
  /-- a bridge that reaches its portal here, for a tunnel -/
  | tunnelLink {t : Tunnel} {b : Binding} {a : Allocation} (ht : t ∈ s.tunnels.records)
      (hb : b ∈ s.bindings.records) (hscope : b.scope = .tunnel t.id)
      (hportal : b.portalNodeId = some c.node.id) (ha : a ∈ b.allocations) (hweight : 0 < a.weight) :
      MayEnter c s (reverseUser t.seed b a.balancer)
  /-- the source of a tunnel that ends here -/
  | tunnel {t : Tunnel} (ht : t ∈ s.tunnels.records) (hdest : t.destNodeId = c.node.id) :
      MayEnter c s (tunnelUser t)

/-- the user that the store has for a name -/
def userNamed (c : Context) (s : Store) : UserName → Option User
  | .period id profile => (s.profiles.get? profile).map fun p => .period id profile p.proxyUuid
  | .internal rule node => (s.internalUsers.get? (rule, node)).map .ofInternal
  | .ruleLink binding allocation =>
    (s.bindings.get? binding).map (reverseUser c.site.reverseSeed · allocation)
  | .tunnelLink binding allocation => do
    let b ← s.bindings.get? binding
    let t ← s.tunnels.get? b.scope.id
    pure (reverseUser t.seed b allocation)
  | .tunnel id => (s.tunnels.get? id).map tunnelUser

section
variable {c : Context} {s : Store} {u v : User} {b : Binding} {a : Allocation}

theorem mem_shares : a ∈ b.shares ↔ a ∈ b.allocations ∧ 0 < a.weight := by
  unfold Binding.shares
  rw [List.mem_filter, decide_eq_true_iff]

/-! ## the parts -/

theorem mayEnter_of_hop {p : Principal} (hhop : Hop c s p b) (hpart : .consumer u ∈ bindingParts c p b) :
    MayEnter c s u := by
  obtain ⟨hportal, a, ha, rfl⟩ := consumer_mem_bindingParts.1 hpart
  obtain ⟨ha, hweight⟩ := mem_shares.1 ha
  cases hhop with
  | rule hr hlive hb =>
    obtain ⟨hb, hscope, -⟩ := mem_bindingsAt.1 hb
    exact .ruleLink hr hlive hb hscope hportal ha hweight
  | tunnel ht hb =>
    obtain ⟨hb, hscope, -⟩ := mem_bindingsAt.1 hb
    exact .tunnelLink ht hb hscope hportal ha hweight

theorem consumer_mem_partsOf : .consumer u ∈ partsOf c s ↔ MayEnter c s u := by
  constructor
  · intro h
    rcases mem_partsOf.1 h with ⟨r, hr, hbindings, v, hv, hu⟩ | ⟨t, ht, ⟨-, hu⟩ | ⟨hdest, hu⟩⟩ |
      ⟨p, b, hhop, hpart⟩
    · obtain ⟨b, hb⟩ := List.exists_mem_of_ne_nil _ hbindings
      obtain ⟨hb, hscope, hnode⟩ := mem_bindingsAt.1 hb
      obtain rfl := Part.consumer.inj hu
      exact .consumer hr hb hscope hnode hv
    · cases hu
    · obtain rfl := Part.consumer.inj hu
      exact .tunnel ht hdest.symm
    · exact mayEnter_of_hop hhop hpart
  · intro h
    rw [mem_partsOf]
    cases h with
    | consumer hr hb hscope hnode hu =>
      have hbindings := List.ne_nil_of_mem (mem_bindingsAt.2 ⟨hb, hscope, hnode⟩)
      exact Or.inl ⟨_, hr, hbindings, u, hu, rfl⟩
    | ruleLink hr hlive hb hscope hportal ha hweight =>
      refine Or.inr (Or.inr ⟨_, _, .rule hr hlive (mem_bindingsAt.2 ⟨hb, hscope, Or.inr hportal⟩), ?_⟩)
      exact consumer_mem_bindingParts.2 ⟨hportal, _, mem_shares.2 ⟨ha, hweight⟩, rfl⟩
    | tunnelLink ht hb hscope hportal ha hweight =>
      refine Or.inr (Or.inr ⟨_, _, .tunnel ht (mem_bindingsAt.2 ⟨hb, hscope, Or.inr hportal⟩), ?_⟩)
      exact consumer_mem_bindingParts.2 ⟨hportal, _, mem_shares.2 ⟨ha, hweight⟩, rfl⟩
    | tunnel ht hdest => exact Or.inr (Or.inl ⟨_, ht, Or.inr ⟨hdest.symm, rfl⟩⟩)

/-! ## names -/

theorem periodUser_eq_some_iff {rule : Id} {now : Nat} {p : Period} :
    s.periodUser? rule now p = some u ↔ ∃ profile plan,
      s.profiles.get? p.profileId = some profile ∧ s.plans.get? p.planId = some plan ∧
        plan.ruleId = rule ∧ isConnectable p profile plan now = true ∧
        u = .period p.id profile.id profile.proxyUuid := by
  unfold Store.periodUser?
  constructor
  · intro h
    split at h
    next plan profile hplan hprofile =>
      split at h
      next hif =>
        obtain ⟨hrule, hconnectable⟩ := Bool.and_eq_true_iff.1 hif
        exact ⟨profile, plan, hprofile, hplan, eq_of_beq hrule, hconnectable,
          (Option.some.inj h).symm⟩
      · cases h
    · cases h
  · rintro ⟨profile, plan, hprofile, hplan, rfl, hconnectable, rfl⟩
    rw [hprofile, hplan]
    exact if_pos (by rw [beq_self_eq_true, hconnectable]; rfl)

/-- a consumer of a rule is a connectable period or an active user of another node -/
theorem mem_ruleConsumers {rule node : Id} {now : Nat} : u ∈ s.ruleConsumers rule node now ↔
    (∃ p ∈ s.periods.records, s.periodUser? rule now p = some u) ∨
      ∃ i ∈ s.internalUsers.records, i.ruleId = rule ∧ i.isActive = true ∧ i.nodeId ≠ node ∧
        u = .ofInternal i := by
  unfold Store.ruleConsumers Store.isConsumer
  rw [List.mem_append, List.mem_filterMap, List.mem_map]
  simp only [List.mem_filter, Bool.and_eq_true, beq_iff_eq, bne_iff_ne, and_assoc, @eq_comm _ u]

theorem userNamed_of_ruleConsumers {rule node : Id} {now : Nat}
    (h : u ∈ s.ruleConsumers rule node now) : userNamed c s u.name = some u := by
  rcases mem_ruleConsumers.1 h with ⟨p, -, hp⟩ | ⟨i, hi, -, -, -, rfl⟩
  · obtain ⟨profile, plan, hprofile, -, -, -, rfl⟩ := periodUser_eq_some_iff.1 hp
    rw [← Table.key_of_get? hprofile] at hprofile
    exact Option.map_eq_some_iff.2 ⟨profile, hprofile, rfl⟩
  · exact Option.map_eq_some_iff.2 ⟨i, Table.mem_records.1 hi, rfl⟩

theorem userNamed_of_mayEnter (h : MayEnter c s u) : userNamed c s u.name = some u := by
  cases h with
  | consumer _ _ _ _ hu => exact userNamed_of_ruleConsumers hu
  | @ruleLink _ b _ _ _ hb hscope =>
    rw [User.name_ruleLink hscope]
    exact Option.map_eq_some_iff.2 ⟨b, Table.mem_records.1 hb, rfl⟩
  | @tunnelLink t b _ ht hb hscope =>
    have htunnel : s.tunnels.get? b.scope.id = some t := by
      rw [hscope]
      exact Table.mem_records.1 ht
    rw [User.name_tunnelLink hscope]
    refine Option.bind_eq_some_iff.2 ⟨b, Table.mem_records.1 hb, ?_⟩
    exact Option.bind_eq_some_iff.2 ⟨t, htunnel, rfl⟩
  | tunnel ht => exact Option.map_eq_some_iff.2 ⟨_, Table.mem_records.1 ht, rfl⟩

theorem eq_of_email_eq (hu : MayEnter c s u) (hv : MayEnter c s v) (h : c.email u = c.email v) :
    u = v := by
  have hname : u.name = v.name := User.email_eq_iff.1 h
  have hnamed := userNamed_of_mayEnter hu
  rw [hname, userNamed_of_mayEnter hv] at hnamed
  exact (Option.some.inj hnamed).symm

/-! ## the users of a node -/

theorem mem_consumers {record : String × User} : record ∈ (draftOf c s).1.consumers.records ↔
    record.1 = c.email record.2 ∧ MayEnter c s record.2 := by
  rw [consumers_draftOf, Table.mem_putAll_empty, List.mem_map]
  · simp only [Part.mem_users, consumer_mem_partsOf]
    constructor
    · rintro ⟨u, hu, rfl⟩
      exact ⟨rfl, hu⟩
    · rintro ⟨hemail, hu⟩
      exact ⟨record.2, hu, Prod.ext hemail.symm rfl⟩
  · intro x hx y hy hkey
    obtain ⟨u, hu, rfl⟩ := List.mem_map.1 hx
    obtain ⟨v, hv, rfl⟩ := List.mem_map.1 hy
    rw [Part.mem_users, consumer_mem_partsOf] at hu hv
    rw [eq_of_email_eq hu hv hkey]

/-- **the users of a node are those who may enter** -/
theorem mem_usersOf : u ∈ usersOf c s ↔ MayEnter c s u := by
  unfold usersOf
  rw [List.mem_map]
  constructor
  · rintro ⟨record, hrecord, rfl⟩
    exact (mem_consumers.1 hrecord).2
  · intro hu
    exact ⟨(c.email u, u), mem_consumers.2 ⟨rfl, hu⟩, rfl⟩

theorem pairwise_usersOf (c : Context) (s : Store) :
    (usersOf c s).Pairwise fun u v => c.email u < c.email v := by
  refine List.pairwise_map.2 ((draftOf c s).1.consumers.ascending.imp_of_mem fun hx hy hbefore => ?_)
  rw [← (mem_consumers.1 hx).1, ← (mem_consumers.1 hy).1]
  exact of_decide_eq_true hbefore

theorem connectable_of_mayEnter {period profile : Id} {uuid : String}
    (h : MayEnter c s (.period period profile uuid)) :
    ∃ p f plan, s.periods.get? period = some p ∧ s.profiles.get? p.profileId = some f ∧
      s.plans.get? p.planId = some plan ∧ isConnectable p f plan c.now = true := by
  cases h with
  | consumer _ _ _ _ hu =>
    rcases mem_ruleConsumers.1 hu with ⟨p, hp, hsome⟩ | ⟨i, -, -, -, -, hi⟩
    · obtain ⟨f, plan, hf, hplan, -, hconnectable, heq⟩ := periodUser_eq_some_iff.1 hsome
      obtain ⟨rfl, -, -⟩ := User.period.inj heq
      exact ⟨p, f, plan, Table.mem_records.1 hp, hf, hplan, hconnectable⟩
    · cases hi

theorem active_of_mayEnter {rule node : Id} {uuid : String}
    (h : MayEnter c s (.internal rule node uuid)) :
    node ≠ c.node.id ∧ ∃ i, s.internalUsers.get? (rule, node) = some i ∧ i.isActive = true := by
  cases h with
  | consumer _ _ _ _ hu =>
    rcases mem_ruleConsumers.1 hu with ⟨p, -, hsome⟩ | ⟨i, hi, -, hactive, hnode, heq⟩
    · obtain ⟨_, _, -, -, -, -, heq⟩ := periodUser_eq_some_iff.1 hsome
      cases heq
    · obtain ⟨rfl, rfl, -⟩ := User.internal.inj heq
      exact ⟨hnode, i, Table.mem_records.1 hi, hactive⟩

end

/-- the users that the inbounds of a document let in -/
structure LetsIn (c : Context) (s : Store) (users : List User) (doc : Fields) : Prop where
  /-- the inbounds of each type are rendered with the users, after those of the base document; the rest
  are the fixed ones and the starts of tunnels -/
  inbounds : ∃ rest, itemsOf "inbounds" doc = itemsOf "inbounds" (baseFields c) ++
    s.inboundTypes.records.flatMap (c.inboundObjects users) ++ rest
  ascending : users.Pairwise fun u v => c.email u < c.email v
  exactly : ∀ u, u ∈ users ↔ MayEnter c s u
  periods : ∀ period profile uuid, .period period profile uuid ∈ users →
    ∃ p f plan, s.periods.get? period = some p ∧ s.profiles.get? p.profileId = some f ∧
      s.plans.get? p.planId = some plan ∧ isConnectable p f plan c.now = true
  internals : ∀ rule node uuid, .internal rule node uuid ∈ users →
    node ≠ c.node.id ∧ ∃ i, s.internalUsers.get? (rule, node) = some i ∧ i.isActive = true

/-- **The inbounds of every compile that succeeds let in exactly those who may enter**, in the order of
their e-mails and once each. -/
theorem compile_consumers {s s' : Store} {o : Options} {node : Node} {now : Nat} {a : Artifacts}
    (hnode : s.nodes.get? node.id = some node) (h : compile s o node.id now = (.ok a, s')) :
    a.configText = Json.pretty (.obj (documentOf (s.contextOf o node now) s)) ∧
      LetsIn (s.contextOf o node now) s (usersOf (s.contextOf o node now) s)
        (documentOf (s.contextOf o node now) s) := by
  obtain ⟨htext, -, hmerged⟩ := compile_document hnode h
  refine ⟨htext, ?_, pairwise_usersOf _ _, fun _ => mem_usersOf, fun _ _ _ hu => ?_,
    fun _ _ _ hu => ?_⟩
  · rw [hmerged.inbounds, inboundsOf, List.append_assoc, ← List.append_assoc]
    exact ⟨_, rfl⟩
  · exact connectable_of_mayEnter (mem_usersOf.1 hu)
  · exact active_of_mayEnter (mem_usersOf.1 hu)

/-! ## a gate with users of every kind -/

/-- as many bytes and seconds as a period of the plan may use -/
def gatePlan : Plan :=
  ⟨1, 7, "type_simple_strict1",
    .ofFields [("total_usage_limit_bytes", .ofNat 100), ("expiry_seconds", .ofNat 60)]⟩

/-- the period that is not current and the users that are not active, or the node's own, stay out, and
so does the bridge whose allocation carries no traffic -/
def gateStore : Store := { hubStore with
  inboundTypes := .ofList [⟨"main", true, false, "\x7b\x7d", "\x7b\x7d"⟩]
  bindings := .ofList [
    ⟨1, "direct", .rule 7, 1, none, freedom, [⟨"main", 1⟩]⟩,
    ⟨3, "portal", .rule 7, 2, some 1, freedom, [⟨"main", 3⟩, ⟨"spare", 0⟩]⟩,
    ⟨4, "tunnel", .tunnel 5, 2, some 1, freedom, [⟨"main", 1⟩]⟩]
  tunnels := .ofList [⟨5, 2, 1, 7000, "10.0.0.1", 80, "main", ""⟩]
  profiles := .ofList [⟨1, true, "profile"⟩]
  plans := .ofList [gatePlan]
  periods := .ofList [
    ⟨1, 1, 1, .null, true, .none, .initial, none⟩, ⟨2, 1, 1, .null, false, .none, .initial, none⟩]
  internalUsers := .ofList [
    ⟨7, 1, true, "", .none⟩, ⟨7, 2, true, "", .none⟩, ⟨7, 3, false, "", .none⟩] }

def gateContext : Context := gateStore.contextOf ⟨"/srv", ""⟩ hub 0

theorem compile_consumers_gate :
    (usersOf gateContext gateStore).map gateContext.email =
        ["period1.profile1@relaygrid.local", "reverse3.main@relaygrid.local",
          "rule7.node2@relaygrid.local", "treverse4.main@relaygrid.local",
          "tunnel5@relaygrid.local"] ∧
      ∃ a s', compile gateStore ⟨"/srv", ""⟩ hub.id 0 = (.ok a, s') ∧
        a.configText = Json.pretty (.obj (documentOf gateContext gateStore)) ∧
        LetsIn gateContext gateStore (usersOf gateContext gateStore)
          (documentOf gateContext gateStore) := by
  have hnode : gateStore.nodes.get? hub.id = some hub := by decide +kernel
  have hstarts : gateStore.refusal? ⟨"/srv", ""⟩ hub.id = none := by decide +kernel
  obtain ⟨a, s', hok⟩ := compile_of_refusal hstarts 0
  exact ⟨by decide +kernel, a, s', hok, compile_consumers hnode hok⟩

end ProxyMesh
