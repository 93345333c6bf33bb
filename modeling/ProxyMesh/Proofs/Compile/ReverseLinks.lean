import ProxyMesh.Proofs.Compile.Consumers
import ProxyMesh.Proofs.Tag.Codec

/-!
# The two halves of a reverse link agree

A reverse link is compiled twice, on its bridge and on its portal, each time from a draft of its own
with other rules and other consumers.  What the halves share is derived from the scope, the binding and
the allocation, so they fit whenever both are made.

* `Live`                a scope that somebody uses, with the seed of its credentials;
* `hop_of_live`         a binding of a live scope is worked on at both of its ends;
* `BridgeHalf`, `PortalHalf`   the entries, rules and outbounds of a half in a document;
* `bridgeHalf_of_hop`, `portalHalf_of_hop`   each end of a hop makes its half;
* `HalvesAgree`         the halves share domain and credentials, and their tags name each other;
* `reverse_halves_agree`   **the halves of every link that both nodes compile agree**.
-/

namespace ProxyMesh

/-- a tunnel, or a rule with a period that can be connected; the seed is that of its reverse links -/
inductive Live (s : Store) (now : Nat) : Scope → String → Prop where
  | rule {r : Rule} {p : Period} {profile : Profile} {plan : Plan} (hr : r ∈ s.rules.records)
      (hp : p ∈ s.periods.records) (hprofile : s.profiles.get? p.profileId = some profile)
      (hplan : s.plans.get? p.planId = some plan) (hrule : plan.ruleId = r.id)
      (hconnectable : isConnectable p profile plan now = true) :
      Live s now (.rule r.id) s.siteSettings.reverseSeed
  | tunnel {t : Tunnel} (ht : t ∈ s.tunnels.records) : Live s now (.tunnel t.id) t.seed

/-- internal users give no scope its life, and take none -/
theorem Live.withUsers {s : Store} {now : Nat} {scope : Scope} {seed : String}
    (h : Live s now scope seed) (users : Table InternalUser) :
    Live (s.withUsers users) now scope seed := by
  cases h with
  | rule hr hp hprofile hplan hrule hconnectable =>
    exact .rule (s := s.withUsers users) hr hp hprofile hplan hrule hconnectable
  | tunnel ht => exact .tunnel (s := s.withUsers users) ht

/-- the bridge's half of a link in a document -/
structure BridgeHalf (doc : Fields) (l : BridgeLink) (objects : List Json) : Prop where
  entry : reverseEntry l.tag l.domain ∈ itemsOf "bridges" (fieldsOf "reverse" doc)
  rule : bridgeDomainRule l ∈ itemsOf "rules" (fieldsOf "routing" doc)
  interconnect : ∀ v ∈ Draft.tagFirst l.outbound objects, v ∈ itemsOf "outbounds" doc

/-- the portal's half of a link in a document -/
structure PortalHalf (doc : Fields) (m : PortalLink) : Prop where
  entry : reverseEntry m.tag m.domain ∈ itemsOf "portals" (fieldsOf "reverse" doc)
  rule : portalRule m ∈ itemsOf "rules" (fieldsOf "routing" doc)

/-- the halves of the link of an allocation fit together; `vars` is what the bridge renders its
outbound to the portal from, and `users` are those whom the portal lets in -/
structure HalvesAgree (b : Binding) (a : Allocation) (bridge portal : Id) (l : BridgeLink)
    (m : PortalLink) (vars : Json) (userDomain : String) (users : List User) : Prop where
  domain : l.domain = m.domain
  interconnect : l.outbound = interconnectTag l.tag
  bridgeTag : TagRef.decode? l.tag = some (.reverse b.scope .bridge b.id portal a.balancer)
  portalTag : TagRef.decode? m.tag = some (.reverse b.scope .portal b.id bridge a.balancer)
  credentials : ∃ v, vars.get? "user" = some v ∧ ∃ u ∈ users,
    v.text? "email" = some (u.email userDomain) ∧ v.text? "uuid" = some u.uuid ∧
      (portalRule m).texts? "user" = some [u.email userDomain]

section
variable {c : Context} {s : Store} {p : Principal} {b : Binding} {a : Allocation} {portal : Id}
  {seed : String} {balancers : List CompiledBalancer} {inbounds : List Json} {doc : Fields}

theorem hop_of_live (hlive : Live s c.now b.scope seed) (hsite : c.site = s.siteSettings)
    (hb : b ∈ s.bindings.records) (hnode : b.nodeId = c.node.id ∨ b.portalNodeId = some c.node.id) :
    ∃ p : Principal, p.seed = seed ∧ Hop c s p b := by
  generalize hscope : b.scope = scope at hlive
  cases hlive with
  | @rule r period profile plan hr hp hprofile hplan hrule hconnectable =>
    have huser := periodUser_eq_some_iff.2 ⟨profile, plan, hprofile, hplan, hrule, hconnectable, rfl⟩
    have hconsumers : s.ruleConsumers r.id c.node.id c.now ≠ [] :=
      List.ne_nil_of_mem (mem_ruleConsumers.2 (Or.inl ⟨period, hp, huser⟩))
    exact ⟨rulePrincipal c s r, congrArg Site.reverseSeed hsite,
      .rule hr hconsumers (mem_bindingsAt.2 ⟨hb, hscope, hnode⟩)⟩
  | @tunnel t ht =>
    exact ⟨tunnelPrincipal t, rfl, .tunnel ht (mem_bindingsAt.2 ⟨hb, hscope, hnode⟩)⟩

/-! ## the halves in a document -/

theorem bridgeHalf_of_mem {base : Fields} {d : Draft} {l : BridgeLink} {objects : List Json}
    (hmerged : Merged base d balancers inbounds doc) (hbase : HasMergeableReverse base)
    (hl : l ∈ d.bridges) (hobjects : ∀ v ∈ Draft.tagFirst l.outbound objects, v ∈ d.outbounds) :
    BridgeHalf doc l objects where
  entry := by
    rw [hmerged.bridges hbase]
    exact List.mem_append_right _ (List.mem_map.2 ⟨l, hl, rfl⟩)
  rule := by
    obtain ⟨rest, hrules⟩ := hmerged.rules
    rw [hrules]
    exact List.mem_append_left _ (List.mem_append_right _ (List.mem_map.2 ⟨l, hl, rfl⟩))
  interconnect := by
    intro v hv
    rw [hmerged.outbounds]
    exact List.mem_append_right _ (hobjects v hv)

theorem portalHalf_of_mem {base : Fields} {d : Draft} {m : PortalLink}
    (hmerged : Merged base d balancers inbounds doc) (hbase : HasMergeableReverse base)
    (hm : m ∈ d.portals) : PortalHalf doc m where
  entry := by
    rw [hmerged.portals hbase]
    exact List.mem_append_right _ (List.mem_map.2 ⟨m, hm, rfl⟩)
  rule := by
    obtain ⟨rest, hrules⟩ := hmerged.rules
    rw [hrules]
    exact List.mem_append_left _ (List.mem_append_left _ (List.mem_map.2 ⟨m, hm, rfl⟩))

theorem interconnectEntries_eq {objects : List Json}
    (hrender : c.outboundObjects b (interconnectTag (reverseTag b .bridge portal a))
      (reverseUser p.seed b a.balancer) = .ok objects) :
    interconnectEntries c p b portal a =
      Draft.tagFirst (interconnectTag (reverseTag b .bridge portal a)) objects := by
  unfold interconnectEntries Context.outboundEntries
  rw [hrender]

theorem tagFirst_ne_nil {tag : String} {objects : List Json} (h : objects ≠ []) :
    Draft.tagFirst tag objects ≠ [] := by
  cases objects with
  | nil => exact absurd rfl h
  | cons first rest => exact List.cons_ne_nil _ _

theorem bridgeHalf_of_hop {objects : List Json}
    (hmerged : Merged (baseFields c) (draftOf c s).1 balancers inbounds doc)
    (hbase : HasMergeableReverse (baseFields c)) (hhop : Hop c s p b) (hnode : b.nodeId = c.node.id)
    (hportal : b.portalNodeId = some portal) (ha : a ∈ b.shares)
    (hrender : c.outboundObjects b (interconnectTag (reverseTag b .bridge portal a))
      (reverseUser p.seed b a.balancer) = .ok objects) (hsome : objects ≠ []) :
    BridgeHalf doc (bridgeLink c b portal a) objects := by
  have hentries := interconnectEntries_eq hrender
  have hne : interconnectEntries c p b portal a ≠ [] := hentries ▸ tagFirst_ne_nil hsome
  refine bridgeHalf_of_mem hmerged hbase ?_ fun v hv => ?_
  · rw [bridges_draftOf, Part.mem_bridges]
    exact mem_partsOf.2 (Or.inr (Or.inr ⟨p, b, hhop,
      bridge_mem_bindingParts.2 ⟨hnode, portal, hportal, a, ha, hne, rfl⟩⟩))
  · rw [outbounds_draftOf, List.mem_flatMap]
    refine ⟨.outbounds (interconnectEntries c p b portal a), ?_, ?_⟩
    · exact mem_partsOf.2 (Or.inr (Or.inr ⟨p, b, hhop,
        outbounds_mem_bindingParts hnode hportal ha hne⟩))
    · rw [hentries]
      exact hv

theorem portalHalf_of_hop (hmerged : Merged (baseFields c) (draftOf c s).1 balancers inbounds doc)
    (hbase : HasMergeableReverse (baseFields c)) (hhop : Hop c s p b)
    (hportal : b.portalNodeId = some c.node.id) (ha : a ∈ b.shares) :
    PortalHalf doc (portalLink c p b a) ∧ reverseUser p.seed b a.balancer ∈ usersOf c s := by
  constructor
  · refine portalHalf_of_mem hmerged hbase ?_
    rw [portals_draftOf, Part.mem_portals]
    exact mem_partsOf.2 (Or.inr (Or.inr ⟨p, b, hhop,
      portal_mem_bindingParts.2 ⟨hportal, a, ha, rfl⟩⟩))
  · exact mem_usersOf.2 (mayEnter_of_hop hhop (consumer_mem_bindingParts.2 ⟨hportal, a, ha, rfl⟩))

/-! ## what the bridge is told of its user -/

theorem user_outboundVars (c : Context) (b : Binding) (tag : String) (u : User) :
    (c.outboundVars b tag u).get? "user" = some (c.userJson u) :=
  get?_ofFields (show ["env", "node", "tag", "user", "combo"].Nodup by decide) (by simp)

theorem email_userJson (c : Context) (u : User) :
    (c.userJson u).text? "email" = some (c.email u) :=
  text?_ofFields (show ["email", "uuid", "kind"].Nodup by decide) List.mem_cons_self

theorem uuid_userJson (c : Context) (u : User) : (c.userJson u).text? "uuid" = some u.uuid :=
  text?_ofFields (show ["email", "uuid", "kind"].Nodup by decide) (by simp)

theorem user_portalRule (m : PortalLink) : (portalRule m).texts? "user" = some [m.email] :=
  texts?_ofFields (show ["type", "user", "outboundTag"].Nodup by decide) (by simp)

/-- links that are made for one seed and one site agree -/
theorem halvesAgree {c' : Context} {p' : Principal} {users : List User}
    (hsite : c.site = c'.site) (hseed : p.seed = p'.seed)
    (huser : reverseUser p'.seed b a.balancer ∈ users) :
    HalvesAgree b a b.nodeId portal (bridgeLink c b portal a) (portalLink c' p' b a)
      (c.outboundVars b (interconnectTag (reverseTag b .bridge portal a))
        (reverseUser p.seed b a.balancer)) c.site.userDomain users where
  domain := by
    show linkDomain c b a = linkDomain c' b a
    unfold linkDomain
    rw [hsite]
  interconnect := rfl
  bridgeTag := TagRef.decode_encode _
  portalTag := TagRef.decode_encode _
  credentials := by
    refine ⟨_, user_outboundVars _ _ _ _, _, huser, ?_, ?_, ?_⟩
    · rw [email_userJson, hseed]
      rfl
    · rw [uuid_userJson, hseed]
    · rw [user_portalRule, hsite]
      rfl

end

/-- **The halves of a reverse link agree.**  Let a reverse binding and one of its allocations with
weight be given whose scope is live, on two nodes that compile and whose base documents can take
reverse links.  If the bridge's outbound template renders to anything, the bridge's document has its
half and the portal's document has the other, with one domain, with the bridge's credentials those of a
user whom the portal lets in and routes to the link, and with tags that name each other's node.  The
internal users may have changed between the two compiles. -/
theorem reverse_halves_agree {s s₁ s₂ : Store} {users : Table InternalUser} {o : Options}
    {bridge portal : Node} {now : Nat} {x y : Artifacts} {b : Binding} {a : Allocation} {seed : String}
    {objects : List Json}
    (hbridge : s.nodes.get? bridge.id = some bridge) (hportal : s.nodes.get? portal.id = some portal)
    (hx : compile s o bridge.id now = (.ok x, s₁))
    (hy : compile (s.withUsers users) o portal.id now = (.ok y, s₂))
    (hbridgeBase : HasMergeableReverse (baseFields (s.contextOf o bridge now)))
    (hportalBase : HasMergeableReverse (baseFields (s.contextOf o portal now)))
    (hb : b ∈ s.bindings.records) (hnode : b.nodeId = bridge.id)
    (hpeer : b.portalNodeId = some portal.id) (ha : a ∈ b.allocations) (hweight : 0 < a.weight)
    (hlive : Live s now b.scope seed)
    (hrender : (s.contextOf o bridge now).outboundObjects b
      (interconnectTag (reverseTag b .bridge portal.id a)) (reverseUser seed b a.balancer) =
        .ok objects) (hsome : objects ≠ []) :
    ∃ l m,
      x.configText = Json.pretty (.obj (documentOf (s.contextOf o bridge now) s)) ∧
      BridgeHalf (documentOf (s.contextOf o bridge now) s) l objects ∧
      y.configText =
        Json.pretty (.obj (documentOf (s.contextOf o portal now) (s.withUsers users))) ∧
      PortalHalf (documentOf (s.contextOf o portal now) (s.withUsers users)) m ∧
      HalvesAgree b a bridge.id portal.id l m
        ((s.contextOf o bridge now).outboundVars b l.outbound (reverseUser seed b a.balancer))
        s.siteSettings.userDomain (usersOf (s.contextOf o portal now) (s.withUsers users)) := by
  have hshare : a ∈ b.shares := mem_shares.2 ⟨ha, hweight⟩
  obtain ⟨hxtext, -, hxmerged⟩ := compile_document hbridge hx
  obtain ⟨hytext, -, hymerged⟩ := compile_document (s := s.withUsers users) hportal hy
  obtain ⟨p, rfl, hhop⟩ := hop_of_live (c := s.contextOf o bridge now) hlive rfl hb (Or.inl hnode)
  obtain ⟨p', hseed, hhop'⟩ := hop_of_live (c := s.contextOf o portal now) (hlive.withUsers users) rfl
    hb (Or.inr hpeer)
  obtain ⟨hhalf', huser⟩ := portalHalf_of_hop hymerged hportalBase hhop' hpeer hshare
  refine ⟨bridgeLink (s.contextOf o bridge now) b portal.id a, _, hxtext, ?_, hytext, hhalf', ?_⟩
  · exact bridgeHalf_of_hop hxmerged hbridgeBase hhop hnode hpeer hshare hrender hsome
  · rw [← hnode]
    exact halvesAgree (c := s.contextOf o bridge now) rfl hseed.symm huser

/-! ## a link between two nodes -/

def leaf : Node := ⟨2, "leaf", "amd64", none, true, .empty⟩

/-- the gate with the node at the other end of its links -/
def linkStore : Store := { gateStore with
  nodes := .ofList [hub, leaf]
  programs := .ofList [⟨"xray", [], [⟨1, "/opt/xray"⟩, ⟨2, "/opt/xray"⟩]⟩] }

/-- a link of the rule that is bridged by the leaf -/
def linkBinding : Binding :=
  ⟨3, "portal", .rule 7, 2, some 1, freedom, [⟨"main", 3⟩, ⟨"spare", 0⟩]⟩

theorem reverse_halves_agree_pair :
    ∃ x y s₁ s₂ l m objects,
      compile linkStore ⟨"/srv", ""⟩ leaf.id 0 = (.ok x, s₁) ∧
      compile (linkStore.withUsers s₁.internalUsers) ⟨"/srv", ""⟩ hub.id 0 = (.ok y, s₂) ∧
      BridgeHalf (documentOf (linkStore.contextOf ⟨"/srv", ""⟩ leaf 0) linkStore) l objects ∧
      PortalHalf (documentOf (linkStore.contextOf ⟨"/srv", ""⟩ hub 0)
        (linkStore.withUsers s₁.internalUsers)) m ∧
      HalvesAgree linkBinding ⟨"main", 3⟩ 2 1 l m
        ((linkStore.contextOf ⟨"/srv", ""⟩ leaf 0).outboundVars linkBinding l.outbound
          (reverseUser "" linkBinding "main")) "relaygrid.local"
        (usersOf (linkStore.contextOf ⟨"/srv", ""⟩ hub 0)
          (linkStore.withUsers s₁.internalUsers)) := by
  have hleaf : linkStore.nodes.get? leaf.id = some leaf := by decide +kernel
  have hhub : linkStore.nodes.get? hub.id = some hub := by decide +kernel
  have hleafStarts : linkStore.refusal? ⟨"/srv", ""⟩ leaf.id = none := by decide +kernel
  obtain ⟨x, s₁, hx⟩ := compile_of_refusal hleafStarts 0
  have hhubStarts : (linkStore.withUsers s₁.internalUsers).refusal? ⟨"/srv", ""⟩ hub.id = none := by
    rw [Store.refusal?_withUsers]
    decide +kernel
  obtain ⟨y, s₂, hy⟩ := compile_of_refusal hhubStarts 0
  have hprofile : linkStore.profiles.get? 1 = some ⟨1, true, "profile"⟩ := by decide +kernel
  have hplan : linkStore.plans.get? 1 = some gatePlan := by decide +kernel
  have hlive : Live linkStore 0 linkBinding.scope "" :=
    .rule (r := ⟨7, "rule", "", "", ""⟩) (p := ⟨1, 1, 1, .null, true, .none, .initial, none⟩)
      (by decide +kernel) (by decide +kernel) hprofile hplan rfl (by decide +kernel)
  have hrender : (linkStore.contextOf ⟨"/srv", ""⟩ leaf 0).outboundObjects linkBinding
      (interconnectTag (reverseTag linkBinding .bridge hub.id ⟨"main", 3⟩))
      (reverseUser "" linkBinding "main") = .ok [.obj [("protocol", .str "freedom")]] := by
    decide +kernel
  obtain ⟨l, m, -, hbridge, -, hportal, hagree⟩ := reverse_halves_agree hleaf hhub hx hy (Or.inl rfl)
    (Or.inl rfl) (b := linkBinding) (a := ⟨"main", 3⟩) (by decide +kernel) rfl rfl
    List.mem_cons_self (by decide) hlive hrender (List.cons_ne_nil _ _)
  exact ⟨x, y, s₁, s₂, l, m, _, hx, hy, hbridge, hportal, hagree⟩

end ProxyMesh
