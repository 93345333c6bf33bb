import ProxyMesh.Proofs.Balancing.Members
import ProxyMesh.Proofs.Compile.Drafts
import ProxyMesh.Proofs.Compile.Outcomes

/-!
# No reference of a compiled document is dangling

The rules and balancers of a document name its outbounds, inbounds, reverse links and balancers by
tag, and the runtime rejects a document that names what it does not have.

* `body_compileBalancers`, `body_renderInbounds`, `body_baseDocument`   what is rendered after the
  draft is complete leaves its links alone;
* `mem_compileBalancers`   a compiled balancer is the plan of a group of members;
* `documentOf`             the document of a node;
* `ReferencesClosed`       everything that the compiled part of a document names is in it;
* `closed_mergeDocument`   the document of a linked draft is closed;
* `compile_closed`         **every compile that succeeds gives a closed document**.
-/

namespace ProxyMesh

/-! ## after the draft -/

section
variable {c : Context} {s : Store} {d : Draft}

theorem body_strategyOf (c : Context) (d : Draft) (tag : String) (plan : Balancing.Plan)
    (definition : Option Balancer) : (strategyOf c d tag plan definition).2.body = d.body := by
  unfold strategyOf
  dsimp only
  split
  · rfl
  · split
    next hfragment => exact body_of_fragment hfragment
    next hfragment => exact body_of_fragment hfragment

/-- the balancer is the plan of one of the groups -/
def IsPlanOf (node : Id) (d : Draft) (b : CompiledBalancer) : Prop :=
  ∃ group, (b.tag, group) ∈ d.members.records ∧ group.plan node b.tag = some b.plan

theorem foldl_addBalancer {groups : List (String × Group)} {done : List CompiledBalancer} {d₀ : Draft}
    (hgroups : ∀ m ∈ groups, m ∈ d₀.members.records) (hdone : ∀ b ∈ done, IsPlanOf c.node.id d₀ b)
    (hbody : d.body = d₀.body) :
    (groups.foldl (addBalancer c s) (done, d)).2.body = d₀.body ∧
      ∀ b ∈ (groups.foldl (addBalancer c s) (done, d)).1, IsPlanOf c.node.id d₀ b := by
  induction groups generalizing done d with
  | nil => exact ⟨hbody, hdone⟩
  | cons m rest ih =>
    obtain ⟨tag, group⟩ := m
    have hrest : ∀ m ∈ rest, m ∈ d₀.members.records := fun m hm => hgroups m (List.mem_cons_of_mem _ hm)
    rw [List.foldl_cons]
    unfold addBalancer
    dsimp only
    split
    · exact ih hrest hdone hbody
    next plan hplan =>
      refine ih hrest (fun b hb => ?_) ((body_strategyOf _ _ _ _ _).trans hbody)
      rcases List.mem_append.1 hb with hb | hb
      · exact hdone b hb
      · rw [List.mem_singleton.1 hb]
        exact ⟨group, hgroups _ List.mem_cons_self, hplan⟩

theorem body_compileBalancers (c : Context) (s : Store) (d : Draft) :
    (compileBalancers c s d).2.body = d.body :=
  (foldl_addBalancer (fun _ hm => hm) (fun _ hb => absurd hb List.not_mem_nil) rfl).1

theorem mem_compileBalancers {b : CompiledBalancer} (hb : b ∈ (compileBalancers c s d).1) :
    IsPlanOf c.node.id d b :=
  (foldl_addBalancer (fun _ hm => hm) (fun _ hb => absurd hb List.not_mem_nil) rfl).2 b hb

theorem body_consumerParts (c : Context) (t : InboundType) (owner : String) (consumers : List User)
    (d : Draft) : (consumerParts c t owner consumers d).2.body = d.body := by
  unfold consumerParts
  generalize ([] : List String) = parts
  induction consumers generalizing parts d with
  | nil => rfl
  | cons user rest ih =>
    rw [List.foldl_cons]
    dsimp only
    split
    next hfragment => exact (ih _ _).trans (body_of_fragment hfragment)
    next hfragment => exact (ih _ _).trans (body_of_fragment hfragment)

theorem body_addInboundType (c : Context) (consumers : List User) (state : List Json × Draft)
    (t : InboundType) : (addInboundType c consumers state t).2.body = state.2.body := by
  obtain ⟨done, d⟩ := state
  unfold addInboundType
  dsimp only
  split
  · rfl
  · have hparts : (if t.isTemplate then (([] : List String), d)
        else consumerParts c t ("inbound " ++ t.name) consumers d).2.body = d.body := by
      split
      · rfl
      · exact body_consumerParts _ _ _ _ _
    split
    next hfragment => exact (body_of_fragment hfragment).trans hparts
    next hfragment => exact (body_of_fragment hfragment).trans hparts

theorem body_addFixedInbound (c : Context) (state : List Json × Draft) (i : FixedInbound) :
    (addFixedInbound c state i).2.body = state.2.body := by
  obtain ⟨done, d⟩ := state
  unfold addFixedInbound
  dsimp only
  split
  · split
    next hfragment => exact body_of_fragment hfragment
    next hfragment => exact body_of_fragment hfragment
  · rfl

/-- steps that leave the body alone leave it alone together -/
theorem body_foldl {α β : Type} {step : β × Draft → α → β × Draft}
    (hstep : ∀ state a, (step state a).2.body = state.2.body) (l : List α) (state : β × Draft) :
    (l.foldl step state).2.body = state.2.body :=
  foldl_keeps (fun state : β × Draft => state.2.body) hstep l state

/-- the inbounds of all types and the fixed ones -/
def plainInbounds (c : Context) (s : Store) (d : Draft) : List Json × Draft :=
  s.fixedInbounds.records.foldl (addFixedInbound c)
    (s.inboundTypes.records.foldl (addInboundType c (d.consumers.records.map (·.2))) ([], d))

theorem body_plainInbounds (c : Context) (s : Store) (d : Draft) :
    (plainInbounds c s d).2.body = d.body :=
  (body_foldl (body_addFixedInbound c) _ _).trans (body_foldl (body_addInboundType c _) _ _)

theorem body_renderInbounds (c : Context) (s : Store) (d : Draft) :
    (renderInbounds c s d).2.body = d.body :=
  body_plainInbounds c s d

/-- the forwarding inbounds come last, one for every tunnel that starts at the node -/
theorem renderInbounds_fst (c : Context) (s : Store) (d : Draft) :
    (renderInbounds c s d).1 = (plainInbounds c s d).1 ++ d.forwards.map forwardInbound := by
  rw [← Draft.forwards_of_body (body_plainInbounds c s d)]
  rfl

/-- the fields of the first object of a fragment -/
def firstFields : Option (List Json) → Fields
  | some (.obj fields :: _) => fields
  | _ => []

/-- the base document, which no draft has a part in -/
def baseFields (c : Context) : Fields :=
  (c.site.baseTemplate.map fun template =>
    firstFields (c.fragment template (c.varsWith [])).1.toOption).getD []

theorem body_baseDocument (c : Context) (d : Draft) : (baseDocument c d).2.body = d.body := by
  unfold baseDocument
  split
  · rfl
  · split
    next hfragment => exact body_of_fragment hfragment
    next hfragment => exact body_of_fragment hfragment

theorem baseDocument_fst (c : Context) (d : Draft) : (baseDocument c d).1 = baseFields c := by
  unfold baseDocument baseFields
  cases c.site.baseTemplate with
  | none => rfl
  | some template =>
    dsimp only
    rw [Option.map_some, Option.getD_some,
      ← fragment_fst d c .baseConfig "base config" template (c.varsWith [])]
    rcases d.fragment c .baseConfig "base config" template (c.varsWith []) with
      ⟨_ | _ | ⟨v, rest⟩, d'⟩
    · rfl
    · rfl
    · cases v <;> rfl

/-! ## the document of a node -/

def documentOf (c : Context) (s : Store) : Fields :=
  let (d, s) := draftOf c s
  let (balancers, d) := compileBalancers c s d
  let (inbounds, d) := renderInbounds c s d
  let (base, d) := baseDocument c d
  mergeDocument base d balancers inbounds

theorem buildArtifacts_document (c : Context) (s : Store) (path : String) (file : Option FileSpec) :
    (buildArtifacts c s path file).1.configText = Json.pretty (.obj (documentOf c s)) ∧
      (buildArtifacts c s path file).1.balancers =
        (compileBalancers c (draftOf c s).2 (draftOf c s).1).1 :=
  ⟨rfl, rfl⟩

theorem mergeDocument_of_body {d d' : Draft} (hbody : d'.body = d.body) (base : Fields)
    (balancers : List CompiledBalancer) (inbounds : List Json) :
    mergeDocument base d' balancers inbounds = mergeDocument base d balancers inbounds := by
  show mergeDocument base d'.body balancers inbounds = mergeDocument base d.body balancers inbounds
  rw [hbody]

/-- the balancers of the node -/
def balancersOf (c : Context) (s : Store) : List CompiledBalancer :=
  (compileBalancers c (draftOf c s).2 (draftOf c s).1).1

/-- what is rendered after the draft changes nothing that the draft puts into the document -/
theorem documentOf_rendered (c : Context) (s : Store) : documentOf c s =
    mergeDocument (baseFields c) (draftOf c s).1 (balancersOf c s)
      (renderInbounds c (draftOf c s).2 (compileBalancers c (draftOf c s).2 (draftOf c s).1).2).1 := by
  have hbalancers := body_compileBalancers c (draftOf c s).2 (draftOf c s).1
  have hinbounds := (body_renderInbounds c (draftOf c s).2
    (compileBalancers c (draftOf c s).2 (draftOf c s).1).2).trans hbalancers
  have hbase := (body_baseDocument c (renderInbounds c (draftOf c s).2
    (compileBalancers c (draftOf c s).2 (draftOf c s).1).2).2).trans hinbounds
  rw [← mergeDocument_of_body hbase, ← baseDocument_fst]
  rfl

theorem documentOf_eq (c : Context) (s : Store) :
    ∃ rendered, documentOf c s = mergeDocument (baseFields c) (draftOf c s).1 (balancersOf c s)
      (rendered ++ (draftOf c s).1.forwards.map forwardInbound) := by
  rw [documentOf_rendered, renderInbounds_fst,
    Draft.forwards_of_body (body_compileBalancers c (draftOf c s).2 (draftOf c s).1)]
  exact ⟨_, rfl⟩

/-! ## closed documents -/

/-- the document has an outbound with this tag, or a portal -/
def IsEndpoint (doc : Fields) (tag : String) : Prop :=
  HasTag (itemsOf "outbounds" doc) tag ∨ HasTag (itemsOf "portals" (fieldsOf "reverse" doc)) tag

/-- the rules that lead to a balancer -/
def balancerRules (d : Draft) (balancers : List CompiledBalancer) : List Json :=
  (d.bridges.filter fun b => hasBalancer balancers b.balancer).map bridgeCatchAllRule ++
    (d.forwards.filter fun t => hasBalancer balancers (forwardBalancer t)).map forwardRule

/-- the links of the draft and its balancers are in the document, with everything that they name -/
structure ReferencesClosed (d : Draft) (balancers : List CompiledBalancer) (doc : Fields) : Prop where
  /-- the compiled rules come first -/
  rules : ∃ rest, itemsOf "rules" (fieldsOf "routing" doc) =
    d.portals.map portalRule ++ d.bridges.map bridgeDomainRule ++ balancerRules d balancers ++ rest
  listed : ∀ b ∈ balancers, b.toJson ∈ itemsOf "balancers" (fieldsOf "routing" doc)
  selector : ∀ b ∈ balancers, ∃ tags, b.toJson.texts? "selector" = some tags ∧
    ∀ tag ∈ tags, IsEndpoint doc tag
  fallback : ∀ b ∈ balancers, ∀ v, b.toJson.get? "fallbackTag" = some v →
    ∃ tag, v = .str tag ∧ IsEndpoint doc tag
  portal : ∀ p ∈ d.portals, ∃ tag, (portalRule p).text? "outboundTag" = some tag ∧
    HasTag (itemsOf "portals" (fieldsOf "reverse" doc)) tag
  bridge : ∀ b ∈ d.bridges, ∀ rule ∈ [bridgeDomainRule b, bridgeCatchAllRule b],
    ∃ tag, rule.texts? "inboundTag" = some [tag] ∧
      HasTag (itemsOf "bridges" (fieldsOf "reverse" doc)) tag
  interconnect : ∀ b ∈ d.bridges, ∃ tag, (bridgeDomainRule b).text? "outboundTag" = some tag ∧
    HasTag (itemsOf "outbounds" doc) tag
  balancerTag : ∀ rule ∈ balancerRules d balancers, ∃ tag, rule.text? "balancerTag" = some tag ∧
    HasTag (itemsOf "balancers" (fieldsOf "routing" doc)) tag
  tunnel : ∀ t ∈ d.forwards, ∃ tag, (forwardRule t).texts? "inboundTag" = some [tag] ∧
    HasTag (itemsOf "inbounds" doc) tag

/-! ## what rules and balancers name -/

theorem outboundTag_portalRule (p : PortalLink) : (portalRule p).text? "outboundTag" = some p.tag :=
  text?_ofFields (show ["type", "user", "outboundTag"].Nodup by decide) (by simp)

theorem inboundTag_bridgeDomainRule (b : BridgeLink) :
    (bridgeDomainRule b).texts? "inboundTag" = some [b.tag] :=
  texts?_ofFields (show ["type", "inboundTag", "domain", "outboundTag"].Nodup by decide) (by simp)

theorem outboundTag_bridgeDomainRule (b : BridgeLink) :
    (bridgeDomainRule b).text? "outboundTag" = some b.outbound :=
  text?_ofFields (show ["type", "inboundTag", "domain", "outboundTag"].Nodup by decide) (by simp)

theorem inboundTag_bridgeCatchAllRule (b : BridgeLink) :
    (bridgeCatchAllRule b).texts? "inboundTag" = some [b.tag] :=
  texts?_ofFields (show ["type", "inboundTag", "balancerTag"].Nodup by decide) (by simp)

theorem balancerTag_bridgeCatchAllRule (b : BridgeLink) :
    (bridgeCatchAllRule b).text? "balancerTag" = some b.balancer :=
  text?_ofFields (show ["type", "inboundTag", "balancerTag"].Nodup by decide) (by simp)

theorem inboundTag_forwardRule (t : Tunnel) :
    (forwardRule t).texts? "inboundTag" = some [tunnelInboundTag t.id] :=
  texts?_ofFields (show ["type", "inboundTag", "balancerTag"].Nodup by decide) (by simp)

theorem balancerTag_forwardRule (t : Tunnel) :
    (forwardRule t).text? "balancerTag" = some (forwardBalancer t) :=
  text?_ofFields (show ["type", "inboundTag", "balancerTag"].Nodup by decide) (by simp)

theorem tag_forwardInbound (t : Tunnel) :
    (forwardInbound t).text? "tag" = some (tunnelInboundTag t.id) :=
  text?_ofFields (show ["tag", "listen", "port", "protocol", "settings"].Nodup by decide) (by simp)

/-- every balancer is named in key order, its fallback last if it has one -/
theorem toJson_fields (b : CompiledBalancer) :
    b.toJson.text? "tag" = some b.tag ∧ b.toJson.texts? "selector" = some b.plan.selector ∧
      b.toJson.get? "fallbackTag" = b.plan.fallback.map Json.str := by
  unfold CompiledBalancer.toJson
  cases b.plan.fallback with
  | none =>
    have hnodup : ["tag", "selector", "strategy"].Nodup := by decide
    refine ⟨text?_ofFields hnodup (by simp), texts?_ofFields hnodup (by simp), ?_⟩
    exact lookup_foldl_place_ne (by simp)
  | some tag =>
    have hnodup : ["tag", "selector", "strategy", "fallbackTag"].Nodup := by decide
    exact ⟨text?_ofFields hnodup (by simp), texts?_ofFields hnodup (by simp),
      get?_ofFields hnodup (by simp)⟩

end

/-! ## the document of a linked draft -/

section
variable {d : Draft} {base doc : Fields} {balancers : List CompiledBalancer} {rendered : List Json}
  {node : Id}

/-- what a member names is an outbound or a portal of the document -/
theorem isEndpoint_of_reaches (hbase : HasMergeableReverse base) {inbounds : List Json} {tag : String}
    (h : d.Reaches tag) : IsEndpoint (mergeDocument base d balancers inbounds) tag := by
  rcases h with ⟨v, hv, htag⟩ | ⟨p, hp, rfl⟩
  · refine Or.inl ⟨v, ?_, htag⟩
    rw [itemsOf_outbounds]
    exact List.mem_append_right _ hv
  · exact Or.inr (hasTag_portal hbase hp)

/-- the members of a balancer are members of its group -/
theorem reaches_of_selector (hlinked : d.Linked) {b : CompiledBalancer} (hb : IsPlanOf node d b)
    {tag : String} (htag : tag ∈ b.plan.selector) : d.Reaches tag := by
  obtain ⟨group, hgroup, hplan⟩ := hb
  obtain ⟨candidate, hc, rfl⟩ := List.mem_map.1 (Balancing.Plan.compile_selector hplan htag)
  exact hlinked.members _ hgroup candidate hc

theorem hasTag_balancer {inbounds : List Json} {tag : String} (h : hasBalancer balancers tag = true) :
    HasTag (itemsOf "balancers" (fieldsOf "routing" (mergeDocument base d balancers inbounds))) tag := by
  obtain ⟨b, hb, htag⟩ := List.any_eq_true.1 h
  obtain rfl : b.tag = tag := eq_of_beq htag
  refine ⟨b.toJson, ?_, (toJson_fields b).1⟩
  rw [itemsOf_balancers]
  exact List.mem_append_right _ (List.mem_map.2 ⟨b, hb, rfl⟩)

theorem closed_mergeDocument (hbase : HasMergeableReverse base) (hlinked : d.Linked)
    (hplans : ∀ b ∈ balancers, IsPlanOf node d b) :
    ReferencesClosed d balancers
      (mergeDocument base d balancers (rendered ++ d.forwards.map forwardInbound)) where
  rules := by
    refine ⟨d.templateRules ++ itemsOf "rules" (fieldsOf "routing" base), ?_⟩
    rw [itemsOf_rules]
    unfold routingRules balancerRules
    simp only [List.append_assoc]
  listed := by
    intro b hb
    rw [itemsOf_balancers]
    exact List.mem_append_right _ (List.mem_map.2 ⟨b, hb, rfl⟩)
  selector := by
    intro b hb
    exact ⟨b.plan.selector, (toJson_fields b).2.1, fun tag htag =>
      isEndpoint_of_reaches hbase (reaches_of_selector hlinked (hplans b hb) htag)⟩
  fallback := by
    intro b hb v hv
    rw [(toJson_fields b).2.2] at hv
    obtain ⟨tag, htag, rfl⟩ := Option.map_eq_some_iff.1 hv
    obtain ⟨group, hgroup, hplan⟩ := hplans b hb
    have hmember := Balancing.Plan.compile_fallback hplan htag
    exact ⟨tag, rfl, isEndpoint_of_reaches hbase
      (reaches_of_selector hlinked ⟨group, hgroup, hplan⟩ hmember)⟩
  portal := fun p hp => ⟨p.tag, outboundTag_portalRule p, hasTag_portal hbase hp⟩
  bridge := by
    intro b hb rule hrule
    refine ⟨b.tag, ?_, hasTag_bridge hbase hb⟩
    rcases List.mem_cons.1 hrule with rfl | hrule
    · exact inboundTag_bridgeDomainRule b
    · rw [List.mem_singleton.1 hrule]
      exact inboundTag_bridgeCatchAllRule b
  interconnect := by
    intro b hb
    refine ⟨b.outbound, outboundTag_bridgeDomainRule b, ?_⟩
    obtain ⟨v, hv, htag⟩ := hlinked.bridges b hb
    rw [itemsOf_outbounds]
    exact ⟨v, List.mem_append_right _ hv, htag⟩
  balancerTag := by
    intro rule hrule
    rcases List.mem_append.1 hrule with hrule | hrule
    · obtain ⟨b, hb, rfl⟩ := List.mem_map.1 hrule
      exact ⟨b.balancer, balancerTag_bridgeCatchAllRule b, hasTag_balancer (List.mem_filter.1 hb).2⟩
    · obtain ⟨t, ht, rfl⟩ := List.mem_map.1 hrule
      exact ⟨forwardBalancer t, balancerTag_forwardRule t, hasTag_balancer (List.mem_filter.1 ht).2⟩
  tunnel := by
    intro t ht
    refine ⟨tunnelInboundTag t.id, inboundTag_forwardRule t, forwardInbound t, ?_, tag_forwardInbound t⟩
    rw [itemsOf_inbounds]
    exact List.mem_append_right _ (List.mem_append_right _ (List.mem_map.2 ⟨t, ht, rfl⟩))

end

/-! ## every compile -/

/-- what the compile of a node starts from -/
def Store.contextOf (s : Store) (o : Options) (node : Node) (now : Nat) : Context :=
  ⟨node, s.siteSettings, o, now⟩

theorem compile_artifacts {s s' : Store} {o : Options} {node : Node} {now : Nat} {a : Artifacts}
    (hnode : s.nodes.get? node.id = some node) (h : compile s o node.id now = (.ok a, s')) :
    ∃ path program, a = (buildArtifacts (s.contextOf o node now) s path program).1 := by
  obtain ⟨node', path, program, hnode', hbuild⟩ := compile_ok h
  obtain rfl : node' = node := Option.some.inj (hnode'.symm.trans hnode)
  exact ⟨path, program, (congrArg Prod.fst hbuild).symm⟩

/-- **A compile that succeeds gives a document without dangling references**, unless an outbound
template puts a tag of its own on its first object, or the base document has something else than an
object where the reverse links go. -/
theorem compile_closed {s s' : Store} {o : Options} {node : Node} {now : Nat} {a : Artifacts}
    (hnode : s.nodes.get? node.id = some node) (h : compile s o node.id now = (.ok a, s'))
    (htags : (s.contextOf o node now).keepsTags s = true)
    (hreverse : HasMergeableReverse (baseFields (s.contextOf o node now))) :
    a.configText = Json.pretty (.obj (documentOf (s.contextOf o node now) s)) ∧
      ReferencesClosed (draftOf (s.contextOf o node now) s).1 a.balancers
        (documentOf (s.contextOf o node now) s) := by
  obtain ⟨node', path, file, hnode', hbuild⟩ := compile_ok h
  obtain rfl : node' = node := Option.some.inj (hnode'.symm.trans hnode)
  obtain ⟨htext, hbalancers⟩ := buildArtifacts_document (s.contextOf o node' now) s path file
  have ha : (buildArtifacts (s.contextOf o node' now) s path file).1 = a := congrArg Prod.fst hbuild
  rw [ha] at htext hbalancers
  refine ⟨htext, ?_⟩
  obtain ⟨rendered, hdoc⟩ := documentOf_eq (s.contextOf o node' now) s
  rw [hdoc, show a.balancers = balancersOf (s.contextOf o node' now) s from hbalancers]
  exact closed_mergeDocument hreverse (linked_draftOf htags) fun b hb => mem_compileBalancers hb

/-! ## a node with every kind of link -/

def freedom : Connector := ⟨"\x7b\"protocol\": \"freedom\"\x7d", none, none, none⟩

def hub : Node := ⟨1, "hub", "amd64", none, true, .empty⟩

/-- a direct outbound, both ends of reverse links and the source of a tunnel, all on one node -/
def hubStore : Store := { Store.empty with
  site := some { Site.default with runtimeProgram := some "xray" }
  nodes := .ofList [hub]
  programs := .ofList [⟨"xray", [], [⟨1, "/opt/xray"⟩]⟩]
  rules := .ofList [⟨7, "rule", "", "", ""⟩]
  bindings := .ofList [
    ⟨1, "direct", .rule 7, 1, none, freedom, [⟨"main", 1⟩]⟩,
    ⟨2, "bridge", .rule 7, 1, some 2, freedom, [⟨"main", 2⟩]⟩,
    ⟨3, "portal", .rule 7, 2, some 1, freedom, [⟨"main", 3⟩]⟩,
    ⟨4, "tunnel", .tunnel 5, 1, none, freedom, [⟨"main", 1⟩]⟩]
  tunnels := .ofList [⟨5, 1, 2, 7000, "10.0.0.1", 80, "main", ""⟩]
  internalUsers := .ofList [⟨7, 2, true, "", .none⟩] }

def hubContext : Context := hubStore.contextOf ⟨"/srv", ""⟩ hub 0

theorem compile_closed_hub :
    (draftOf hubContext hubStore).1.bridges.length = 1 ∧
      (draftOf hubContext hubStore).1.portals.length = 1 ∧
      ∃ a s', compile hubStore ⟨"/srv", ""⟩ hub.id 0 = (.ok a, s') ∧
        hubContext.keepsTags hubStore = true ∧ HasMergeableReverse (baseFields hubContext) ∧
        a.configText = Json.pretty (.obj (documentOf hubContext hubStore)) ∧
        ReferencesClosed (draftOf hubContext hubStore).1 a.balancers
          (documentOf hubContext hubStore) := by
  have hnode : hubStore.nodes.get? hub.id = some hub := by decide +kernel
  have hstarts : hubStore.refusal? ⟨"/srv", ""⟩ hub.id = none := by decide +kernel
  have htags : hubContext.keepsTags hubStore = true := by decide +kernel
  have hreverse : HasMergeableReverse (baseFields hubContext) := Or.inl rfl
  refine ⟨by decide +kernel, by decide +kernel, ?_⟩
  rcases compile_cases hubStore ⟨"/srv", ""⟩ hub.id 0 with ⟨e, he, -⟩ | ⟨-, _, _, _, -, hok⟩
  · rw [hstarts] at he
    cases he
  · exact ⟨_, _, hok, htags, hreverse, compile_closed hnode hok htags hreverse⟩

end ProxyMesh
