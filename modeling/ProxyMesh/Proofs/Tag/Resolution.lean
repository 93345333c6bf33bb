import ProxyMesh.Tag.Resolve
import ProxyMesh.Proofs.Compile.Contents
import ProxyMesh.Proofs.Compile.Documents
import ProxyMesh.Proofs.Tag.Codec

/-!
# Compiled tags resolve on their node

A node tags its outbounds and links, and what the runtime reports by tag is traced back to a binding.
The tags are made while rules and tunnels are walked through, and they are resolved from the text and
the stored bindings alone; both come to the same ends of the same link.

* `LinkKind.role`              what a link of each kind is, in a rule and in a tunnel;
* `outboundRecord`, `portalRecord`, `bridgeRecord`   the record of a link;
* `resolve_directTag`, `resolve_portalTag`, `resolve_interconnectTag`   each tag of a stored binding
  resolves to its record;
* `TagsResolve`                every tag that the node reports by resolves to its binding;
* `compile_resolves`           **the tags of every compile that succeeds resolve**.
-/

namespace ProxyMesh

/-- an outbound straight to another node, or a side of a reverse link -/
inductive LinkKind where
  | direct
  | portal
  | bridge

def LinkKind.role : LinkKind → Scope → LinkRole
  | .direct, .rule _ => .nodeOutbound
  | .direct, .tunnel _ => .tunnelOutbound
  | .portal, .rule _ => .reverse
  | .portal, .tunnel _ => .tunnelReverse
  | .bridge, .rule _ => .reverseInterconn
  | .bridge, .tunnel _ => .tunnelReverseInterconn

/-! ## the record of a link on `node` -/

def outboundRecord (node : Id) (b : Binding) : ResolvedTag :=
  ⟨.outbound b.scope b.id, b, LinkKind.direct.role b.scope, node, b.connector.destNodeId⟩

/-- the link as seen from its portal -/
def portalRecord (node : Id) (b : Binding) (a : Allocation) : ResolvedTag :=
  ⟨.reverse b.scope .portal b.id b.nodeId a.balancer, b, LinkKind.portal.role b.scope, node,
    some b.nodeId⟩

/-- the link as seen from its bridge -/
def bridgeRecord (node : Id) (b : Binding) (portal : Id) (a : Allocation) : ResolvedTag :=
  ⟨.reverse b.scope .bridge b.id portal a.balancer, b, LinkKind.bridge.role b.scope, node,
    some portal⟩

section
variable {s : Store} {node portal : Id} {b : Binding} {a : Allocation}

theorem role_direct (scope : Scope) : LinkKind.direct.role scope = .ofOutbound scope := by
  cases scope <;> rfl

theorem role_portal (scope : Scope) : LinkKind.portal.role scope = .ofReverse scope .portal := by
  cases scope <;> rfl

theorem role_bridge (scope : Scope) : LinkKind.bridge.role scope = .ofReverse scope .bridge := by
  cases scope <;> rfl

/-- a text that refers to a stored binding in its own scope stands for a link of that binding -/
theorem resolveTag_of_decode {tag : String} {r : TagRef} (hb : b ∈ s.bindings.records)
    (hdecode : TagRef.decode? tag = some r) (hbinding : r.binding = b.id) (hscope : r.scope = b.scope)
    (node : Id) : resolveTag s node tag = linkOn node b r := by
  have hget : s.bindings.get? r.binding = some b := hbinding ▸ Table.mem_records.1 hb
  unfold resolveTag
  rw [hdecode]
  show (s.bindings.get? r.binding).bind (fun b => if b.scope = r.scope then linkOn node b r else none)
    = linkOn node b r
  rw [hget]
  exact if_pos hscope.symm

theorem resolve_directTag (hb : b ∈ s.bindings.records) (hdirect : b.portalNodeId = none) :
    resolveTag s b.nodeId (directTag b) = some (outboundRecord b.nodeId b) := by
  rw [directTag, resolveTag_of_decode hb (TagRef.decode_encode _) rfl rfl]
  unfold linkOn outboundRecord
  rw [hdirect, role_direct]
  exact if_pos rfl

theorem resolve_portalTag (hb : b ∈ s.bindings.records) (hportal : b.portalNodeId = some portal)
    (a : Allocation) : resolveTag s portal (reverseTag b .portal b.nodeId a) =
      some (portalRecord portal b a) := by
  rw [reverseTag, resolveTag_of_decode hb (TagRef.decode_encode _) rfl rfl]
  unfold linkOn portalRecord
  rw [hportal, role_portal]
  exact if_pos ⟨rfl, rfl⟩

theorem resolve_interconnectTag (hb : b ∈ s.bindings.records)
    (hportal : b.portalNodeId = some portal) (a : Allocation) :
    resolveTag s b.nodeId (interconnectTag (reverseTag b .bridge portal a)) =
      some (bridgeRecord b.nodeId b portal a) := by
  rw [reverseTag, resolveTag_of_decode hb (TagRef.decode_interconnectTag _) rfl rfl]
  unfold linkOn bridgeRecord
  rw [hportal, role_bridge]
  exact if_pos ⟨rfl, rfl⟩

theorem resolveTag_compile (s : Store) (o : Options) (id : Id) (now : Nat) :
    resolveTag (compile s o id now).2 = resolveTag s := by
  rw [Store.compile_store, ← Store.withUsers_joinAll]
  rfl

end

/-- every tag by which the node reports traffic stands for a link of a stored binding -/
structure TagsResolve (s : Store) (node : Id) (d : Draft) (balancers : List CompiledBalancer) :
    Prop where
  /-- a member of a balancer has a share of it -/
  members : ∀ lb ∈ balancers, ∃ tags, lb.toJson.texts? "selector" = some tags ∧
    ∀ tag ∈ tags, ∃ b ∈ s.bindings.records, ∃ a ∈ b.shares,
      lb.tag = balancerTag b.scope a.balancer ∧
      ((b.portalNodeId = none ∧ b.nodeId = node ∧ tag = directTag b ∧
          resolveTag s node tag = some (outboundRecord node b)) ∨
        (b.portalNodeId = some node ∧ tag = reverseTag b .portal b.nodeId a ∧
          resolveTag s node tag = some (portalRecord node b a)))
  portals : ∀ p ∈ d.portals, ∃ tag, (reverseEntry p.tag p.domain).text? "tag" = some tag ∧
    ∃ b ∈ s.bindings.records, b.portalNodeId = some node ∧ ∃ a ∈ b.shares,
      tag = reverseTag b .portal b.nodeId a ∧ resolveTag s node tag = some (portalRecord node b a)
  interconnects : ∀ l ∈ d.bridges, ∃ tag, (bridgeDomainRule l).text? "outboundTag" = some tag ∧
    ∃ b ∈ s.bindings.records, b.nodeId = node ∧ ∃ portal, b.portalNodeId = some portal ∧
      ∃ a ∈ b.shares, tag = interconnectTag (reverseTag b .bridge portal a) ∧
        resolveTag s node tag = some (bridgeRecord node b portal a)

section
variable {c : Context} {s : Store} {p : Principal} {b : Binding}

/-- every part that is no consumer of a rule and no end of a tunnel is one of a stored binding -/
theorem mem_partsOf_of_hop {part : Part} (h : part ∈ partsOf c s) (hconsumer : ∀ u, part ≠ .consumer u)
    (hforward : ∀ t, part ≠ .forward t) :
    ∃ p b, b ∈ s.bindings.records ∧ part ∈ bindingParts c p b := by
  rcases mem_partsOf.1 h with ⟨_, _, _, u, _, hu⟩ | ⟨t, _, ⟨_, hu⟩ | ⟨_, hu⟩⟩ | ⟨p, b, hhop, hpart⟩
  · exact absurd hu (hconsumer u)
  · exact absurd hu (hforward t)
  · exact absurd hu (hconsumer _)
  · exact ⟨p, b, hhop.stored, hpart⟩

theorem member_mem_partsOf {scope : Scope} {balancer tag : String} {weight : Nat}
    (h : .member scope balancer tag weight ∈ partsOf c s) :
    ∃ b ∈ s.bindings.records, ∃ a ∈ b.shares, balancerTag scope balancer =
      balancerTag b.scope a.balancer ∧
      ((b.portalNodeId = none ∧ b.nodeId = c.node.id ∧ tag = directTag b) ∨
        (b.portalNodeId = some c.node.id ∧ tag = reverseTag b .portal b.nodeId a)) := by
  obtain ⟨p, b, hb, hpart⟩ := mem_partsOf_of_hop h nofun nofun
  obtain ⟨a, ha, rfl, rfl, htag⟩ := member_mem_bindingParts hpart
  exact ⟨b, hb, a, ha, rfl, htag⟩

/-- the tags of a draft's links, and of the members of its balancers -/
theorem tagsResolve_draftOf {balancers : List CompiledBalancer}
    (hplans : ∀ lb ∈ balancers, IsPlanOf c.node.id (draftOf c s).1 lb) :
    TagsResolve s c.node.id (draftOf c s).1 balancers where
  members := by
    intro lb hlb
    refine ⟨lb.plan.selector, (toJson_fields lb).2.1, fun tag htag => ?_⟩
    obtain ⟨group, hgroup, hplan⟩ := hplans lb hlb
    obtain ⟨candidate, hc, rfl⟩ := List.mem_map.1 (Balancing.Plan.compile_selector hplan htag)
    obtain ⟨scope, balancer, hlbtag, hpart⟩ := candidate_draftOf hgroup hc
    obtain ⟨b, hb, a, ha, hbalancer, hkind⟩ := member_mem_partsOf hpart
    refine ⟨b, hb, a, ha, hlbtag.symm.trans hbalancer, ?_⟩
    rcases hkind with ⟨hdirect, hnode, hdtag⟩ | ⟨hportal, hptag⟩
    · refine Or.inl ⟨hdirect, hnode, hdtag, ?_⟩
      rw [hdtag, ← hnode]
      exact resolve_directTag hb hdirect
    · refine Or.inr ⟨hportal, hptag, ?_⟩
      rw [hptag]
      exact resolve_portalTag hb hportal a
  portals := by
    intro link hlink
    refine ⟨link.tag, tag_reverseEntry _ _, ?_⟩
    rw [portals_draftOf, Part.mem_portals] at hlink
    obtain ⟨p, b, hb, hpart⟩ := mem_partsOf_of_hop hlink nofun nofun
    obtain ⟨hportal, a, ha, rfl⟩ := portal_mem_bindingParts.1 hpart
    exact ⟨b, hb, hportal, a, ha, rfl, resolve_portalTag hb hportal a⟩
  interconnects := by
    intro link hlink
    refine ⟨link.outbound, outboundTag_bridgeDomainRule link, ?_⟩
    rw [bridges_draftOf, Part.mem_bridges] at hlink
    obtain ⟨p, b, hb, hpart⟩ := mem_partsOf_of_hop hlink nofun nofun
    obtain ⟨hnode, portal, hportal, a, ha, -, rfl⟩ := bridge_mem_bindingParts.1 hpart
    refine ⟨b, hb, hnode, portal, hportal, a, ha, rfl, ?_⟩
    rw [← hnode]
    exact resolve_interconnectTag hb hportal a

end

/-- **The tags of every compile that succeeds resolve**: each one stands for the link of the stored
binding that it was made for, and the users that the compile makes change nothing about that. -/
theorem compile_resolves {s s' : Store} {o : Options} {node : Node} {now : Nat} {a : Artifacts}
    (hnode : s.nodes.get? node.id = some node) (h : compile s o node.id now = (.ok a, s')) :
    a.configText = Json.pretty (.obj (documentOf (s.contextOf o node now) s)) ∧
      Merged (baseFields (s.contextOf o node now)) (draftOf (s.contextOf o node now) s).1
        a.balancers (inboundsOf (s.contextOf o node now) s)
        (documentOf (s.contextOf o node now) s) ∧
      TagsResolve s node.id (draftOf (s.contextOf o node now) s).1 a.balancers ∧
      resolveTag s' = resolveTag s := by
  obtain ⟨htext, hbalancers, hmerged⟩ := compile_document hnode h
  refine ⟨htext, hmerged, ?_, ?_⟩
  · exact tagsResolve_draftOf (c := s.contextOf o node now) fun lb hlb =>
      mem_compileBalancers (hbalancers ▸ hlb)
  · rw [← resolveTag_compile s o node.id now, h]

/-- on a node that is a bridge, a portal and the source of direct links, in a rule and in a tunnel -/
theorem compile_resolves_hub :
    (draftOf hubContext hubStore).1.bridges.length = 1 ∧
      (draftOf hubContext hubStore).1.portals.length = 1 ∧
      (draftOf hubContext hubStore).1.members.records.map (·.1) = ["lb_7_main", "tlb_5_main"] ∧
      ∃ a s', compile hubStore ⟨"/srv", ""⟩ hub.id 0 = (.ok a, s') ∧
        TagsResolve hubStore hub.id (draftOf hubContext hubStore).1 a.balancers := by
  have hnode : hubStore.nodes.get? hub.id = some hub := by decide +kernel
  have hstarts : hubStore.refusal? ⟨"/srv", ""⟩ hub.id = none := by decide +kernel
  obtain ⟨a, s', hok⟩ := compile_of_refusal hstarts 0
  refine ⟨by decide +kernel, by decide +kernel, by decide +kernel, a, s', hok, ?_⟩
  exact (compile_resolves hnode hok).2.2.1

end ProxyMesh
