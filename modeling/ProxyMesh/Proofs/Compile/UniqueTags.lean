import ProxyMesh.Proofs.Compile.Fragments
import ProxyMesh.Proofs.Compile.Hops
import ProxyMesh.Proofs.Tag.Sections

/-!
# The tags of a document are distinct

The runtime takes no document that has a tag twice.  Every tag is made for one thing: a binding, or an
allocation of a reverse binding; a balancer, of which each is compiled once; or a tunnel.  Every binding
is worked on once, for its own rule or tunnel.  So a tag can come twice in one way only: a reverse
binding that lists the same balancer twice gets the same end of the same link twice.

* `Fragment.isPlain`         an outbound template gives at most one object, and that without a tag;
* `directRefs`, `bridgeRefs`, `portalRefs`   what the tags of a hop refer to;
* `tagsIn`, `tags_items`     the tags of a section, and **that its items have them**;
* `SharesApart`              no balancer gets two ends of a link, of one side, on the node;
* `nodup_tags_iff`, `compile_tags_nodup`   **the tags are distinct exactly if the shares of every hop
                             are apart**.
-/

namespace ProxyMesh

/-! ## outbounds without tags of their own -/

/-- an outbound template gives at most one object, and that without a tag; any other template may give
what it likes -/
def Fragment.isPlain (f : Fragment) (c : Context) : Bool :=
  f.kind != .outbound ||
    (decide ((c.objects f.template f.vars).length ≤ 1) &&
      (c.objects f.template f.vars).all fun v => (v.get? "tag").isNone)

section
variable {c : Context} {s : Store} {p : Principal} {b : Binding} {a : Allocation} {portal : Id}

theorem outboundEntries_eq (c : Context) (b : Binding) (tag : String) (user : User) :
    c.outboundEntries b tag user =
      Draft.tagFirst tag (c.objects b.connector.outboundTemplate (c.outboundVars b tag user)) := by
  unfold Context.outboundEntries Context.outboundObjects Context.objects
  cases (c.fragment b.connector.outboundTemplate (c.outboundVars b tag user)).1 with
  | error reason => rfl
  | ok objects => rfl

theorem isObject_of_objects {template : String} {vars v : Json} (hv : v ∈ c.objects template vars) :
    v.isObject = true := by
  unfold Context.objects at hv
  cases hresult : (c.fragment template vars).1 with
  | error reason =>
    rw [hresult] at hv
    cases hv
  | ok objects =>
    rw [hresult] at hv
    exact isObject_of_fragment hresult v hv

/-- an outbound that is added is one object, with the tag that it is to have -/
theorem tags_outboundEntries {tag : String} {user : User}
    (hplain : (outboundFragment c b tag user).isPlain c = true) :
    (c.outboundEntries b tag user).map (·.text? "tag") =
      if (c.outboundEntries b tag user).isEmpty then [] else [some tag] := by
  have hobjects : (decide ((c.objects b.connector.outboundTemplate
        (c.outboundVars b tag user)).length ≤ 1) &&
      (c.objects b.connector.outboundTemplate (c.outboundVars b tag user)).all fun v =>
        (v.get? "tag").isNone) = true := hplain
  rw [Bool.and_eq_true, decide_eq_true_iff, List.all_eq_true] at hobjects
  obtain ⟨hlength, huntagged⟩ := hobjects
  rw [outboundEntries_eq]
  cases hlist : c.objects b.connector.outboundTemplate (c.outboundVars b tag user) with
  | nil => rfl
  | cons first rest =>
    rw [hlist] at hlength huntagged
    have hrest : rest = [] := List.length_eq_zero_iff.1 (by simpa using hlength)
    have hfirst : first ∈ c.objects b.connector.outboundTemplate (c.outboundVars b tag user) := by
      rw [hlist]
      exact List.mem_cons_self
    have htag : (Draft.withTag tag first).text? "tag" = some tag := by
      refine tag_withTag (isObject_of_objects hfirst) ?_
      rw [Option.isNone_iff_eq_none.1 (huntagged first List.mem_cons_self)]
      rfl
    rw [hrest]
    show [(Draft.withTag tag first).text? "tag"] = [some tag]
    rw [htag]

/-- the outbounds of a hop are rendered with the others -/
theorem mem_hopFragments {f : Fragment} (hhop : Hop c s p b) (hf : f ∈ bindingFragments c p b) :
    f ∈ hopFragments c s := by
  unfold hopFragments
  cases hhop with
  | @rule r b hr hlive hb =>
    have hne : ((s.bindingsAt (.rule r.id) c.node.id).isEmpty ||
        (s.ruleConsumers r.id c.node.id c.now).isEmpty) = false := by
      rw [List.isEmpty_eq_false_iff.2 (List.ne_nil_of_mem hb), List.isEmpty_eq_false_iff.2 hlive]
      rfl
    refine List.mem_append_left _ (List.mem_flatMap.2 ⟨r, hr, ?_⟩)
    unfold ruleFragments
    dsimp only
    rw [hne]
    exact List.mem_append_left _ (List.mem_flatMap.2 ⟨b, hb, hf⟩)
  | @tunnel t b ht hb =>
    refine List.mem_append_right _ (List.mem_flatMap.2 ⟨t, ht, ?_⟩)
    exact List.mem_flatMap.2 ⟨b, hb, hf⟩

end

/-! ## the tags of a hop -/

section
variable (c : Context) (p : Principal) (b : Binding)

/-- the allocations that get a bridge on the node -/
def bridgedShares (portal : Id) : List Allocation :=
  if c.node.id = b.nodeId then
    b.shares.filter fun a => !(interconnectEntries c p b portal a).isEmpty
  else []

/-- the allocations that get a portal on the node -/
def portalShares (portal : Id) : List Allocation := if c.node.id = portal then b.shares else []

def directRefs : List TagRef :=
  match b.portalNodeId with
  | some _ => []
  | none =>
    if b.nodeId = c.node.id ∧ b.shares ≠ [] ∧ c.outboundEntries b (directTag b) p.user ≠ [] then
      [.outbound b.scope b.id]
    else []

def bridgeRefs : List TagRef :=
  match b.portalNodeId with
  | none => []
  | some portal => (bridgedShares c p b portal).map fun a =>
    .reverse b.scope .bridge b.id portal a.balancer

def portalRefs : List TagRef :=
  match b.portalNodeId with
  | none => []
  | some portal => (portalShares c b portal).map fun a =>
    .reverse b.scope .portal b.id b.nodeId a.balancer

/-- no balancer gets two ends of a link, of one side, on the node -/
structure SharesApart : Prop where
  bridges : ∀ portal, b.portalNodeId = some portal →
    ((bridgedShares c p b portal).map (·.balancer)).Nodup
  portals : ∀ portal, b.portalNodeId = some portal →
    ((portalShares c b portal).map (·.balancer)).Nodup

end

section
variable {c : Context} {s : Store} {p : Principal} {b : Binding} {a : Allocation} {portal : Id}

theorem flatMap_bridged {α : Type} (item : Allocation → α) : (b.shares.flatMap fun a =>
    if c.node.id = b.nodeId then
      if (interconnectEntries c p b portal a).isEmpty then [] else [item a]
    else []) = (bridgedShares c p b portal).map item := by
  unfold bridgedShares
  split
  · refine flatMap_keep fun a _ => ?_
    cases (interconnectEntries c p b portal a).isEmpty <;> rfl
  · exact List.flatMap_eq_nil_iff.2 fun _ _ => rfl

theorem bridges_bindingParts (c : Context) (p : Principal) (b : Binding) :
    ((bindingParts c p b).flatMap fun part => part.bridges.map (·.tag)) =
      (bridgeRefs c p b).map TagRef.encode := by
  rw [flatMap_bindingParts rfl (fun _ => rfl) fun _ _ _ _ => rfl]
  unfold bridgeRefs
  cases b.portalNodeId with
  | none => exact ite_self _
  | some portal =>
    simp only [Part.bridges, List.map_nil, ite_self, List.nil_append, List.map_cons]
    rw [flatMap_bridged, List.map_map]
    rfl

theorem portals_bindingParts (c : Context) (p : Principal) (b : Binding) :
    ((bindingParts c p b).flatMap fun part => part.portals.map (·.tag)) =
      (portalRefs c b).map TagRef.encode := by
  rw [flatMap_bindingParts rfl (fun _ => rfl) fun _ _ _ _ => rfl]
  unfold portalRefs portalShares
  cases b.portalNodeId with
  | none => exact ite_self _
  | some portal =>
    simp only [Part.portals, List.map_nil, ite_self, List.append_nil, List.map_cons]
    split
    · rw [← List.map_eq_flatMap, List.map_map]
      rfl
    · exact List.flatMap_eq_nil_iff.2 fun _ _ => rfl

theorem outbounds_bindingParts (hplain : ∀ f ∈ bindingFragments c p b, f.isPlain c = true) :
    ((bindingParts c p b).flatMap fun part => part.entries.map (·.text? "tag")) =
      (directRefs c p b).map (fun ref => some ref.encode) ++
        (bridgeRefs c p b).map fun ref => some (interconnectTag ref.encode) := by
  rw [flatMap_bindingParts rfl (fun _ => rfl) fun _ _ _ _ => rfl]
  unfold directRefs bridgeRefs
  unfold bindingFragments at hplain
  cases hportal : b.portalNodeId with
  | none =>
    rw [hportal] at hplain
    dsimp only at hplain ⊢
    rw [List.map_nil, List.append_nil]
    by_cases hdirect : b.nodeId = c.node.id ∧ b.shares ≠ []
    · rw [if_pos hdirect] at hplain ⊢
      show (c.outboundEntries b (directTag b) p.user).map (·.text? "tag") = _
      rw [tags_outboundEntries (hplain _ (List.mem_singleton_self _))]
      by_cases hentries : c.outboundEntries b (directTag b) p.user = []
      · rw [if_pos (List.isEmpty_iff.2 hentries), if_neg fun h => h.2.2 hentries]
        rfl
      · rw [if_neg (mt List.isEmpty_iff.1 hentries), if_pos ⟨hdirect.1, hdirect.2, hentries⟩]
        rfl
    · rw [if_neg hdirect, if_neg fun h => hdirect ⟨h.1, h.2.1⟩]
      rfl
  | some portal =>
    rw [hportal] at hplain
    dsimp only at hplain ⊢
    rw [List.map_nil, List.nil_append, List.map_map, ← flatMap_bridged]
    refine List.flatMap_congr fun a ha => ?_
    simp only [Part.entries, List.map_nil, ite_self, List.nil_append, List.append_nil]
    split
    next hnode =>
      rw [if_pos hnode] at hplain
      exact tags_outboundEntries (hplain _ (List.mem_map.2 ⟨a, ha, rfl⟩))
    · rfl

end

/-! ## the tags of a document -/

/-- the groups of members that make a balancer -/
def groupsOf (c : Context) (s : Store) : List (String × Group) :=
  (draftOf c s).1.members.records.filter fun m => (m.2.plan c.node.id m.1).isSome

/-- the tags of a section, each by what it stands for -/
def tagsIn (c : Context) (s : Store) : TagSection → List DocumentTag
  | .outbounds => (hopsOf c s).flatMap fun h =>
    (directRefs c h.1 h.2).map .link ++ (bridgeRefs c h.1 h.2).map .interconnect
  | .bridges => (hopsOf c s).flatMap fun h => (bridgeRefs c h.1 h.2).map .link
  | .portals => (hopsOf c s).flatMap fun h => (portalRefs c h.2).map .link
  | .balancers => (groupsOf c s).map fun m => .balancer m.2.scope m.2.name
  | .forwards => (s.tunnelsFrom c.node.id).map fun t => .forward t.id

/-- what stands in a section of a document; the inbounds of tunnels are made of the tunnels -/
def TagSection.items (doc : Fields) (tunnels : List Tunnel) : TagSection → List Json
  | .outbounds => itemsOf "outbounds" doc
  | .bridges => itemsOf "bridges" (fieldsOf "reverse" doc)
  | .portals => itemsOf "portals" (fieldsOf "reverse" doc)
  | .balancers => itemsOf "balancers" (fieldsOf "routing" doc)
  | .forwards => tunnels.map forwardInbound

section
variable {c : Context} {s : Store} {p : Principal} {b : Binding}

theorem named_foldl_add {parts : List Part} {d : Draft}
    (h : ∀ m ∈ d.members.records, m.1 = balancerTag m.2.scope m.2.name) :
    ∀ m ∈ (parts.foldl (Draft.add c) d).members.records, m.1 = balancerTag m.2.scope m.2.name := by
  induction parts generalizing d with
  | nil => exact h
  | cons part rest ih =>
    refine ih ?_
    cases part with
    | member scope balancer tag weight =>
      intro m hm
      rcases mem_place hm with rfl | hm
      · show balancerTag scope balancer = _
        cases hget : d.members.get? (balancerTag scope balancer) with
        | none => rfl
        | some old =>
          have hold : old.1 = balancerTag scope balancer := Table.key_of_get? hget
          rw [← hold]
          exact h old (Table.mem_of_get? hget)
      · exact h m hm
    | _ => exact h

theorem named_groupsOf {m : String × Group} (hm : m ∈ groupsOf c s) :
    m.1 = balancerTag m.2.scope m.2.name := by
  have hmember : m ∈ (draftOf c s).1.links.members.records := List.mem_of_mem_filter hm
  rw [draftOf_links] at hmember
  exact named_foldl_add (fun m hm => absurd hm List.not_mem_nil) m hmember

/-! ## all tags are there -/

theorem tags_outbounds (hplain : (hopFragments c s).all (·.isPlain c) = true) :
    (draftOf c s).1.outbounds.map (·.text? "tag") =
      (tagsIn c s .outbounds).map fun t => some t.text := by
  unfold tagsIn
  rw [outbounds_draftOf, List.map_flatMap, flatMap_partsOf (fun _ => rfl) fun _ => rfl,
    List.map_flatMap]
  refine List.flatMap_congr fun h hh => ?_
  have hfragments : ∀ f ∈ bindingFragments c h.1 h.2, f.isPlain c = true := fun f hf =>
    List.all_eq_true.1 hplain f (mem_hopFragments (mem_hopsOf.1 hh) hf)
  rw [outbounds_bindingParts hfragments, List.map_append, List.map_map, List.map_map]
  rfl

theorem tags_bridges (c : Context) (s : Store) :
    (draftOf c s).1.bridges.map (·.tag) = (tagsIn c s .bridges).map DocumentTag.text := by
  unfold tagsIn
  rw [bridges_draftOf, List.map_flatMap, flatMap_partsOf (fun _ => rfl) fun _ => rfl,
    List.map_flatMap]
  refine List.flatMap_congr fun h _ => ?_
  rw [bridges_bindingParts, List.map_map]
  rfl

theorem tags_portals (c : Context) (s : Store) :
    (draftOf c s).1.portals.map (·.tag) = (tagsIn c s .portals).map DocumentTag.text := by
  unfold tagsIn
  rw [portals_draftOf, List.map_flatMap, flatMap_partsOf (fun _ => rfl) fun _ => rfl,
    List.map_flatMap]
  refine List.flatMap_congr fun h _ => ?_
  rw [portals_bindingParts, List.map_map]
  rfl

theorem tags_balancers (c : Context) (s : Store) :
    (balancersOf c s).map (·.tag) = (tagsIn c s .balancers).map DocumentTag.text := by
  have hkeys : (balancersOf c s).map (·.tag) = (groupsOf c s).map (·.1) := by
    rw [balancersOf_eq, List.map_flatMap]
    refine flatMap_keep fun m _ => ?_
    unfold groupBalancers
    cases m.2.plan c.node.id m.1 <;> rfl
  unfold tagsIn
  rw [hkeys, List.map_map]
  exact List.map_congr_left fun m hm => named_groupsOf hm

theorem tags_map {α : Type} {l : List α} {item : α → Json} {tag : α → String} {tags : List DocumentTag}
    (hitem : ∀ x, (item x).text? "tag" = some (tag x)) (htags : l.map tag = tags.map DocumentTag.text) :
    (l.map item).map (·.text? "tag") = tags.map fun t => some t.text := by
  have hsome : (l.map item).map (·.text? "tag") = (l.map tag).map some := by
    rw [List.map_map, List.map_map]
    exact List.map_congr_left fun x _ => hitem x
  rw [hsome, htags, List.map_map]
  rfl

/-- **The items of a section have the tags of the section, in their order.** -/
theorem tags_items {inbounds : List Json} {doc : Fields}
    (hplain : (hopFragments c s).all (·.isPlain c) = true)
    (hmerged : Merged [] (draftOf c s).1 (balancersOf c s) inbounds doc) (home : TagSection) :
    (home.items doc (s.tunnelsFrom c.node.id)).map (·.text? "tag") =
      (tagsIn c s home).map fun t => some t.text := by
  have hroom : HasMergeableReverse [] := Or.inl rfl
  cases home with
  | outbounds =>
    have hitems : itemsOf "outbounds" doc = (draftOf c s).1.outbounds := hmerged.outbounds
    unfold TagSection.items
    rw [hitems]
    exact tags_outbounds hplain
  | bridges =>
    unfold TagSection.items
    rw [hmerged.bridges hroom]
    exact tags_map (fun l => tag_reverseEntry l.tag l.domain) (tags_bridges c s)
  | portals =>
    unfold TagSection.items
    rw [hmerged.portals hroom]
    exact tags_map (fun l => tag_reverseEntry l.tag l.domain) (tags_portals c s)
  | balancers =>
    unfold TagSection.items
    rw [hmerged.balancers]
    exact tags_map (fun b => (toJson_fields b).1) (tags_balancers c s)
  | forwards =>
    refine tags_map tag_forwardInbound ?_
    unfold tagsIn
    rw [List.map_map]
    rfl

/-! ## no tag comes twice -/

theorem mem_directRefs {ref : TagRef} (h : ref ∈ directRefs c p b) : ref = .outbound b.scope b.id := by
  unfold directRefs at h
  split at h
  · cases h
  · exact List.mem_singleton.1 (List.mem_ite_nil_right.1 h).2

theorem mem_bridgeRefs {ref : TagRef} (h : ref ∈ bridgeRefs c p b) :
    ∃ portal balancer, ref = .reverse b.scope .bridge b.id portal balancer := by
  unfold bridgeRefs at h
  split at h
  · cases h
  next portal _ =>
    obtain ⟨a, -, rfl⟩ := List.mem_map.1 h
    exact ⟨portal, a.balancer, rfl⟩

theorem mem_portalRefs {ref : TagRef} (h : ref ∈ portalRefs c b) :
    ∃ balancer, ref = .reverse b.scope .portal b.id b.nodeId balancer := by
  unfold portalRefs at h
  split at h
  · cases h
  · obtain ⟨a, -, rfl⟩ := List.mem_map.1 h
    exact ⟨a.balancer, rfl⟩

theorem home_of_mem {home : TagSection} {t : DocumentTag} (ht : t ∈ tagsIn c s home) :
    t.home = home := by
  cases home with
  | outbounds =>
    obtain ⟨h, -, ht⟩ := List.mem_flatMap.1 ht
    rcases List.mem_append.1 ht with ht | ht
    · obtain ⟨ref, href, rfl⟩ := List.mem_map.1 ht
      rw [mem_directRefs href]
      rfl
    · obtain ⟨ref, -, rfl⟩ := List.mem_map.1 ht
      rfl
  | bridges =>
    obtain ⟨h, -, ht⟩ := List.mem_flatMap.1 ht
    obtain ⟨ref, href, rfl⟩ := List.mem_map.1 ht
    obtain ⟨portal, balancer, rfl⟩ := mem_bridgeRefs href
    rfl
  | portals =>
    obtain ⟨h, -, ht⟩ := List.mem_flatMap.1 ht
    obtain ⟨ref, href, rfl⟩ := List.mem_map.1 ht
    obtain ⟨balancer, rfl⟩ := mem_portalRefs href
    rfl
  | balancers =>
    obtain ⟨m, -, rfl⟩ := List.mem_map.1 ht
    rfl
  | forwards =>
    obtain ⟨t, -, rfl⟩ := List.mem_map.1 ht
    rfl

theorem nodup_hopTags {tags : Principal × Binding → List DocumentTag}
    (hbinding : ∀ h, ∀ t ∈ tags h, t.binding? = some h.2.id) :
    ((hopsOf c s).flatMap tags).Nodup ↔ ∀ h ∈ hopsOf c s, (tags h).Nodup := by
  have hname : ((hopsOf c s).map fun h => some h.2.id).Nodup := by
    have hsome := (nodup_hopsOf c s).map (Option.some_injective Id)
    rwa [List.map_map] at hsome
  exact nodup_flatMap_iff DocumentTag.binding? _ hname fun h _ t ht => hbinding h t ht

theorem link_injective : Function.Injective DocumentTag.link := fun _ _ h => DocumentTag.link.inj h

theorem interconnect_injective : Function.Injective DocumentTag.interconnect :=
  fun _ _ h => DocumentTag.interconnect.inj h

theorem nodup_outbounds_iff : (tagsIn c s .outbounds).Nodup ↔
    ∀ h ∈ hopsOf c s, (bridgeRefs c h.1 h.2).Nodup := by
  have hbinding : ∀ h : Principal × Binding, ∀ t ∈ (directRefs c h.1 h.2).map DocumentTag.link ++
      (bridgeRefs c h.1 h.2).map DocumentTag.interconnect, t.binding? = some h.2.id := by
    intro h t ht
    rcases List.mem_append.1 ht with ht | ht
    · obtain ⟨ref, href, rfl⟩ := List.mem_map.1 ht
      rw [mem_directRefs href]
      rfl
    · obtain ⟨ref, href, rfl⟩ := List.mem_map.1 ht
      obtain ⟨portal, balancer, rfl⟩ := mem_bridgeRefs href
      rfl
  refine (nodup_hopTags hbinding).trans (forall₂_congr fun h _ => ?_)
  have hdirect : ((directRefs c h.1 h.2).map DocumentTag.link).Nodup := by
    unfold directRefs
    split
    · exact List.nodup_nil
    · split
      · exact List.nodup_singleton _
      · exact List.nodup_nil
  rw [List.nodup_append, List.nodup_map_iff interconnect_injective]
  constructor
  · exact fun hall => hall.2.1
  · intro hbridges
    refine ⟨hdirect, hbridges, fun t ht t' ht' e => ?_⟩
    obtain ⟨ref, -, rfl⟩ := List.mem_map.1 ht
    obtain ⟨ref', -, rfl⟩ := List.mem_map.1 ht'
    cases e

theorem nodup_bridges_iff : (tagsIn c s .bridges).Nodup ↔
    ∀ h ∈ hopsOf c s, (bridgeRefs c h.1 h.2).Nodup := by
  refine (nodup_hopTags fun h t ht => ?_).trans (forall₂_congr fun h _ =>
    List.nodup_map_iff link_injective)
  obtain ⟨ref, href, rfl⟩ := List.mem_map.1 ht
  obtain ⟨portal, balancer, rfl⟩ := mem_bridgeRefs href
  rfl

theorem nodup_portals_iff : (tagsIn c s .portals).Nodup ↔
    ∀ h ∈ hopsOf c s, (portalRefs c h.2).Nodup := by
  refine (nodup_hopTags fun h t ht => ?_).trans (forall₂_congr fun h _ =>
    List.nodup_map_iff link_injective)
  obtain ⟨ref, href, rfl⟩ := List.mem_map.1 ht
  obtain ⟨balancer, rfl⟩ := mem_portalRefs href
  rfl

theorem nodup_balancers (c : Context) (s : Store) : (tagsIn c s .balancers).Nodup := by
  have hkeys : ((groupsOf c s).map (·.1)).Nodup :=
    (nodup_keys (draftOf c s).1.members.ascending).sublist (List.filter_sublist.map _)
  have htexts : (groupsOf c s).map (·.1) = (tagsIn c s .balancers).map DocumentTag.text := by
    unfold tagsIn
    rw [List.map_map]
    exact List.map_congr_left fun m hm => named_groupsOf hm
  rw [htexts] at hkeys
  exact hkeys.of_map _

theorem nodup_forwards (c : Context) (s : Store) : (tagsIn c s .forwards).Nodup := by
  have hids : ((s.tunnelsFrom c.node.id).map (·.id)).Nodup :=
    (nodup_keys s.tunnels.ascending).sublist (List.filter_sublist.map _)
  have hmap := hids.map (f := DocumentTag.forward) fun _ _ h => DocumentTag.forward.inj h
  rwa [List.map_map] at hmap

/-- the ends of a hop on one side differ in the balancer only -/
theorem nodup_ends_iff {side : ReverseSide} {peer : Id} {shares : List Allocation} :
    (shares.map fun a => TagRef.reverse b.scope side b.id peer a.balancer).Nodup ↔
      (shares.map (·.balancer)).Nodup := by
  have hinjective : Function.Injective (TagRef.reverse b.scope side b.id peer) :=
    fun _ _ h => (TagRef.reverse.inj h).2.2.2.2
  rw [← List.nodup_map_iff hinjective, List.map_map]
  rfl

theorem nodup_bridgeRefs_iff : (bridgeRefs c p b).Nodup ↔ ∀ portal, b.portalNodeId = some portal →
    ((bridgedShares c p b portal).map (·.balancer)).Nodup := by
  unfold bridgeRefs
  cases b.portalNodeId with
  | none => simp
  | some portal =>
    simp only [Option.some.injEq, forall_eq']
    exact nodup_ends_iff

theorem nodup_portalRefs_iff : (portalRefs c b).Nodup ↔ ∀ portal, b.portalNodeId = some portal →
    ((portalShares c b portal).map (·.balancer)).Nodup := by
  unfold portalRefs
  cases b.portalNodeId with
  | none => simp
  | some portal =>
    simp only [Option.some.injEq, forall_eq']
    exact nodup_ends_iff

theorem sharesApart_iff : SharesApart c p b ↔
    (bridgeRefs c p b).Nodup ∧ (portalRefs c b).Nodup := by
  rw [nodup_bridgeRefs_iff, nodup_portalRefs_iff]
  exact ⟨fun h => ⟨h.bridges, h.portals⟩, fun h => ⟨h.1, h.2⟩⟩

instance : Decidable (SharesApart c p b) := decidable_of_iff _ sharesApart_iff.symm

/-- **The tags of a compile are distinct exactly if the shares of every hop are apart.** -/
theorem nodup_tags_iff : (TagSection.all.flatMap (tagsIn c s)).Nodup ↔
    ∀ h ∈ hopsOf c s, SharesApart c h.1 h.2 := by
  have hall : (TagSection.all.map id).Nodup := by decide
  have hsections : (TagSection.all.flatMap (tagsIn c s)).Nodup ↔
      ∀ home ∈ TagSection.all, (tagsIn c s home).Nodup :=
    nodup_flatMap_iff DocumentTag.home id hall fun home _ t ht => home_of_mem ht
  rw [hsections]
  constructor
  · intro hnodup h hh
    have hbridges := nodup_bridges_iff.1 (hnodup .bridges (by decide)) h hh
    have hportals := nodup_portals_iff.1 (hnodup .portals (by decide)) h hh
    exact sharesApart_iff.2 ⟨hbridges, hportals⟩
  · intro hapart home _
    have hbridges : ∀ h ∈ hopsOf c s, (bridgeRefs c h.1 h.2).Nodup := fun h hh =>
      (sharesApart_iff.1 (hapart h hh)).1
    have hportals : ∀ h ∈ hopsOf c s, (portalRefs c h.2).Nodup := fun h hh =>
      (sharesApart_iff.1 (hapart h hh)).2
    cases home with
    | outbounds => exact nodup_outbounds_iff.2 hbridges
    | bridges => exact nodup_bridges_iff.2 hbridges
    | portals => exact nodup_portals_iff.2 hportals
    | balancers => exact nodup_balancers c s
    | forwards => exact nodup_forwards c s

end

/-- **The tags of a compiled document are distinct exactly if no reverse binding gives a balancer two
ends of a link on the node**, provided that nothing in the document is from elsewhere: outbound templates
give one object each, without a tag of its own, and there is no base document. -/
theorem compile_tags_nodup {s s' : Store} {o : Options} {node : Node} {now : Nat} {a : Artifacts}
    (hnode : s.nodes.get? node.id = some node) (h : compile s o node.id now = (.ok a, s'))
    (hbase : baseFields (s.contextOf o node now) = [])
    (hplain : (hopFragments (s.contextOf o node now) s).all
      (·.isPlain (s.contextOf o node now)) = true) :
    a.configText = Json.pretty (.obj (documentOf (s.contextOf o node now) s)) ∧
      (∃ others, itemsOf "inbounds" (documentOf (s.contextOf o node now) s) =
        others ++ (s.tunnelsFrom node.id).map forwardInbound) ∧
      ∃ tags : List String,
        (TagSection.all.flatMap (·.items (documentOf (s.contextOf o node now) s)
          (s.tunnelsFrom node.id))).map (·.text? "tag") = tags.map some ∧
        (tags.Nodup ↔ ∀ p b, Hop (s.contextOf o node now) s p b →
          SharesApart (s.contextOf o node now) p b) := by
  obtain ⟨htext, hbalancers, hmerged⟩ := compile_document hnode h
  rw [hbase, hbalancers] at hmerged
  refine ⟨htext, ?_, (TagSection.all.flatMap (tagsIn (s.contextOf o node now) s)).map
    DocumentTag.text, ?_, ?_⟩
  · rw [hmerged.inbounds]
    unfold inboundsOf
    rw [forwards_draftOf, ← List.append_assoc]
    exact ⟨_, rfl⟩
  · rw [List.map_flatMap, List.map_map, List.map_flatMap]
    exact List.flatMap_congr fun home _ => tags_items hplain hmerged home
  · rw [List.nodup_map_iff DocumentTag.text_injective, nodup_tags_iff]
    exact ⟨fun hapart p b hhop => hapart (p, b) (mem_hopsOf.2 hhop),
      fun hapart h hh => hapart h.1 h.2 (mem_hopsOf.1 hh)⟩

/-! ## a binding that lists a balancer twice -/

/-- the hub with these allocations of its bridge; its direct outbound lists a balancer twice -/
def hubBridging (allocations : List Allocation) : Store := { hubStore with
  bindings := .ofList [
    ⟨1, "direct", .rule 7, 1, none, freedom, [⟨"main", 1⟩, ⟨"main", 2⟩]⟩,
    ⟨2, "bridge", .rule 7, 1, some 2, freedom, allocations⟩,
    ⟨3, "portal", .rule 7, 2, some 1, freedom, [⟨"main", 3⟩]⟩,
    ⟨4, "tunnel", .tunnel 5, 1, none, freedom, [⟨"main", 1⟩]⟩] }

def bridgingContext (allocations : List Allocation) : Context :=
  (hubBridging allocations).contextOf ⟨"/srv", ""⟩ hub 0

/-- two balancers, and one of them again without weight -/
def spread : List Allocation := [⟨"main", 2⟩, ⟨"spare", 1⟩, ⟨"main", 0⟩]

theorem compile_tags_nodup_spread :
    ∃ a s', compile (hubBridging spread) ⟨"/srv", ""⟩ hub.id 0 = (.ok a, s') ∧
      baseFields (bridgingContext spread) = [] ∧
      (hopFragments (bridgingContext spread) (hubBridging spread)).all
        (·.isPlain (bridgingContext spread)) = true ∧
      a.configText = Json.pretty (.obj (documentOf (bridgingContext spread) (hubBridging spread))) ∧
      ∃ tags : List String,
        (TagSection.all.flatMap (·.items (documentOf (bridgingContext spread) (hubBridging spread))
          ((hubBridging spread).tunnelsFrom hub.id))).map (·.text? "tag") = tags.map some ∧
        tags.Nodup := by
  have hnode : (hubBridging spread).nodes.get? hub.id = some hub := by decide +kernel
  have hstarts : (hubBridging spread).refusal? ⟨"/srv", ""⟩ hub.id = none := by decide +kernel
  have hplain : (hopFragments (bridgingContext spread) (hubBridging spread)).all
      (·.isPlain (bridgingContext spread)) = true := by decide +kernel
  have hapart : ∀ h ∈ hopsOf (bridgingContext spread) (hubBridging spread),
      SharesApart (bridgingContext spread) h.1 h.2 := by decide +kernel
  obtain ⟨a, s', hok⟩ := compile_of_refusal hstarts 0
  obtain ⟨htext, -, tags, htags, hnodup⟩ := compile_tags_nodup hnode hok rfl hplain
  refine ⟨a, s', hok, rfl, hplain, htext, tags, htags, hnodup.2 fun p b hhop => ?_⟩
  exact hapart (p, b) (mem_hopsOf.2 hhop)

/-- the same balancer twice -/
def doubled : List Allocation := [⟨"main", 1⟩, ⟨"main", 2⟩]

/-- the direct outbound is there once, the bridge and its outbound are there twice -/
theorem doubled_balancer_doubles_tags :
    (∃ a s', compile (hubBridging doubled) ⟨"/srv", ""⟩ hub.id 0 = (.ok a, s')) ∧
      baseFields (bridgingContext doubled) = [] ∧
      (hopFragments (bridgingContext doubled) (hubBridging doubled)).all
        (·.isPlain (bridgingContext doubled)) = true ∧
      (itemsOf "outbounds" (documentOf (bridgingContext doubled) (hubBridging doubled))).map
        (·.text? "tag") =
          [some "ro_7_1", some "ic-rb_7_2_2_main", some "ic-rb_7_2_2_main", some "to_5_4"] ∧
      (itemsOf "bridges" (fieldsOf "reverse"
        (documentOf (bridgingContext doubled) (hubBridging doubled)))).map (·.text? "tag") =
          [some "rb_7_2_2_main", some "rb_7_2_2_main"] := by
  refine ⟨compile_of_refusal (by decide +kernel) 0, rfl, by decide +kernel, ?_, ?_⟩
  · rw [documentOf_eq_merge]
    decide +kernel
  · rw [documentOf_eq_merge]
    decide +kernel

end ProxyMesh
