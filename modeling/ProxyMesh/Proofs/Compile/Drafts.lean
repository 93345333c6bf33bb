import ProxyMesh.Proofs.Compile.Fields
import ProxyMesh.Proofs.Compile.Splices
import ProxyMesh.Proofs.Compile.Users
import ProxyMesh.Proofs.Lists

/-!
# The links of a draft

A draft names outbounds and portals in two places: in the members of its balancers and in the
outbounds of its bridges.  Every step that adds such a name has added its target before, and no step
takes a target away.

* `Draft.body`             the draft without what is only reported;
* `Context.keepsTag`       an outbound template lets its first object have the tag that it is given;
* `Context.keepsTags`      so do all templates that the compile renders;
* `addOutbound_cases`      **an outbound that is added has its tag**;
* `Draft.Linked`           every member and every bridge has its target;
* `linked_addBinding`, `linked_addRule`, `linked_addTunnel`   each step keeps the links;
* `linked_draftOf`         **the whole draft is linked**.
-/

namespace ProxyMesh

/-- what goes into the document; reports and files to install aside -/
def Draft.body (d : Draft) : Draft := { d with dependents := .empty, skippedFragments := [] }

theorem Draft.outbounds_body (d : Draft) : d.body.outbounds = d.outbounds := rfl

theorem Draft.forwards_of_body {d d' : Draft} (h : d'.body = d.body) : d'.forwards = d.forwards := by
  show d'.body.forwards = d.body.forwards
  rw [h]

theorem Draft.consumers_of_body {d d' : Draft} (h : d'.body = d.body) : d'.consumers = d.consumers := by
  show d'.body.consumers = d.body.consumers
  rw [h]

/-! ## what templates are given -/

namespace Context

/-- what the outbound template of a binding sees -/
def outboundVars (c : Context) (b : Binding) (tag : String) (user : User) : Json :=
  c.varsWith [
    ("tag", .str tag), ("user", c.userJson user),
    ("combo", .ofOption (fun e => Json.ofFields [
      ("address", .str e.address), ("port", .ofNat e.port), ("sni", .ofText e.sni),
      ("host_header", .ofText e.hostHeader)]) b.connector.endpoint)]

def outboundObjects (c : Context) (b : Binding) (tag : String) (user : User) :
    Except SkipReason (List Json) :=
  (c.fragment b.connector.outboundTemplate (c.outboundVars b tag user)).1

/-- the first object has no tag of its own, or the one that the template is given -/
def keepsTag (c : Context) (b : Binding) (tag : String) (user : User) : Bool :=
  match c.outboundObjects b tag user with
  | .ok (first :: _) => (first.get? "tag").all (· == .str tag)
  | _ => true

/-- the outbounds of a binding that are rendered on the node -/
def keepsTagsOf (c : Context) (p : Principal) (b : Binding) : Bool :=
  b.nodeId != c.node.id || match b.portalNodeId with
    | none => b.shares.isEmpty || c.keepsTag b (TagRef.outbound b.scope b.id).encode p.user
    | some portal => b.shares.all fun a =>
      c.keepsTag b (interconnectTag (TagRef.reverse b.scope .bridge b.id portal a.balancer).encode)
        (reverseUser p.seed b a.balancer)

/-- the bindings of a rule, unless nobody uses the rule on the node -/
def keepsTagsOfRule (c : Context) (s : Store) (r : Rule) : Bool :=
  (s.ruleConsumers r.id c.node.id c.now).isEmpty ||
    (s.bindingsAt (.rule r.id) c.node.id).all
      (c.keepsTagsOf ⟨c.site.reverseSeed, .ofInternal (s.internalUserFor r.id c.node.id).1⟩)

def keepsTagsOfTunnel (c : Context) (s : Store) (t : Tunnel) : Bool :=
  (s.bindingsAt (.tunnel t.id) c.node.id).all (c.keepsTagsOf ⟨t.seed, tunnelUser t⟩)

/-- no outbound template that the compile renders gives its first object another tag -/
def keepsTags (c : Context) (s : Store) : Bool :=
  s.rules.records.all (c.keepsTagsOfRule s) && s.tunnels.records.all (c.keepsTagsOfTunnel s)

end Context

/-! ## fragments -/

section
variable {c : Context} {d : Draft} {tag template : String} {vars : Json} {objects : List Json}

theorem isObject_of_fragment (h : (c.fragment template vars).1 = .ok objects) :
    ∀ v ∈ objects, v.isObject = true := by
  unfold Context.fragment at h
  split at h
  · cases h
  · split at h
    · cases h
    · split at h
      · cases h
      · split at h
        next hparse =>
          obtain rfl := Except.ok.inj h
          exact (parseObjects_eq_ok_iff.1 hparse).2
        · cases h

theorem body_fragment (d : Draft) (c : Context) (kind : FragmentKind) (owner template : String)
    (vars : Json) : (d.fragment c kind owner template vars).2.body = d.body := by
  unfold Draft.fragment
  dsimp only
  split <;> rfl

theorem body_of_fragment {kind : FragmentKind} {owner : String} {result : Option (List Json)} {d' : Draft}
    (h : d.fragment c kind owner template vars = (result, d')) : d'.body = d.body := by
  rw [← body_fragment d c kind owner template vars, h]

theorem fragment_fst (d : Draft) (c : Context) (kind : FragmentKind) (owner template : String)
    (vars : Json) :
    (d.fragment c kind owner template vars).1 = (c.fragment template vars).1.toOption := by
  unfold Draft.fragment
  rcases c.fragment template vars with ⟨reason | objects, files⟩ <;> rfl

/-! ## outbounds -/

theorem tag_withTag {v : Json} (hobject : v.isObject = true)
    (hkeep : (v.get? "tag").all (· == .str tag) = true) :
    (Draft.withTag tag v).text? "tag" = some tag := by
  cases v with
  | obj fields =>
    cases htag : fields.lookup "tag" with
    | none =>
      have hnew : Draft.withTag tag (.obj fields) = .obj (place ("tag", .str tag) fields) := by
        simp [Draft.withTag, htag]
      rw [hnew]
      show ((place ("tag", Json.str tag) fields).lookup "tag").bind Json.asText? = some tag
      rw [lookup_place_self]
      rfl
    | some w =>
      have hsame : Draft.withTag tag (.obj fields) = .obj fields := by
        simp [Draft.withTag, htag]
      have hall : (fields.lookup "tag").all (· == .str tag) = true := hkeep
      rw [htag] at hall
      obtain rfl : w = .str tag := eq_of_beq hall
      rw [hsame]
      show (fields.lookup "tag").bind Json.asText? = some tag
      rw [htag]
      rfl
  | _ => cases hobject

theorem addOutbound_eq (d : Draft) (c : Context) (b : Binding) (tag : String) (user : User) :
    d.addOutbound c b tag user =
      match d.fragment c .outbound ("binding " ++ toString b.id) b.connector.outboundTemplate
        (c.outboundVars b tag user) with
      | (some (first :: rest), d) =>
        (true, { d with outbounds := d.outbounds ++ Draft.tagFirst tag (first :: rest) })
      | (_, d) => (false, d) := by
  unfold Draft.addOutbound Context.outboundVars
  rfl

theorem addOutbound_cases (d : Draft) {b : Binding} {user : User}
    (hkeep : c.keepsTag b tag user = true) :
    ((d.addOutbound c b tag user).1 = false ∧ (d.addOutbound c b tag user).2.body = d.body) ∨
      ∃ more, (d.addOutbound c b tag user).1 = true ∧ HasTag more tag ∧
        (d.addOutbound c b tag user).2.body = { d.body with outbounds := d.outbounds ++ more } := by
  have hfst := fragment_fst d c .outbound ("binding " ++ toString b.id) b.connector.outboundTemplate
    (c.outboundVars b tag user)
  have hbody := body_fragment d c .outbound ("binding " ++ toString b.id) b.connector.outboundTemplate
    (c.outboundVars b tag user)
  rw [addOutbound_eq]
  generalize d.fragment c .outbound ("binding " ++ toString b.id) b.connector.outboundTemplate
    (c.outboundVars b tag user) = result at hfst hbody ⊢
  rcases result with ⟨_ | _ | ⟨first, rest⟩, d'⟩
  · exact Or.inl ⟨rfl, hbody⟩
  · exact Or.inl ⟨rfl, hbody⟩
  · have hobjects : c.outboundObjects b tag user = .ok (first :: rest) := by
      unfold Context.outboundObjects
      cases hf : (c.fragment b.connector.outboundTemplate (c.outboundVars b tag user)).1 with
      | error reason =>
        rw [hf] at hfst
        cases hfst
      | ok objects =>
        rw [hf] at hfst
        rw [Option.some.inj hfst]
    have hfirst : first.isObject = true := isObject_of_fragment hobjects first List.mem_cons_self
    unfold Context.keepsTag at hkeep
    rw [hobjects] at hkeep
    refine Or.inr ⟨Draft.tagFirst tag (first :: rest), rfl, ?_, ?_⟩
    · exact ⟨Draft.withTag tag first, List.mem_cons_self, tag_withTag hfirst hkeep⟩
    · have hsame : d'.body = d.body := hbody
      show { d'.body with outbounds := d'.body.outbounds ++ Draft.tagFirst tag (first :: rest) } = _
      rw [hsame]
      rfl

/-! ## links -/

namespace Draft

/-- the tag of an outbound, or of a portal -/
def Reaches (d : Draft) (tag : String) : Prop :=
  HasTag d.outbounds tag ∨ ∃ p ∈ d.portals, p.tag = tag

/-- every name in the draft has its target there -/
structure Linked (d : Draft) : Prop where
  members : ∀ m ∈ d.members.records, ∀ candidate ∈ m.2.candidates, d.Reaches candidate.tag
  bridges : ∀ b ∈ d.bridges, HasTag d.outbounds b.outbound

theorem linked_empty : Linked empty :=
  ⟨fun _ hm => absurd hm List.not_mem_nil, fun _ hb => absurd hb List.not_mem_nil⟩

theorem linked_of_body {d d' : Draft} (hbody : d'.body = d.body) (h : d.Linked) : d'.Linked := by
  have hlinked : d.body.Linked := ⟨h.members, h.bridges⟩
  rw [← hbody] at hlinked
  exact ⟨hlinked.members, hlinked.bridges⟩

theorem hasTag_append {l more : List Json} {tag : String} (h : HasTag l tag) :
    HasTag (l ++ more) tag := by
  obtain ⟨v, hv, htag⟩ := h
  exact ⟨v, List.mem_append_left _ hv, htag⟩

theorem linked_addOutbounds {d : Draft} (h : d.Linked) (more : List Json) :
    Linked { d with outbounds := d.outbounds ++ more } := by
  refine ⟨fun m hm candidate hc => ?_, fun b hb => hasTag_append (h.bridges b hb)⟩
  exact (h.members m hm candidate hc).imp hasTag_append id

theorem linked_addPortal {d : Draft} (h : d.Linked) (link : PortalLink) : (d.addPortal link).Linked := by
  refine ⟨fun m hm candidate hc => ?_, h.bridges⟩
  rcases h.members m hm candidate hc with hout | ⟨p, hp, htag⟩
  · exact Or.inl hout
  · exact Or.inr ⟨p, List.mem_append_left _ hp, htag⟩

theorem linked_addBridge {d : Draft} (h : d.Linked) {link : BridgeLink}
    (hlink : HasTag d.outbounds link.outbound) : (d.addBridge link).Linked := by
  refine ⟨h.members, fun b hb => ?_⟩
  rcases List.mem_append.1 hb with hb | hb
  · exact h.bridges b hb
  · exact List.mem_singleton.1 hb ▸ hlink

/-- a member may be added once its tag is that of an outbound or a portal -/
theorem linked_addMember {d : Draft} (h : d.Linked) {tag : String} (htag : d.Reaches tag)
    (scope : Scope) (balancer : String) (weight : Nat) :
    (d.addMember scope balancer tag weight).Linked := by
  refine ⟨fun m hm candidate hc => ?_, h.bridges⟩
  show d.Reaches candidate.tag
  rcases mem_place hm with rfl | hm
  · rcases List.mem_append.1 hc with hc | hc
    · cases hget : d.members.get? (balancerTag scope balancer) with
      | none =>
        rw [hget] at hc
        cases hc
      | some old =>
        rw [hget] at hc
        exact h.members old (Table.mem_of_get? hget) candidate hc
    · rw [List.mem_singleton.1 hc]
      exact htag
  · exact h.members m hm candidate hc

theorem linked_addConsumers {d : Draft} (h : d.Linked) (c : Context) (users : List User) :
    (d.addConsumers c users).Linked := by
  induction users generalizing d with
  | nil => exact h
  | cons u rest ih =>
    have hone : (d.addConsumer c u).Linked := ⟨h.members, h.bridges⟩
    exact ih hone

end Draft

/-- an outbound leaves the draft linked, and one that is added can be named -/
theorem linked_addOutbound {b : Binding} {user : User} (h : d.Linked)
    (hkeep : c.keepsTag b tag user = true) :
    (d.addOutbound c b tag user).2.Linked ∧
      ((d.addOutbound c b tag user).1 = true → HasTag (d.addOutbound c b tag user).2.outbounds tag) := by
  rcases addOutbound_cases d hkeep with ⟨hnone, hbody⟩ | ⟨more, -, ⟨v, hv, hvtag⟩, hbody⟩
  · refine ⟨Draft.linked_of_body hbody h, fun hadded => ?_⟩
    rw [hnone] at hadded
    cases hadded
  · have hmore : (d.addOutbound c b tag user).2.body =
        ({ d with outbounds := d.outbounds ++ more } : Draft).body := hbody
    have houtbounds : (d.addOutbound c b tag user).2.outbounds = d.outbounds ++ more := by
      rw [← Draft.outbounds_body, hmore, Draft.outbounds_body]
    refine ⟨Draft.linked_of_body hmore (Draft.linked_addOutbounds h more), fun _ => ?_⟩
    rw [houtbounds]
    exact ⟨v, List.mem_append_right _ hv, hvtag⟩

end

/-! ## bindings -/

section
variable {c : Context} {p : Principal} {b : Binding} {a : Allocation} {portal : Id}
  {state : Draft × UsedTags}

theorem linked_addPortalEnd (h : state.1.Linked) : (addPortalEnd c p b a state).1.Linked := by
  obtain ⟨d, used⟩ := state
  unfold addPortalEnd
  dsimp only
  generalize (TagRef.reverse b.scope .portal b.id b.nodeId a.balancer).encode = tag
  generalize reverseDomain b.scope b.id a.balancer c.site.userDomain = domain
  have hportal := Draft.linked_addPortal h ⟨tag, domain, c.email (reverseUser p.seed b a.balancer)⟩
  have hconsumer := Draft.linked_addConsumers hportal c [reverseUser p.seed b a.balancer]
  refine Draft.linked_addMember hconsumer ?_ b.scope a.balancer a.weight
  exact Or.inr ⟨_, List.mem_append_right _ (List.mem_singleton_self _), rfl⟩

theorem linked_addBridgeEnd (h : state.1.Linked)
    (hkeep : c.keepsTag b
      (interconnectTag (TagRef.reverse b.scope .bridge b.id portal a.balancer).encode)
      (reverseUser p.seed b a.balancer) = true) : (addBridgeEnd c p b portal a state).1.Linked := by
  obtain ⟨d, used⟩ := state
  obtain ⟨hlinked, htag⟩ := linked_addOutbound h hkeep
  unfold addBridgeEnd
  dsimp only
  split
  next hout =>
    rw [hout] at hlinked htag
    exact Draft.linked_addBridge hlinked (htag rfl)
  next hout =>
    rw [hout] at hlinked
    exact hlinked

theorem linked_addReverse (h : state.1.Linked) {shares : List Allocation}
    (hkeep : b.nodeId = c.node.id → ∀ a ∈ shares, c.keepsTag b
      (interconnectTag (TagRef.reverse b.scope .bridge b.id portal a.balancer).encode)
      (reverseUser p.seed b a.balancer) = true) :
    (shares.foldl (addReverse c p b portal) state).1.Linked := by
  induction shares generalizing state with
  | nil => exact h
  | cons a rest ih =>
    refine ih ?_ fun hnode a' ha' => hkeep hnode a' (List.mem_cons_of_mem _ ha')
    have hend : (if c.node.id = portal then addPortalEnd c p b a state else state).1.Linked := by
      split
      · exact linked_addPortalEnd h
      · exact h
    unfold addReverse
    dsimp only
    split
    next hnode => exact linked_addBridgeEnd hend (hkeep hnode.symm a List.mem_cons_self)
    · exact hend

theorem linked_addMembers {d : Draft} (h : d.Linked) {tag : String} (htag : HasTag d.outbounds tag)
    (scope : Scope) (shares : List Allocation) :
    (shares.foldl (fun d a => d.addMember scope a.balancer tag a.weight) d).Linked := by
  induction shares generalizing d with
  | nil => exact h
  | cons a rest ih =>
    exact ih (Draft.linked_addMember h (Or.inl htag) scope a.balancer a.weight) htag

theorem linked_addDirect (h : state.1.Linked)
    (hkeep : c.keepsTag b (TagRef.outbound b.scope b.id).encode p.user = true) :
    (addDirect c p b state).1.Linked := by
  obtain ⟨d, used⟩ := state
  obtain ⟨hlinked, htag⟩ := linked_addOutbound h hkeep
  unfold addDirect
  dsimp only
  split
  next hout =>
    rw [hout] at hlinked htag
    exact linked_addMembers hlinked (htag rfl) b.scope b.shares
  next hout =>
    rw [hout] at hlinked
    exact hlinked

theorem linked_addBinding (h : state.1.Linked) (hkeep : c.keepsTagsOf p b = true) :
    (addBinding c p state b).1.Linked := by
  unfold Context.keepsTagsOf at hkeep
  rw [Bool.or_eq_true] at hkeep
  unfold addBinding
  split
  · exact h
  next hshares =>
    split
    next portal hportal =>
      refine linked_addReverse h fun hnode => ?_
      rcases hkeep with hother | hkeep
      · exact absurd hnode (bne_iff_ne.1 hother)
      · rw [hportal] at hkeep
        exact List.all_eq_true.1 hkeep
    next hportal =>
      split
      next hnode =>
        rcases hkeep with hother | hkeep
        · exact absurd hnode (bne_iff_ne.1 hother)
        · rw [hportal] at hkeep
          exact linked_addDirect h ((Bool.or_eq_true_iff.1 hkeep).resolve_left hshares)
      · exact h

theorem linked_addBindings (h : state.1.Linked) {bindings : List Binding}
    (hkeep : bindings.all (c.keepsTagsOf p) = true) :
    (bindings.foldl (addBinding c p) state).1.Linked := by
  induction bindings generalizing state with
  | nil => exact h
  | cons b rest ih =>
    rw [List.all_cons, Bool.and_eq_true] at hkeep
    exact ih (linked_addBinding h hkeep.1) hkeep.2

end

/-! ## rules and tunnels -/

section
variable {c : Context} {s : Store} {d : Draft}

theorem linked_addTemplateRules (h : d.Linked) (c : Context) (r : Rule) (consumers : List User)
    (used : UsedTags) : (addTemplateRules c r consumers d used).Linked := by
  unfold addTemplateRules
  dsimp only
  split
  next hrules =>
    have hlinked := Draft.linked_of_body (body_of_fragment hrules) h
    exact ⟨hlinked.members, hlinked.bridges⟩
  next hrules => exact Draft.linked_of_body (body_of_fragment hrules) h

theorem linked_addRule (h : d.Linked) {r : Rule} (hkeep : c.keepsTagsOfRule s r = true) :
    (addRule c (d, s) r).1.Linked := by
  unfold Context.keepsTagsOfRule at hkeep
  rw [Bool.or_eq_true] at hkeep
  unfold addRule
  dsimp only
  split
  · exact h
  · split
    · exact ⟨h.members, h.bridges⟩
    next hconsumers =>
      have hbindings := hkeep.resolve_left hconsumers
      have hconsumers := Draft.linked_addConsumers h c (s.ruleConsumers r.id c.node.id c.now)
      exact linked_addTemplateRules (linked_addBindings hconsumers hbindings) c r _ _

/-- what the templates of a rule are given does not depend on the rules before it -/
theorem keepsTagsOfRule_join (c : Context) (s : Store) (rule : Id) (r : Rule) :
    c.keepsTagsOfRule (s.join c.now (rule, c.node.id)) r = c.keepsTagsOfRule s r := by
  unfold Context.keepsTagsOfRule
  rw [Store.ruleConsumers_join, Store.internalUserFor_join, Store.bindingsAt_join]

theorem linked_addRules (h : d.Linked) {rules : List Rule}
    (hkeep : rules.all (c.keepsTagsOfRule s) = true) : (rules.foldl (addRule c) (d, s)).1.Linked := by
  induction rules generalizing d s with
  | nil => exact h
  | cons r rest ih =>
    rw [List.all_cons, Bool.and_eq_true] at hkeep
    have hstore := Store.addRule_store c d s r
    have hnext := linked_addRule h hkeep.1
    rw [List.foldl_cons]
    generalize addRule c (d, s) r = next at *
    obtain ⟨d', s'⟩ := next
    obtain rfl : s' = s.join c.now (r.id, c.node.id) := hstore
    refine ih hnext ?_
    rw [List.all_eq_true] at hkeep ⊢
    intro r' hr'
    rw [keepsTagsOfRule_join]
    exact hkeep.2 r' hr'

theorem linked_addTunnel (h : d.Linked) {t : Tunnel} (hkeep : c.keepsTagsOfTunnel s t = true) :
    (addTunnel c s d t).Linked := by
  unfold addTunnel
  dsimp only
  refine linked_addBindings ?_ hkeep
  split
  · split <;> exact ⟨h.members, h.bridges⟩
  · split <;> exact ⟨h.members, h.bridges⟩

theorem linked_addTunnels (h : d.Linked) {tunnels : List Tunnel}
    (hkeep : tunnels.all (c.keepsTagsOfTunnel s) = true) :
    (tunnels.foldl (addTunnel c s) d).Linked := by
  induction tunnels generalizing d with
  | nil => exact h
  | cons t rest ih =>
    rw [List.all_cons, Bool.and_eq_true] at hkeep
    exact ih (linked_addTunnel h hkeep.1) hkeep.2

/-- **everything that the draft of a node names is there** -/
theorem linked_draftOf (hkeep : c.keepsTags s = true) : (draftOf c s).1.Linked := by
  unfold Context.keepsTags at hkeep
  rw [Bool.and_eq_true] at hkeep
  obtain ⟨hrules, htunnels⟩ := hkeep
  have hlinked := linked_addRules Draft.linked_empty hrules
  have hstore := Store.foldl_addRule_store c s.rules.records .empty s
  unfold draftOf
  dsimp only
  generalize s.rules.records.foldl (addRule c) (.empty, s) = state at *
  obtain ⟨d, s'⟩ := state
  obtain rfl : s' = _ := hstore
  refine linked_addTunnels hlinked ?_
  rw [← Store.withUsers_joinAll]
  exact htunnels

end
end ProxyMesh
