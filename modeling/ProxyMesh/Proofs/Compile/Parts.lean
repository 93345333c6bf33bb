import ProxyMesh.Proofs.Compile.Drafts

/-!
# A draft, part by part

The steps of a compile only ever add to the draft, and what they add does not depend on what is in it.
So a draft is a list of parts, added one after the other, and the list can be read off the store.

* `Part`, `Draft.add`        what a step may add;
* `Context.outboundEntries`  the outbounds of a binding, none if its fragment is left out;
* `bindingParts`, `ruleParts`, `tunnelParts`, `partsOf`   the parts of each step, and of a whole compile;
* `links_addBinding`, `links_addRule`, `links_addTunnel`   each step adds its parts;
* `draftOf_links`            **a draft is its parts, added in order**.
-/

namespace ProxyMesh

inductive Part where
  | consumer (user : User)
  | forward (tunnel : Tunnel)
  | outbounds (entries : List Json)
  | portal (link : PortalLink)
  | bridge (link : BridgeLink)
  | member (scope : Scope) (balancer tag : String) (weight : Nat)

namespace Draft

def add (c : Context) (d : Draft) : Part → Draft
  | .consumer user => d.addConsumer c user
  | .forward tunnel => d.addForward tunnel
  | .outbounds entries => { d with outbounds := d.outbounds ++ entries }
  | .portal link => d.addPortal link
  | .bridge link => d.addBridge link
  | .member scope balancer tag weight => d.addMember scope balancer tag weight

/-- what leads to other nodes; the rules of templates and all reports aside -/
def links (d : Draft) : Draft := { d.body with templateRules := [], skippedRules := [] }

theorem links_add (c : Context) (d : Draft) (part : Part) :
    (d.add c part).links = d.links.add c part := by
  cases part <;> rfl

theorem links_foldl_add (c : Context) (parts : List Part) (d : Draft) :
    (parts.foldl (add c) d).links = parts.foldl (add c) d.links := by
  induction parts generalizing d with
  | nil => rfl
  | cons part rest ih => rw [List.foldl_cons, List.foldl_cons, ih, links_add]

theorem links_of_body {d d' : Draft} (h : d'.body = d.body) : d'.links = d.links := by
  unfold links
  rw [h]

end Draft

/-! ## the parts of a compile -/

namespace Context

/-- the outbounds of a binding, the first with its tag -/
def outboundEntries (c : Context) (b : Binding) (tag : String) (user : User) : List Json :=
  match c.outboundObjects b tag user with
  | .ok objects => Draft.tagFirst tag objects
  | .error _ => []

end Context

/-- the tag of an end of a reverse link -/
def reverseTag (b : Binding) (side : ReverseSide) (peer : Id) (a : Allocation) : String :=
  (TagRef.reverse b.scope side b.id peer a.balancer).encode

def directTag (b : Binding) : String := (TagRef.outbound b.scope b.id).encode

/-- the domain that the two ends of a link share -/
def linkDomain (c : Context) (b : Binding) (a : Allocation) : String :=
  reverseDomain b.scope b.id a.balancer c.site.userDomain

def portalLink (c : Context) (p : Principal) (b : Binding) (a : Allocation) : PortalLink :=
  ⟨reverseTag b .portal b.nodeId a, linkDomain c b a, c.email (reverseUser p.seed b a.balancer)⟩

def bridgeLink (c : Context) (b : Binding) (portal : Id) (a : Allocation) : BridgeLink :=
  ⟨reverseTag b .bridge portal a, linkDomain c b a, interconnectTag (reverseTag b .bridge portal a),
    balancerTag b.scope a.balancer⟩

/-- what a bridge sends to its portal through -/
def interconnectEntries (c : Context) (p : Principal) (b : Binding) (portal : Id) (a : Allocation) :
    List Json :=
  c.outboundEntries b (interconnectTag (reverseTag b .bridge portal a))
    (reverseUser p.seed b a.balancer)

def portalParts (c : Context) (p : Principal) (b : Binding) (a : Allocation) : List Part :=
  [.portal (portalLink c p b a), .consumer (reverseUser p.seed b a.balancer),
    .member b.scope a.balancer (reverseTag b .portal b.nodeId a) a.weight]

def bridgeParts (c : Context) (p : Principal) (b : Binding) (portal : Id) (a : Allocation) :
    List Part :=
  let entries := interconnectEntries c p b portal a
  if entries.isEmpty then [] else [.outbounds entries, .bridge (bridgeLink c b portal a)]

def reverseParts (c : Context) (p : Principal) (b : Binding) (portal : Id) (a : Allocation) :
    List Part :=
  (if c.node.id = portal then portalParts c p b a else []) ++
    if c.node.id = b.nodeId then bridgeParts c p b portal a else []

def directParts (c : Context) (p : Principal) (b : Binding) : List Part :=
  let entries := c.outboundEntries b (directTag b) p.user
  if entries.isEmpty then []
  else .outbounds entries :: b.shares.map fun a => .member b.scope a.balancer (directTag b) a.weight

def bindingParts (c : Context) (p : Principal) (b : Binding) : List Part :=
  match b.portalNodeId with
  | some portal => b.shares.flatMap (reverseParts c p b portal)
  | none => if b.nodeId = c.node.id ∧ b.shares ≠ [] then directParts c p b else []

/-- for whom the bindings of a rule are rendered -/
def rulePrincipal (c : Context) (s : Store) (r : Rule) : Principal :=
  ⟨c.site.reverseSeed, .ofInternal (s.internalUserFor r.id c.node.id).1⟩

def tunnelPrincipal (t : Tunnel) : Principal := ⟨t.seed, tunnelUser t⟩

def ruleParts (c : Context) (s : Store) (r : Rule) : List Part :=
  let consumers := s.ruleConsumers r.id c.node.id c.now
  let bindings := s.bindingsAt (.rule r.id) c.node.id
  if bindings.isEmpty || consumers.isEmpty then []
  else consumers.map .consumer ++ bindings.flatMap (bindingParts c (rulePrincipal c s r))

def tunnelParts (c : Context) (s : Store) (t : Tunnel) : List Part :=
  (if c.node.id = t.sourceNodeId then [.forward t] else []) ++
    (if c.node.id = t.destNodeId then [.consumer (tunnelUser t)] else []) ++
    (s.bindingsAt (.tunnel t.id) c.node.id).flatMap (bindingParts c (tunnelPrincipal t))

def partsOf (c : Context) (s : Store) : List Part :=
  s.rules.records.flatMap (ruleParts c s) ++ s.tunnels.records.flatMap (tunnelParts c s)

/-! ## every step adds its parts -/

section
variable {c : Context} {s : Store} {d : Draft} {p : Principal} {b : Binding} {a : Allocation}
  {portal : Id} {state : Draft × UsedTags}

theorem addOutbound_entries (d : Draft) (c : Context) (b : Binding) (tag : String) (user : User) :
    (∃ d', c.outboundEntries b tag user = [] ∧ d.addOutbound c b tag user = (false, d') ∧
      d'.links = d.links) ∨
      ∃ d', c.outboundEntries b tag user ≠ [] ∧ d.addOutbound c b tag user = (true, d') ∧
        d'.links = d.links.add c (.outbounds (c.outboundEntries b tag user)) := by
  have hfst := fragment_fst d c .outbound ("binding " ++ toString b.id) b.connector.outboundTemplate
    (c.outboundVars b tag user)
  have hbody := body_fragment d c .outbound ("binding " ++ toString b.id) b.connector.outboundTemplate
    (c.outboundVars b tag user)
  rw [addOutbound_eq]
  unfold Context.outboundEntries Context.outboundObjects
  generalize d.fragment c .outbound ("binding " ++ toString b.id) b.connector.outboundTemplate
    (c.outboundVars b tag user) = result at hfst hbody ⊢
  obtain ⟨objects, d'⟩ := result
  have hlinks : d'.links = d.links := Draft.links_of_body hbody
  cases hf : (c.fragment b.connector.outboundTemplate (c.outboundVars b tag user)).1 with
  | error reason =>
    rw [hf] at hfst
    obtain rfl : objects = none := hfst
    exact Or.inl ⟨d', rfl, rfl, hlinks⟩
  | ok rendered =>
    rw [hf] at hfst
    obtain rfl : objects = some rendered := hfst
    cases rendered with
    | nil => exact Or.inl ⟨d', rfl, rfl, hlinks⟩
    | cons first rest =>
      refine Or.inr ⟨_, List.cons_ne_nil _ _, rfl, ?_⟩
      rw [← hlinks]
      rfl

theorem links_addPortalEnd (c : Context) (p : Principal) (b : Binding) (a : Allocation)
    (state : Draft × UsedTags) : (addPortalEnd c p b a state).1.links =
      (portalParts c p b a).foldl (Draft.add c) state.1.links := rfl

theorem links_addBridgeEnd (c : Context) (p : Principal) (b : Binding) (portal : Id) (a : Allocation)
    (state : Draft × UsedTags) : (addBridgeEnd c p b portal a state).1.links =
      (bridgeParts c p b portal a).foldl (Draft.add c) state.1.links := by
  obtain ⟨d, used⟩ := state
  unfold addBridgeEnd bridgeParts interconnectEntries reverseTag
  dsimp only
  rcases addOutbound_entries d c b (interconnectTag (TagRef.reverse b.scope .bridge b.id portal
    a.balancer).encode) (reverseUser p.seed b a.balancer) with
    ⟨d', hnone, hadd, hlinks⟩ | ⟨d', hsome, hadd, hlinks⟩
  · rw [hadd, hnone]
    exact hlinks
  · rw [hadd, List.isEmpty_eq_false_iff.2 hsome]
    show d'.links.addBridge _ = _
    rw [hlinks]
    rfl

theorem links_addReverse (c : Context) (p : Principal) (b : Binding) (portal : Id)
    (state : Draft × UsedTags) (a : Allocation) : (addReverse c p b portal state a).1.links =
      (reverseParts c p b portal a).foldl (Draft.add c) state.1.links := by
  unfold addReverse reverseParts
  dsimp only
  rw [List.foldl_append]
  have hend : (if c.node.id = portal then addPortalEnd c p b a state else state).1.links =
      (if c.node.id = portal then portalParts c p b a else []).foldl (Draft.add c)
        state.1.links := by
    split
    · exact links_addPortalEnd c p b a state
    · rfl
  rw [← hend]
  generalize (if c.node.id = portal then addPortalEnd c p b a state else state) = between
  split
  · exact links_addBridgeEnd c p b portal a between
  · rfl

/-- steps that add their parts add them all, one step after the other -/
theorem links_foldl {α β : Type} {step : Draft × β → α → Draft × β} {parts : α → List Part}
    (hstep : ∀ state x, (step state x).1.links = (parts x).foldl (Draft.add c) state.1.links)
    (l : List α) (state : Draft × β) : (l.foldl step state).1.links =
      (l.flatMap parts).foldl (Draft.add c) state.1.links :=
  foldl_view (fun state : Draft × β => state.1.links) hstep l state

theorem foldl_addMember (d : Draft) (tag : String) (shares : List Allocation) :
    shares.foldl (fun d a => d.addMember b.scope a.balancer tag a.weight) d =
      (shares.map fun a => Part.member b.scope a.balancer tag a.weight).foldl (Draft.add c) d := by
  rw [List.foldl_map]
  rfl

theorem links_addDirect (c : Context) (p : Principal) (b : Binding) (state : Draft × UsedTags) :
    (addDirect c p b state).1.links = (directParts c p b).foldl (Draft.add c) state.1.links := by
  obtain ⟨d, used⟩ := state
  unfold addDirect directParts directTag
  dsimp only
  rcases addOutbound_entries d c b (TagRef.outbound b.scope b.id).encode p.user with
    ⟨d', hnone, hadd, hlinks⟩ | ⟨d', hsome, hadd, hlinks⟩
  · rw [hadd, hnone]
    exact hlinks
  · rw [hadd, List.isEmpty_eq_false_iff.2 hsome]
    show (b.shares.foldl (fun (d : Draft) (a : Allocation) => d.addMember b.scope a.balancer
      (TagRef.outbound b.scope b.id).encode a.weight) d').links = _
    rw [foldl_addMember (c := c), Draft.links_foldl_add, hlinks]
    rfl

theorem links_addBinding (c : Context) (p : Principal) (state : Draft × UsedTags) (b : Binding) :
    (addBinding c p state b).1.links = (bindingParts c p b).foldl (Draft.add c) state.1.links := by
  unfold addBinding bindingParts
  by_cases hshares : b.shares = []
  · rw [hshares]
    cases b.portalNodeId <;> simp
  · rw [List.isEmpty_eq_false_iff.2 hshares]
    cases b.portalNodeId with
    | some portal => exact links_foldl (links_addReverse c p b portal) b.shares state
    | none =>
      by_cases hnode : b.nodeId = c.node.id
      · simp only [hnode, hshares, ne_eq, not_false_eq_true, and_self, ↓reduceIte]
        exact links_addDirect c p b state
      · simp [hnode]

theorem links_addConsumers (c : Context) (d : Draft) (users : List User) :
    (d.addConsumers c users).links =
      (users.map Part.consumer).foldl (Draft.add c) d.links := by
  have hadd : d.addConsumers c users = (users.map Part.consumer).foldl (Draft.add c) d := by
    rw [List.foldl_map]
    rfl
  rw [hadd, Draft.links_foldl_add]

theorem links_addTemplateRules (c : Context) (r : Rule) (consumers : List User) (d : Draft)
    (used : UsedTags) : (addTemplateRules c r consumers d used).links = d.links := by
  unfold addTemplateRules
  dsimp only
  split
  next rules d' hrules =>
    show d'.links = d.links
    exact Draft.links_of_body (body_of_fragment hrules)
  next hrules => exact Draft.links_of_body (body_of_fragment hrules)

theorem links_addRule (c : Context) (d : Draft) (s : Store) (r : Rule) :
    (addRule c (d, s) r).1.links = (ruleParts c s r).foldl (Draft.add c) d.links := by
  unfold addRule ruleParts
  dsimp only
  split
  next hbindings => rw [hbindings]; rfl
  next hbindings =>
    split
    next hconsumers => rw [hconsumers, Bool.or_true]; rfl
    next hconsumers =>
      rw [Bool.eq_false_iff.2 hbindings, Bool.eq_false_iff.2 hconsumers, links_addTemplateRules,
        links_foldl (links_addBinding c _), links_addConsumers]
      exact List.foldl_append.symm

theorem ruleParts_join (c : Context) (s : Store) (rule : Id) (r : Rule) :
    ruleParts c (s.join c.now (rule, c.node.id)) r = ruleParts c s r := by
  unfold ruleParts rulePrincipal
  rw [Store.ruleConsumers_join, Store.bindingsAt_join, Store.internalUserFor_join]

/-- the users that the rules before it make change no part of a rule -/
theorem links_addRules (c : Context) (rules : List Rule) (d : Draft) (s : Store) :
    (rules.foldl (addRule c) (d, s)).1.links =
      (rules.flatMap (ruleParts c s)).foldl (Draft.add c) d.links := by
  induction rules generalizing d s with
  | nil => rfl
  | cons r rest ih =>
    have hlinks := links_addRule c d s r
    have hstore := Store.addRule_store c d s r
    rw [List.foldl_cons, List.flatMap_cons, List.foldl_append]
    generalize addRule c (d, s) r = next at hlinks hstore ⊢
    obtain ⟨d', s'⟩ := next
    obtain rfl : s' = s.join c.now (r.id, c.node.id) := hstore
    rw [ih, hlinks, funext (ruleParts_join c s r.id)]

theorem links_addTunnel (c : Context) (s : Store) (d : Draft) (t : Tunnel) :
    (addTunnel c s d t).links = (tunnelParts c s t).foldl (Draft.add c) d.links := by
  unfold addTunnel tunnelParts
  dsimp only
  rw [links_foldl (links_addBinding c _), List.foldl_append, List.foldl_append]
  congr 1
  split <;> split <;> rfl

/-- **a draft is its parts, added in order** -/
theorem draftOf_links (c : Context) (s : Store) :
    (draftOf c s).1.links = (partsOf c s).foldl (Draft.add c) .empty := by
  have hrules := links_addRules c s.rules.records .empty s
  have hstore := Store.foldl_addRule_store c s.rules.records .empty s
  unfold draftOf partsOf
  dsimp only
  rw [List.foldl_append]
  generalize s.rules.records.foldl (addRule c) (.empty, s) = state at hrules hstore ⊢
  obtain ⟨d, s'⟩ := state
  obtain rfl : s' = _ := hstore
  rw [foldl_view Draft.links (links_addTunnel c _), hrules]
  congr 1
  rw [← Store.withUsers_joinAll]
  rfl

end
end ProxyMesh
