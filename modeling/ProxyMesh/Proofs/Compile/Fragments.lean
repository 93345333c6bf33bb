import ProxyMesh.Proofs.Compile.Contents
import ProxyMesh.Proofs.Compile.Documents
import ProxyMesh.Proofs.Compile.Reads

/-!
# Every fragment of a compile

A compile renders one template after the other.  What a fragment leaves behind by itself, apart from the
part that is made of its objects, does not depend on the draft: its files, its report if it is left out,
and its routing rules if it is the template of a rule.  So all of this can be read off the store, as the
list of the fragments in the order in which they are rendered.

* `Fragment`                  a template to be rendered for a node;
* `Draft.render`, `Draft.note`   what a fragment leaves behind;
* `bindingFragments`, `ruleFragments`, `tunnelFragments`, `balancerFragments`, `inboundFragments`,
  `fragmentsOf`               the fragments of each step, and of a whole compile;
* `notes_draftOf`, `notes_renderedOf`   **a compile leaves behind what its fragments do, in order**;
* `dependents_renderedOf`, `skippedFragments_renderedOf`, `templateRules_draftOf`   the three of them;
* `buildArtifacts_eq`         **the artifacts of a node with all their parts named**.
-/

namespace ProxyMesh

/-- a template to be rendered for a node -/
structure Fragment where
  kind : FragmentKind
  owner : String
  template : String
  vars : Json

namespace Fragment

variable (f : Fragment) (c : Context)

def result : Except SkipReason (List Json) := (c.fragment f.template f.vars).1

def files : List (String × FileSpec) := (c.fragment f.template f.vars).2

/-- the report on a fragment that is left out -/
def skipped : Option SkippedFragment :=
  match f.result c with
  | .ok _ => none
  | .error reason => some ⟨f.kind, f.owner, reason⟩

/-- the routing rules that a rule brings along -/
def rules : List Json := if f.kind = .rules then c.objects f.template f.vars else []

end Fragment

namespace Draft

/-- the draft after a fragment was rendered -/
def render (c : Context) (d : Draft) (f : Fragment) : Draft :=
  { d with
    dependents := d.dependents.putAll (f.files c)
    skippedFragments := d.skippedFragments ++ (f.skipped c).toList }

/-- the draft with all that a fragment leaves behind by itself -/
def note (c : Context) (d : Draft) (f : Fragment) : Draft :=
  { d.render c f with templateRules := d.templateRules ++ f.rules c }

/-- what fragments leave behind -/
def notes (d : Draft) : Draft := { empty with
  templateRules := d.templateRules
  dependents := d.dependents
  skippedFragments := d.skippedFragments }

section
variable {c : Context} {d : Draft} {f : Fragment}

theorem note_of_ne (h : f.kind ≠ .rules) : d.note c f = d.render c f := by
  unfold note Fragment.rules
  rw [if_neg h, List.append_nil]
  rfl

theorem notes_render (h : f.kind ≠ .rules) : (d.render c f).notes = d.notes.note c f := by
  rw [note_of_ne h]
  rfl

end
end Draft

theorem fragment_eq (d : Draft) (c : Context) (f : Fragment) :
    d.fragment c f.kind f.owner f.template f.vars = ((f.result c).toOption, d.render c f) := by
  unfold Draft.fragment Draft.render Fragment.skipped Fragment.result Fragment.files
  rcases c.fragment f.template f.vars with ⟨reason | objects, files⟩
  · rfl
  · show _ = (_, { d with skippedFragments := d.skippedFragments ++ [], dependents := _ })
    rw [List.append_nil]
    rfl

/-! ## the fragments of a compile -/

section
variable (c : Context)

def outboundFragment (b : Binding) (tag : String) (user : User) : Fragment :=
  ⟨.outbound, "binding " ++ toString b.id, b.connector.outboundTemplate, c.outboundVars b tag user⟩

/-- the outbound of a direct binding -/
def directFragment (p : Principal) (b : Binding) : Fragment :=
  outboundFragment c b (directTag b) p.user

/-- the outbound of a bridge to its portal -/
def bridgeFragment (p : Principal) (b : Binding) (portal : Id) (a : Allocation) : Fragment :=
  outboundFragment c b (interconnectTag (reverseTag b .bridge portal a))
    (reverseUser p.seed b a.balancer)

def bindingFragments (p : Principal) (b : Binding) : List Fragment :=
  match b.portalNodeId with
  | some portal => if c.node.id = b.nodeId then b.shares.map (bridgeFragment c p b portal) else []
  | none => if b.nodeId = c.node.id ∧ b.shares ≠ [] then [directFragment c p b] else []

/-- the tags that bindings use, whatever is in the draft -/
def usedTags (p : Principal) (bindings : List Binding) : UsedTags :=
  (bindings.foldl (addBinding c p) (.empty, .none)).2

def ruleFragment (s : Store) (r : Rule) : Fragment :=
  let used := usedTags c (rulePrincipal c s r) (s.bindingsAt (.rule r.id) c.node.id)
  ⟨.rules, "rule " ++ toString r.id, r.rulesTemplate, c.varsWith [
    ("rule", ruleJson r),
    ("consumer_emails", .ofTexts
      (((s.ruleConsumers r.id c.node.id c.now).map c.email).mergeSort inTextOrder)),
    ("outbound_tags", .ofTexts used.outbounds),
    ("balancer_tags", .ofTexts used.balancers.records)]⟩

def ruleFragments (s : Store) (r : Rule) : List Fragment :=
  let bindings := s.bindingsAt (.rule r.id) c.node.id
  if bindings.isEmpty || (s.ruleConsumers r.id c.node.id c.now).isEmpty then []
  else bindings.flatMap (bindingFragments c (rulePrincipal c s r)) ++ [ruleFragment c s r]

def tunnelFragments (s : Store) (t : Tunnel) : List Fragment :=
  (s.bindingsAt (.tunnel t.id) c.node.id).flatMap (bindingFragments c (tunnelPrincipal t))

/-- the strategy of a balancer, if it has a template -/
def strategyFragments (tag : String) (plan : Balancing.Plan) (definition : Option Balancer) :
    List Fragment :=
  (definition.bind (·.strategyTemplate)).toList.map fun template =>
    ⟨.strategy, "balancer " ++ tag, template, .ofFields [
      ("env", Context.environment),
      ("costs_part", .str (joinCommas (plan.costEntries.map Json.compact))),
      ("baselines", .ofTexts (((definition.map (·.baselinesMs)).getD []).map Balancing.Plan.millis)),
      ("max_rtt", .ofText ((definition.bind (·.maxRttMs)).map Balancing.Plan.millis)),
      ("fallback_tag", .ofText plan.fallback)]⟩

/-- what is defined for a group of members -/
def Group.definition (s : Store) (g : Group) : Option Balancer :=
  (s.balancersFor g.scope).find? (·.name == g.name)

def balancerFragments (s : Store) (member : String × Group) : List Fragment :=
  match member.2.plan c.node.id member.1 with
  | none => []
  | some plan => strategyFragments member.1 plan (member.2.definition s)

def consumerFragment (t : InboundType) (user : User) : Fragment :=
  ⟨.consumer, "inbound " ++ t.name, t.consumerTemplate, c.consumerVars user⟩

def inboundFragment (users : List User) (t : InboundType) : Fragment :=
  ⟨.inbound, "inbound " ++ t.name, t.inboundTemplate, c.varsWith [
    ("inbound_tag", .str t.name),
    ("consumers_part", .str (joinCommas (if t.isTemplate then [] else c.consumerTexts t users)))]⟩

def inboundFragments (users : List User) (t : InboundType) : List Fragment :=
  if !t.isTemplate && !t.isActive then []
  else (if t.isTemplate then [] else users.map (consumerFragment c t)) ++ [inboundFragment c users t]

def fixedFragment (i : FixedInbound) : Fragment :=
  ⟨.fixedInbound, "static inbound " ++ toString i.id, i.template, c.varsWith []⟩

def fixedFragments (i : FixedInbound) : List Fragment :=
  if i.nodeId.all (· == c.node.id) then [fixedFragment c i] else []

def baseFragments : List Fragment :=
  c.site.baseTemplate.toList.map fun template =>
    ⟨.baseConfig, "base config", template, c.varsWith []⟩

/-- the fragments of the rules and tunnels of a node -/
def hopFragments (s : Store) : List Fragment :=
  s.rules.records.flatMap (ruleFragments c s) ++ s.tunnels.records.flatMap (tunnelFragments c s)

/-- the fragments of all that is rendered after the draft -/
def sectionFragments (s : Store) : List Fragment :=
  (draftOf c s).1.members.records.flatMap (balancerFragments c s) ++
    s.inboundTypes.records.flatMap (inboundFragments c (usersOf c s)) ++
    s.fixedInbounds.records.flatMap (fixedFragments c) ++ baseFragments c

/-- **the fragments of a compile, in the order in which they are rendered** -/
def fragmentsOf (s : Store) : List Fragment := hopFragments c s ++ sectionFragments c s

end

/-! ## what bindings leave behind -/

section
variable {c : Context} {s : Store} {d : Draft} {p : Principal} {b : Binding} {a : Allocation}
  {portal : Id} {state state' : Draft × UsedTags}

/-- an outbound is added or not, and its fragment has been rendered -/
theorem addOutbound_render (d : Draft) (c : Context) (b : Binding) (tag : String) (user : User) :
    (d.addOutbound c b tag user).2.notes = d.notes.note c (outboundFragment c b tag user) := by
  have hfragment := fragment_eq d c (outboundFragment c b tag user)
  rw [← Draft.notes_render (show FragmentKind.outbound ≠ .rules by decide), addOutbound_eq]
  unfold outboundFragment at hfragment ⊢
  rw [hfragment]
  rcases (Fragment.result _ c).toOption with _ | _ | ⟨first, rest⟩ <;> rfl

theorem notes_addBridgeEnd (c : Context) (p : Principal) (b : Binding) (portal : Id) (a : Allocation)
    (state : Draft × UsedTags) : (addBridgeEnd c p b portal a state).1.notes =
      state.1.notes.note c (bridgeFragment c p b portal a) := by
  obtain ⟨d, used⟩ := state
  unfold bridgeFragment reverseTag addBridgeEnd
  rw [← addOutbound_render]
  dsimp only
  split
  next hout => rw [hout]; rfl
  next hout => rw [hout]

theorem notes_addReverse (c : Context) (p : Principal) (b : Binding) (portal : Id)
    (state : Draft × UsedTags) (a : Allocation) : (addReverse c p b portal state a).1.notes =
      (if c.node.id = b.nodeId then [bridgeFragment c p b portal a] else []).foldl (Draft.note c)
        state.1.notes := by
  have hend : (if c.node.id = portal then addPortalEnd c p b a state else state).1.notes =
      state.1.notes := by
    split <;> rfl
  unfold addReverse
  dsimp only
  rw [← hend]
  generalize (if c.node.id = portal then addPortalEnd c p b a state else state) = between
  split
  · exact notes_addBridgeEnd c p b portal a between
  · rfl

theorem notes_addDirect (c : Context) (p : Principal) (b : Binding) (state : Draft × UsedTags) :
    (addDirect c p b state).1.notes = state.1.notes.note c (directFragment c p b) := by
  obtain ⟨d, used⟩ := state
  unfold directFragment directTag addDirect
  rw [← addOutbound_render]
  dsimp only
  split
  next hout =>
    rw [hout]
    refine foldl_keeps Draft.notes (fun d a => ?_) b.shares _
    rfl
  next hout => rw [hout]

theorem notes_addBinding (c : Context) (p : Principal) (state : Draft × UsedTags) (b : Binding) :
    (addBinding c p state b).1.notes =
      (bindingFragments c p b).foldl (Draft.note c) state.1.notes := by
  unfold addBinding bindingFragments
  by_cases hshares : b.shares = []
  · rw [hshares]
    cases b.portalNodeId <;> simp
  · rw [List.isEmpty_eq_false_iff.2 hshares]
    cases b.portalNodeId with
    | some portal =>
      refine (foldl_view (fun state : Draft × UsedTags => state.1.notes)
        (notes_addReverse c p b portal) b.shares state).trans ?_
      dsimp only
      split
      · rw [List.map_eq_flatMap]
      · rw [List.flatMap_eq_nil_iff.2 fun _ _ => rfl]
    | none =>
      by_cases hnode : b.nodeId = c.node.id
      · simp only [hnode, hshares, ne_eq, not_false_eq_true, and_self, ↓reduceIte]
        exact notes_addDirect c p b state
      · simp [hnode]

/-! ## the tags that are used -/

theorem addOutbound_fst (d : Draft) (c : Context) (b : Binding) (tag : String) (user : User) :
    (d.addOutbound c b tag user).1 = !(c.outboundEntries b tag user).isEmpty := by
  rcases addOutbound_entries d c b tag user with ⟨d', hnone, hadd, -⟩ | ⟨d', hsome, hadd, -⟩
  · rw [hadd, hnone]
    rfl
  · rw [hadd, List.isEmpty_eq_false_iff.2 hsome]
    rfl

theorem addBridgeEnd_snd (c : Context) (p : Principal) (b : Binding) (portal : Id) (a : Allocation)
    (state : Draft × UsedTags) : (addBridgeEnd c p b portal a state).2 = state.2 := by
  obtain ⟨d, used⟩ := state
  unfold addBridgeEnd
  dsimp only
  split <;> rfl

theorem addReverse_snd (h : state.2 = state'.2) :
    (addReverse c p b portal state a).2 = (addReverse c p b portal state' a).2 := by
  have hend : (if c.node.id = portal then addPortalEnd c p b a state else state).2 =
      (if c.node.id = portal then addPortalEnd c p b a state' else state').2 := by
    split
    · unfold addPortalEnd
      dsimp only
      rw [h]
    · exact h
  unfold addReverse
  dsimp only
  split
  · rw [addBridgeEnd_snd, addBridgeEnd_snd, hend]
  · exact hend

theorem addDirect_snd (h : state.2 = state'.2) :
    (addDirect c p b state).2 = (addDirect c p b state').2 := by
  obtain ⟨d, used⟩ := state
  obtain ⟨d', used'⟩ := state'
  obtain rfl : used = used' := h
  have hsame : (d.addOutbound c b (TagRef.outbound b.scope b.id).encode p.user).1 =
      (d'.addOutbound c b (TagRef.outbound b.scope b.id).encode p.user).1 := by
    rw [addOutbound_fst, addOutbound_fst]
  unfold addDirect
  dsimp only
  generalize d.addOutbound c b (TagRef.outbound b.scope b.id).encode p.user = out at hsame ⊢
  generalize d'.addOutbound c b (TagRef.outbound b.scope b.id).encode p.user = out' at hsame ⊢
  obtain ⟨added, e⟩ := out
  obtain ⟨added', e'⟩ := out'
  obtain rfl : added = added' := hsame
  cases added <;> rfl

theorem addBinding_snd (h : state.2 = state'.2) :
    (addBinding c p state b).2 = (addBinding c p state' b).2 := by
  unfold addBinding
  split
  · exact h
  · split
    next portal _ =>
      exact foldl_snd (addReverse c p b portal) (fun _ _ _ => addReverse_snd) b.shares h
    next _ =>
      split
      · exact addDirect_snd h
      · exact h

theorem used_addBindings (bindings : List Binding) :
    (bindings.foldl (addBinding c p) (d, .none)).2 = usedTags c p bindings :=
  foldl_snd (addBinding c p) (fun _ _ _ => addBinding_snd) bindings rfl

/-! ## what rules and tunnels leave behind -/

theorem notes_addBindings (bindings : List Binding) (state : Draft × UsedTags) :
    (bindings.foldl (addBinding c p) state).1.notes =
      (bindings.flatMap (bindingFragments c p)).foldl (Draft.note c) state.1.notes :=
  foldl_view (fun state : Draft × UsedTags => state.1.notes) (notes_addBinding c p) bindings state

theorem notes_addConsumers (d : Draft) (c : Context) (users : List User) :
    (d.addConsumers c users).notes = d.notes := by
  unfold Draft.addConsumers
  refine foldl_keeps Draft.notes (fun d u => ?_) users d
  rfl

theorem notes_addTemplateRules (r : Rule) (d : Draft) :
    (addTemplateRules c r (s.ruleConsumers r.id c.node.id c.now) d
      (usedTags c (rulePrincipal c s r) (s.bindingsAt (.rule r.id) c.node.id))).notes =
        d.notes.note c (ruleFragment c s r) := by
  have hfragment := fragment_eq d c (ruleFragment c s r)
  have hrules : (ruleFragment c s r).rules c = ((ruleFragment c s r).result c).toOption.getD [] := rfl
  unfold Draft.note addTemplateRules
  rw [hrules]
  unfold ruleFragment at hfragment ⊢
  dsimp only at hfragment ⊢
  rw [hfragment]
  cases (Fragment.result _ c).toOption with
  | none =>
    dsimp only [Option.getD_none]
    rw [List.append_nil]
    rfl
  | some rules => rfl

theorem notes_addRule (c : Context) (d : Draft) (s : Store) (r : Rule) :
    (addRule c (d, s) r).1.notes = (ruleFragments c s r).foldl (Draft.note c) d.notes := by
  unfold addRule ruleFragments
  dsimp only
  split
  next hbindings => rw [hbindings]; rfl
  next hbindings =>
    split
    next hconsumers => rw [hconsumers, Bool.or_true]; rfl
    next hconsumers =>
      rw [Bool.eq_false_iff.2 hbindings, Bool.eq_false_iff.2 hconsumers]
      show (addTemplateRules c r _ ((s.bindingsAt (.rule r.id) c.node.id).foldl
        (addBinding c (rulePrincipal c s r)) (d.addConsumers c _, .none)).1
        ((s.bindingsAt (.rule r.id) c.node.id).foldl
          (addBinding c (rulePrincipal c s r)) (d.addConsumers c _, .none)).2).notes = _
      rw [used_addBindings, notes_addTemplateRules, notes_addBindings, notes_addConsumers]
      show _ = List.foldl (Draft.note c) d.notes (_ ++ [ruleFragment c s r])
      rw [List.foldl_append]
      rfl

theorem notes_addRules (c : Context) (rules : List Rule) (d : Draft) (s : Store) :
    (rules.foldl (addRule c) (d, s)).1.notes =
      (rules.flatMap (ruleFragments c s)).foldl (Draft.note c) d.notes := by
  rw [foldl_addRule_fst]
  exact foldl_view Draft.notes (fun d r => notes_addRule c d s r) rules d

theorem notes_addTunnel (c : Context) (s : Store) (d : Draft) (t : Tunnel) :
    (addTunnel c s d t).notes = (tunnelFragments c s t).foldl (Draft.note c) d.notes := by
  unfold addTunnel
  dsimp only
  rw [notes_addBindings]
  congr 1
  split <;> split <;> rfl

/-- **the draft of a node is left with what its fragments leave behind** -/
theorem notes_draftOf (c : Context) (s : Store) :
    (draftOf c s).1.notes = (hopFragments c s).foldl (Draft.note c) .empty := by
  unfold hopFragments
  rw [draftOf_fst, foldl_view Draft.notes (notes_addTunnel c s), ← foldl_addRule_fst, notes_addRules,
    List.foldl_append]
  rfl

/-! ## what is rendered after the draft -/

/-- a view of a draft that a fragment leaves, whatever becomes of its objects -/
theorem notes_of_fragment {d d' : Draft} {f : Fragment} {objects : Option (List Json)}
    (hkind : f.kind ≠ .rules)
    (h : d.fragment c f.kind f.owner f.template f.vars = (objects, d')) :
    d'.notes = d.notes.note c f := by
  rw [fragment_eq] at h
  rw [← Draft.notes_render hkind, (Prod.mk.inj h).2]

theorem notes_strategyOf (c : Context) (d : Draft) (tag : String) (plan : Balancing.Plan)
    (definition : Option Balancer) : (strategyOf c d tag plan definition).2.notes =
      (strategyFragments tag plan definition).foldl (Draft.note c) d.notes := by
  unfold strategyOf strategyFragments
  dsimp only
  cases definition.bind (·.strategyTemplate) with
  | none => rfl
  | some template =>
    dsimp only
    split
    next h => exact notes_of_fragment (f := ⟨_, _, _, _⟩) nofun h
    next h => exact notes_of_fragment (f := ⟨_, _, _, _⟩) nofun h

theorem notes_addBalancer (c : Context) (s : Store) (state : List CompiledBalancer × Draft)
    (member : String × Group) : (addBalancer c s state member).2.notes =
      (balancerFragments c s member).foldl (Draft.note c) state.2.notes := by
  obtain ⟨done, d⟩ := state
  obtain ⟨tag, group⟩ := member
  unfold addBalancer balancerFragments
  dsimp only
  cases group.plan c.node.id tag with
  | none => rfl
  | some plan => exact notes_strategyOf c d tag plan (group.definition s)

theorem notes_compileBalancers (c : Context) (s : Store) (d : Draft) :
    (compileBalancers c s d).2.notes =
      (d.members.records.flatMap (balancerFragments c s)).foldl (Draft.note c) d.notes :=
  foldl_view (fun state : List CompiledBalancer × Draft => state.2.notes) (notes_addBalancer c s) _ _

theorem notes_consumerParts (c : Context) (t : InboundType) (users : List User) (d : Draft) :
    (consumerParts c t ("inbound " ++ t.name) users d).2.notes =
      (users.map (consumerFragment c t)).foldl (Draft.note c) d.notes := by
  unfold consumerParts
  rw [List.map_eq_flatMap]
  refine foldl_view (fun state : List String × Draft => state.2.notes) (fun state user => ?_) users ([], d)
  obtain ⟨parts, d⟩ := state
  dsimp only
  split
  next h => exact notes_of_fragment (f := consumerFragment c t user) nofun h
  next h => exact notes_of_fragment (f := consumerFragment c t user) nofun h

theorem notes_addInboundType (c : Context) (users : List User) (state : List Json × Draft)
    (t : InboundType) : (addInboundType c users state t).2.notes =
      (inboundFragments c users t).foldl (Draft.note c) state.2.notes := by
  obtain ⟨done, d⟩ := state
  unfold addInboundType inboundFragments
  dsimp only
  split
  · rfl
  · rw [List.foldl_append]
    have hfst : (if t.isTemplate then (([] : List String), d)
        else consumerParts c t ("inbound " ++ t.name) users d).1 =
        if t.isTemplate then [] else c.consumerTexts t users := by
      split
      · rfl
      · exact consumerParts_fst c t _ users d
    have hsnd : (if t.isTemplate then (([] : List String), d)
        else consumerParts c t ("inbound " ++ t.name) users d).2.notes =
        (if t.isTemplate then [] else users.map (consumerFragment c t)).foldl (Draft.note c) d.notes := by
      split
      · rfl
      · exact notes_consumerParts c t users d
    rw [← hsnd]
    unfold inboundFragment
    rw [← hfst]
    split
    next h => exact notes_of_fragment (f := ⟨_, _, _, _⟩) nofun h
    next h => exact notes_of_fragment (f := ⟨_, _, _, _⟩) nofun h

theorem notes_addFixedInbound (c : Context) (state : List Json × Draft) (i : FixedInbound) :
    (addFixedInbound c state i).2.notes =
      (fixedFragments c i).foldl (Draft.note c) state.2.notes := by
  obtain ⟨done, d⟩ := state
  unfold addFixedInbound fixedFragments
  dsimp only
  split
  · split
    next h => exact notes_of_fragment (f := fixedFragment c i) nofun h
    next h => exact notes_of_fragment (f := fixedFragment c i) nofun h
  · rfl

theorem notes_renderInbounds (c : Context) (s : Store) (d : Draft) : (renderInbounds c s d).2.notes =
    (s.inboundTypes.records.flatMap (inboundFragments c (d.consumers.records.map (·.2))) ++
      s.fixedInbounds.records.flatMap (fixedFragments c)).foldl (Draft.note c) d.notes := by
  show (plainInbounds c s d).2.notes = _
  unfold plainInbounds
  rw [foldl_view (fun state : List Json × Draft => state.2.notes) (notes_addFixedInbound c),
    foldl_view (fun state : List Json × Draft => state.2.notes) (notes_addInboundType c _),
    List.foldl_append]

theorem notes_baseDocument (c : Context) (d : Draft) :
    (baseDocument c d).2.notes = (baseFragments c).foldl (Draft.note c) d.notes := by
  unfold baseDocument baseFragments
  cases c.site.baseTemplate with
  | none => rfl
  | some template =>
    dsimp only
    split
    next h => exact notes_of_fragment (f := ⟨_, _, _, _⟩) nofun h
    next h => exact notes_of_fragment (f := ⟨_, _, _, _⟩) nofun h

/-- the draft once everything has been rendered -/
def renderedOf (c : Context) (s : Store) : Draft :=
  let (d, s) := draftOf c s
  let (_, d) := compileBalancers c s d
  let (_, d) := renderInbounds c s d
  (baseDocument c d).2

theorem body_renderedOf (c : Context) (s : Store) :
    (renderedOf c s).body = (draftOf c s).1.body :=
  (body_baseDocument _ _).trans ((body_renderInbounds _ _ _).trans (body_compileBalancers _ _ _))

/-- **a compile leaves behind what its fragments do, in order** -/
theorem notes_renderedOf (c : Context) (s : Store) :
    (renderedOf c s).notes = (fragmentsOf c s).foldl (Draft.note c) .empty := by
  have husers : (compileBalancers c (draftOf c s).2 (draftOf c s).1).2.consumers =
      (draftOf c s).1.consumers := Draft.consumers_of_body (body_compileBalancers _ _ _)
  unfold renderedOf fragmentsOf sectionFragments
  dsimp only
  rw [notes_baseDocument, notes_renderInbounds, notes_compileBalancers, notes_draftOf, husers,
    Store.draftOf_store, ← Store.withUsers_joinAll]
  simp only [List.foldl_append]
  rfl

/-! ## files, reports and rules -/

theorem dependents_foldl_note (fragments : List Fragment) (d : Draft) :
    (fragments.foldl (Draft.note c) d).dependents =
      d.dependents.putAll (fragments.flatMap (·.files c)) := by
  refine foldl_view Draft.dependents (fun d f => ?_) fragments d
  rfl

/-- a list that each fragment appends its items to -/
theorem foldl_note_append {α : Type} (field : Draft → List α) {items : Fragment → List α}
    (h : ∀ d f, field (d.note c f) = field d ++ items f) (fragments : List Fragment) (d : Draft) :
    field (fragments.foldl (Draft.note c) d) = field d ++ fragments.flatMap items :=
  foldl_appends field h fragments d

theorem dependents_renderedOf (c : Context) (s : Store) : (renderedOf c s).dependents =
    Table.empty.putAll ((fragmentsOf c s).flatMap (·.files c)) := by
  show (renderedOf c s).notes.dependents = _
  rw [notes_renderedOf, dependents_foldl_note]
  rfl

theorem skippedFragments_renderedOf (c : Context) (s : Store) :
    (renderedOf c s).skippedFragments = (fragmentsOf c s).filterMap (·.skipped c) := by
  show (renderedOf c s).notes.skippedFragments = _
  rw [notes_renderedOf, foldl_note_append (·.skippedFragments) (fun _ _ => rfl),
    List.filterMap_eq_flatMap_toList]
  rfl

theorem templateRules_draftOf (c : Context) (s : Store) :
    (draftOf c s).1.templateRules = (hopFragments c s).flatMap (·.rules c) := by
  show (draftOf c s).1.notes.templateRules = _
  rw [notes_draftOf, foldl_note_append (·.templateRules) (fun _ _ => rfl)]
  rfl

/-! ## balancers and artifacts -/

/-- the first object of its template, or the usual strategy -/
def strategyJson (c : Context) (tag : String) (plan : Balancing.Plan) (definition : Option Balancer) :
    Json :=
  ((strategyFragments tag plan definition).flatMap fun f => c.objects f.template f.vars).headD
    (plan.strategy ((definition.map (·.baselinesMs)).getD []) (definition.bind (·.maxRttMs)))

theorem strategyOf_fst (c : Context) (d : Draft) (tag : String) (plan : Balancing.Plan)
    (definition : Option Balancer) :
    (strategyOf c d tag plan definition).1 = strategyJson c tag plan definition := by
  unfold strategyOf strategyJson strategyFragments
  dsimp only
  cases definition.bind (·.strategyTemplate) with
  | none => rfl
  | some template =>
    rw [Option.toList_some, List.map_singleton, List.flatMap_singleton]
    unfold Context.objects
    dsimp only
    rw [← fragment_fst d c .strategy ("balancer " ++ tag)]
    rcases d.fragment c .strategy ("balancer " ++ tag) template _ with ⟨_ | _ | ⟨first, rest⟩, d'⟩ <;> rfl

/-- the balancer of a group, if it has members that carry traffic -/
def groupBalancers (c : Context) (s : Store) (member : String × Group) : List CompiledBalancer :=
  match member.2.plan c.node.id member.1 with
  | none => []
  | some plan => [⟨member.1, plan, strategyJson c member.1 plan (member.2.definition s)⟩]

theorem addBalancer_fst (c : Context) (s : Store) (state : List CompiledBalancer × Draft)
    (member : String × Group) :
    (addBalancer c s state member).1 = state.1 ++ groupBalancers c s member := by
  obtain ⟨done, d⟩ := state
  obtain ⟨tag, group⟩ := member
  unfold addBalancer groupBalancers
  dsimp only
  cases group.plan c.node.id tag with
  | none => exact (List.append_nil done).symm
  | some plan =>
    dsimp only
    rw [← strategyOf_fst c d]
    rfl

theorem balancersOf_eq (c : Context) (s : Store) : balancersOf c s =
    (draftOf c s).1.members.records.flatMap (groupBalancers c s) := by
  unfold balancersOf compileBalancers
  rw [foldl_appends Prod.fst (addBalancer_fst c _), List.nil_append, Store.draftOf_store,
    ← Store.withUsers_joinAll]
  rfl

/-- where the document of a node is kept -/
def configPathOf (c : Context) (s : Store) : String :=
  c.options.workDir ++ "/conf/runtime_" ++
    String.ofList ((Sha256.hex (Json.pretty (.obj (documentOf c s)))).toList.take 6) ++ ".json"

/-- **the artifacts of a node with all their parts named** -/
theorem buildArtifacts_eq (c : Context) (s : Store) (path : String) (file : Option FileSpec) :
    (buildArtifacts c s path file).1 =
      { nodeId := c.node.id
        configText := Json.pretty (.obj (documentOf c s))
        configHash := Sha256.hex (Json.pretty (.obj (documentOf c s)))
        binaryPath := path
        configPath := configPathOf c s
        files := file.toList ++ (assets s c.options c.node c.site).2 ++
          [.inline (configPathOf c s) (Json.pretty (.obj (documentOf c s)))] ++
          (renderedOf c s).dependents.records.map (·.2)
        supervisor := supervisorStanza path (configPathOf c s)
          (assets s c.options c.node c.site).1 c.now
        balancers := balancersOf c s
        report := {
          skippedFragments := (renderedOf c s).skippedFragments
          skippedRules := (draftOf c s).1.skippedRules
          droppedRules := droppedRules (draftOf c s).1 (balancersOf c s)
          outbounds := outboundCount (documentOf c s)
          balancers := (balancersOf c s).length
          consumers := (usersOf c s).length } } := by
  have hassets : assets (draftOf c s).2 c.options c.node c.site = assets s c.options c.node c.site := by
    rw [Store.draftOf_store, ← Store.withUsers_joinAll]
    rfl
  have hskipped : (renderedOf c s).skippedRules = (draftOf c s).1.skippedRules := by
    show (renderedOf c s).body.skippedRules = _
    rw [body_renderedOf]
    rfl
  have hdropped : droppedRules (renderedOf c s) (balancersOf c s) =
      droppedRules (draftOf c s).1 (balancersOf c s) := by
    show droppedRules (renderedOf c s).body _ = _
    rw [body_renderedOf]
    rfl
  have husers : (renderedOf c s).consumers.records.length = (usersOf c s).length := by
    rw [Draft.consumers_of_body (body_renderedOf c s)]
    exact (List.length_map _).symm
  rw [← hassets, ← hskipped, ← hdropped, ← husers]
  rfl

end
end ProxyMesh
