import ProxyMesh.Proofs.Compile.Fragments

/-!
# Bindings without weight

A binding of which no allocation carries traffic has no parts and no fragments.  A compile still sees it
in one place: it says that the node takes part in its rule.  So it can be taken out of the store without
a trace, unless it is all that the node has of a rule that somebody uses.

* `Store.withoutBinding`       the store with a binding taken out;
* `bindingParts_weightless`, `bindingFragments_weightless`, `addBinding_weightless`
                               **a binding without weight adds nothing**;
* `Binding.IsLoneHop`          the binding is all that the node has of a rule that somebody uses;
* `partsOf_withoutBinding`, `hopFragments_withoutBinding`   any other can be taken out;
* `Draft.plain`                a draft without the list of rules that were skipped;
* `compile_weightless`         **a compile with the binding and one without it**.
-/

namespace ProxyMesh

/-! ## a binding without weight adds nothing -/

section
variable {b : Binding}

theorem bindingParts_weightless (hweight : b.shares = []) (c : Context) (p : Principal) :
    bindingParts c p b = [] := by
  unfold bindingParts
  rw [hweight]
  cases b.portalNodeId with
  | none => exact if_neg fun h => h.2 rfl
  | some portal => rfl

theorem bindingFragments_weightless (hweight : b.shares = []) (c : Context) (p : Principal) :
    bindingFragments c p b = [] := by
  unfold bindingFragments
  rw [hweight]
  cases b.portalNodeId with
  | none => exact if_neg fun h => h.2 rfl
  | some portal => exact ite_self _

theorem addBinding_weightless (hweight : b.shares = []) (c : Context) (p : Principal)
    (state : Draft × UsedTags) : addBinding c p state b = state := by
  unfold addBinding
  rw [hweight]
  rfl

end

/-! ## the store without the binding -/

def Store.withoutBinding (s : Store) (id : Id) : Store := { s with bindings := s.bindings.erase id }

/-- the binding is all that the node has of a rule that somebody uses -/
def Binding.IsLoneHop (b : Binding) (s : Store) (node : Id) (now : Nat) : Prop :=
  ∃ r ∈ s.rules.records, s.bindingsAt (.rule r.id) node = [b] ∧ s.ruleConsumers r.id node now ≠ []

section
variable {s : Store} {b x : Binding} {c : Context} {scope : Scope} {node : Id} {now : Nat}

theorem bindingsAt_withoutBinding (s : Store) (id : Id) (scope : Scope) (node : Id) :
    (s.withoutBinding id).bindingsAt scope node = (s.bindingsAt scope node).filter (·.id ≠ id) := by
  show (s.bindings.erase id).records.filter _ = (s.bindings.records.filter _).filter _
  rw [Table.records_erase, List.filter_filter, List.filter_filter]
  refine List.filter_congr fun a _ => Bool.and_comm _ _

theorem eq_of_not_kept (hb : b ∈ s.bindings.records) (hx : x ∈ s.bindingsAt scope node)
    (hid : decide (x.id ≠ b.id) = false) : x = b := by
  have hid : x.id = b.id := not_not.1 (of_decide_eq_false hid)
  have hx : s.bindings.get? x.id = some x := Table.mem_records.1 (List.mem_of_mem_filter hx)
  have hb : s.bindings.get? b.id = some b := Table.mem_records.1 hb
  rw [hid, hb] at hx
  exact (Option.some.inj hx).symm

/-- if nothing is left without the binding, there was nothing but it -/
theorem eq_singleton_of_empty (hb : b ∈ s.bindings.records)
    (hempty : (s.withoutBinding b.id).bindingsAt scope node = []) :
    s.bindingsAt scope node = [] ∨ s.bindingsAt scope node = [b] := by
  rw [bindingsAt_withoutBinding, List.filter_eq_nil_iff] at hempty
  have hall : ∀ x ∈ s.bindingsAt scope node, x = b := fun x hx =>
    eq_of_not_kept hb hx (Bool.eq_false_iff.2 (hempty x hx))
  have hnodup : (s.bindingsAt scope node).Nodup := (nodup_of_ascending s.bindings.ascending).filter _
  cases hbindings : s.bindingsAt scope node with
  | nil => exact Or.inl rfl
  | cons x rest =>
    rw [hbindings] at hall hnodup
    obtain rfl := hall x List.mem_cons_self
    have hrest : rest = [] := by
      refine List.eq_nil_iff_forall_not_mem.2 fun y hy => ?_
      rw [hall y (List.mem_cons_of_mem _ hy)] at hy
      exact (List.nodup_cons.1 hnodup).1 hy
    rw [hrest]
    exact Or.inr rfl

theorem isEmpty_withoutBinding (hb : b ∈ s.bindings.records)
    (hlone : s.bindingsAt scope node ≠ [b]) :
    ((s.withoutBinding b.id).bindingsAt scope node).isEmpty = (s.bindingsAt scope node).isEmpty := by
  rw [Bool.eq_iff_iff, List.isEmpty_iff, List.isEmpty_iff]
  constructor
  · intro hempty
    exact (eq_singleton_of_empty hb hempty).resolve_right hlone
  · intro hempty
    rw [bindingsAt_withoutBinding, hempty]
    rfl

/-- who the node is for a rule does not depend on its bindings -/
theorem rulePrincipal_withoutBinding (c : Context) (s : Store) (id : Id) (r : Rule) :
    rulePrincipal c (s.withoutBinding id) r = rulePrincipal c s r := by
  unfold rulePrincipal
  rw [Store.internalUserFor_fst, Store.internalUserFor_fst]
  rfl

/-! ## parts and fragments -/

theorem unused_of_not_lone (hlone : ¬ b.IsLoneHop s c.node.id c.now) {r : Rule}
    (hr : r ∈ s.rules.records)
    (hbindings : s.bindingsAt (.rule r.id) c.node.id = [b]) :
    s.ruleConsumers r.id c.node.id c.now = [] := by
  by_contra hused
  exact hlone ⟨r, hr, hbindings, hused⟩

section
variable (hb : b ∈ s.bindings.records)
include hb

theorem flatMap_withoutBinding {β : Type} {g : Binding → List β} (hg : g b = []) :
    ((s.withoutBinding b.id).bindingsAt scope node).flatMap g = (s.bindingsAt scope node).flatMap g := by
  rw [bindingsAt_withoutBinding]
  refine flatMap_filter_of_nil fun x hx hid => ?_
  rw [eq_of_not_kept hb hx hid, hg]

/-- a rule that is left with no binding is one that nobody uses -/
theorem hasHops_withoutBinding {r : Rule} (hlone : s.bindingsAt (.rule r.id) c.node.id = [b] →
    s.ruleConsumers r.id c.node.id c.now = []) :
    (((s.withoutBinding b.id).bindingsAt (.rule r.id) c.node.id).isEmpty ||
    ((s.withoutBinding b.id).ruleConsumers r.id c.node.id c.now).isEmpty) =
      ((s.bindingsAt (.rule r.id) c.node.id).isEmpty ||
        (s.ruleConsumers r.id c.node.id c.now).isEmpty) := by
  have hconsumers : (s.withoutBinding b.id).ruleConsumers r.id c.node.id c.now =
      s.ruleConsumers r.id c.node.id c.now := rfl
  rw [hconsumers]
  by_cases hunused : s.ruleConsumers r.id c.node.id c.now = []
  · rw [List.isEmpty_iff.2 hunused, Bool.or_true, Bool.or_true]
  · rw [isEmpty_withoutBinding hb (mt hlone hunused)]

variable (hweight : b.shares = [])
include hweight

theorem usedTags_withoutBinding (c : Context) (p : Principal) :
    usedTags c p ((s.withoutBinding b.id).bindingsAt scope node) =
      usedTags c p (s.bindingsAt scope node) := by
  unfold usedTags
  rw [bindingsAt_withoutBinding, foldl_filter_of_id]
  intro x hx hid state
  rw [eq_of_not_kept hb hx hid]
  exact addBinding_weightless hweight c p state

theorem ruleFragment_withoutBinding (c : Context) (r : Rule) :
    ruleFragment c (s.withoutBinding b.id) r = ruleFragment c s r := by
  unfold ruleFragment
  rw [rulePrincipal_withoutBinding, usedTags_withoutBinding hb hweight]
  rfl

theorem tunnelParts_withoutBinding (c : Context) (t : Tunnel) :
    tunnelParts c (s.withoutBinding b.id) t = tunnelParts c s t := by
  unfold tunnelParts
  rw [flatMap_withoutBinding hb (bindingParts_weightless hweight c _)]

theorem tunnelFragments_withoutBinding (c : Context) (t : Tunnel) :
    tunnelFragments c (s.withoutBinding b.id) t = tunnelFragments c s t := by
  unfold tunnelFragments
  rw [flatMap_withoutBinding hb (bindingFragments_weightless hweight c _)]

section
variable {r : Rule} (hlone : s.bindingsAt (.rule r.id) c.node.id = [b] →
  s.ruleConsumers r.id c.node.id c.now = [])
include hlone

theorem ruleParts_withoutBinding : ruleParts c (s.withoutBinding b.id) r = ruleParts c s r := by
  unfold ruleParts
  dsimp only
  rw [hasHops_withoutBinding hb hlone, rulePrincipal_withoutBinding,
    flatMap_withoutBinding hb (bindingParts_weightless hweight c _)]
  rfl

theorem ruleFragments_withoutBinding :
    ruleFragments c (s.withoutBinding b.id) r = ruleFragments c s r := by
  unfold ruleFragments
  dsimp only
  rw [hasHops_withoutBinding hb hlone, rulePrincipal_withoutBinding,
    flatMap_withoutBinding hb (bindingFragments_weightless hweight c _),
    ruleFragment_withoutBinding hb hweight]

end

variable (hlone : ¬ b.IsLoneHop s c.node.id c.now)
include hlone

theorem partsOf_withoutBinding : partsOf c (s.withoutBinding b.id) = partsOf c s := by
  have hrules : s.rules.records.flatMap (ruleParts c (s.withoutBinding b.id)) =
      s.rules.records.flatMap (ruleParts c s) :=
    List.flatMap_congr fun r hr =>
      ruleParts_withoutBinding hb hweight (unused_of_not_lone hlone hr)
  have htunnels : tunnelParts c (s.withoutBinding b.id) = tunnelParts c s :=
    funext (tunnelParts_withoutBinding hb hweight c)
  show s.rules.records.flatMap _ ++ s.tunnels.records.flatMap _ = _
  rw [hrules, htunnels]
  rfl

theorem hopFragments_withoutBinding :
    hopFragments c (s.withoutBinding b.id) = hopFragments c s := by
  have hrules : s.rules.records.flatMap (ruleFragments c (s.withoutBinding b.id)) =
      s.rules.records.flatMap (ruleFragments c s) :=
    List.flatMap_congr fun r hr =>
      ruleFragments_withoutBinding hb hweight (unused_of_not_lone hlone hr)
  have htunnels : tunnelFragments c (s.withoutBinding b.id) = tunnelFragments c s :=
    funext (tunnelFragments_withoutBinding hb hweight c)
  show s.rules.records.flatMap _ ++ s.tunnels.records.flatMap _ = _
  rw [hrules, htunnels]
  rfl

end
end

/-! ## artifacts -/

/-- a draft without the list of rules that were skipped -/
def Draft.plain (d : Draft) : Draft := { d with skippedRules := [] }

/-- artifacts without the list of rules that were skipped -/
def Artifacts.plain (a : Artifacts) : Artifacts :=
  { a with report := { a.report with skippedRules := [] } }

theorem Draft.plain_eq {d d' : Draft} (hlinks : d.links = d'.links) (hnotes : d.notes = d'.notes) :
    d.plain = d'.plain := by
  show { d.links with
      templateRules := d.notes.templateRules
      dependents := d.notes.dependents
      skippedFragments := d.notes.skippedFragments } = { d'.links with
      templateRules := d'.notes.templateRules
      dependents := d'.notes.dependents
      skippedFragments := d'.notes.skippedFragments }
  rw [hlinks, hnotes]

/-- whatever does not see the skipped rules is the same -/
theorem Draft.eq_of_plain {α : Type} (view : Draft → α) {d d' : Draft} (h : d.plain = d'.plain)
    (hview : ∀ d : Draft, view d.plain = view d) : view d = view d' := by
  rw [← hview d, h, hview]

section
variable {s : Store} {b : Binding} {c : Context} {o : Options} {id : Id} {now : Nat}

/-- the same draft and the same fragments make the same artifacts -/
theorem buildArtifacts_withoutBinding
    (hdraft : (draftOf c (s.withoutBinding id)).1.plain = (draftOf c s).1.plain)
    (hhops : hopFragments c (s.withoutBinding id) = hopFragments c s) (path : String)
    (file : Option FileSpec) : (buildArtifacts c (s.withoutBinding id) path file).1.plain =
      (buildArtifacts c s path file).1.plain := by
  have hmembers : (draftOf c (s.withoutBinding id)).1.members = (draftOf c s).1.members :=
    Draft.eq_of_plain (·.members) hdraft fun _ => rfl
  have hforwards : (draftOf c (s.withoutBinding id)).1.forwards = (draftOf c s).1.forwards :=
    Draft.eq_of_plain (·.forwards) hdraft fun _ => rfl
  have husers : usersOf c (s.withoutBinding id) = usersOf c s :=
    Draft.eq_of_plain (·.consumers.records.map Prod.snd) hdraft fun _ => rfl
  have hdropped : ∀ balancers, droppedRules (draftOf c (s.withoutBinding id)).1 balancers =
      droppedRules (draftOf c s).1 balancers :=
    fun balancers => Draft.eq_of_plain ((droppedRules · balancers)) hdraft fun _ => rfl
  have hmerge : ∀ base balancers inbounds,
      mergeDocument base (draftOf c (s.withoutBinding id)).1 balancers inbounds =
        mergeDocument base (draftOf c s).1 balancers inbounds :=
    fun base balancers inbounds =>
      Draft.eq_of_plain ((mergeDocument base · balancers inbounds)) hdraft fun _ => rfl
  have hbalancers : balancersOf c (s.withoutBinding id) = balancersOf c s := by
    rw [balancersOf_eq, balancersOf_eq, hmembers]
    rfl
  have hinbounds : inboundsOf c (s.withoutBinding id) = inboundsOf c s := by
    unfold inboundsOf
    rw [husers, hforwards]
    rfl
  have hdocument : documentOf c (s.withoutBinding id) = documentOf c s := by
    rw [documentOf_eq_merge, documentOf_eq_merge, hbalancers, hinbounds, hmerge]
  have hpath : configPathOf c (s.withoutBinding id) = configPathOf c s := by
    unfold configPathOf
    rw [hdocument]
  have hfragments : fragmentsOf c (s.withoutBinding id) = fragmentsOf c s := by
    unfold fragmentsOf sectionFragments
    rw [hhops, hmembers, husers]
    rfl
  have hdependents : (renderedOf c (s.withoutBinding id)).dependents = (renderedOf c s).dependents := by
    rw [dependents_renderedOf, dependents_renderedOf, hfragments]
  have hskipped : (renderedOf c (s.withoutBinding id)).skippedFragments =
      (renderedOf c s).skippedFragments := by
    rw [skippedFragments_renderedOf, skippedFragments_renderedOf, hfragments]
  have hassets : assets (s.withoutBinding id) c.options c.node c.site =
      assets s c.options c.node c.site := rfl
  rw [buildArtifacts_eq, buildArtifacts_eq]
  unfold Artifacts.plain
  dsimp only
  rw [hdocument, hpath, hassets, hbalancers, hdependents, hskipped, hdropped, husers]

section
variable (hb : b ∈ s.bindings.records) (hweight : b.shares = [])
include hb hweight

theorem draftOf_withoutBinding (hlone : ¬ b.IsLoneHop s c.node.id c.now) :
    (draftOf c (s.withoutBinding b.id)).1.plain = (draftOf c s).1.plain := by
  refine Draft.plain_eq ?_ ?_
  · rw [draftOf_links, draftOf_links, partsOf_withoutBinding hb hweight hlone]
  · rw [notes_draftOf, notes_draftOf, hopFragments_withoutBinding hb hweight hlone]

theorem compile_withoutBinding (hlone : ¬ b.IsLoneHop s id now) :
    (compile (s.withoutBinding b.id) o id now).1.map Artifacts.plain =
      (compile s o id now).1.map Artifacts.plain := by
  have hnodes : (s.withoutBinding b.id).nodes = s.nodes := rfl
  have hsite : (s.withoutBinding b.id).siteSettings = s.siteSettings := rfl
  have hprogram : programPath (s.withoutBinding b.id) o = programPath s o := rfl
  unfold compile
  rw [hnodes, hsite, hprogram]
  cases hnode : s.nodes.get? id with
  | none => rfl
  | some node =>
    obtain rfl : node.id = id := Table.key_of_get? hnode
    dsimp only
    split
    · rfl
    · split
      · rfl
      · rfl
      next path file _ =>
        exact congrArg Except.ok (buildArtifacts_withoutBinding
          (draftOf_withoutBinding (c := ⟨node, s.siteSettings, o, now⟩) hb hweight hlone)
          (hopFragments_withoutBinding hb hweight hlone) path file)

end

/-! ## users -/

theorem get?_compile (s : Store) (o : Options) (id : Id) (now : Nat) (q : Id × Id) :
    (compile s o id now).2.internalUsers.get? q =
      (s.internalUsers.get? q).or (if q ∈ s.joinsOf o id then s.joined now q else none) := by
  rw [Store.compile_store, Store.get?_joinAll]

/-- a user that only one of the compiles makes is made for the rule of a lone hop -/
theorem isLoneHop_of_joined (hb : b ∈ s.bindings.records) {r : Rule} (hr : r ∈ s.rules.records)
    (hnone : s.internalUsers.get? (r.id, id) = none)
    (hne : (s.withoutBinding b.id).joined now (r.id, id) ≠ s.joined now (r.id, id)) :
    s.bindingsAt (.rule r.id) id = [b] ∧ b.IsLoneHop s id now := by
  have hlive : (s.withoutBinding b.id).isLive now r.id = s.isLive now r.id := rfl
  have hnew : (s.withoutBinding b.id).newUser r.id id = s.newUser r.id id := rfl
  have hbindings : s.bindingsAt (.rule r.id) id = [b] := by
    by_contra hothers
    refine hne ?_
    unfold Store.joined Store.takesPart
    dsimp only
    rw [isEmpty_withoutBinding hb hothers, hlive, hnew]
  have hused : s.ruleConsumers r.id id now ≠ [] := by
    intro hunused
    refine hne ?_
    -- a live rule that the node has no consumers for lives by the node's own user
    have hdead : s.isLive now r.id = false := by
      refine Bool.eq_false_iff.2 fun halive => ?_
      obtain ⟨u, hu⟩ := Store.ownUser_of_isLive halive (List.isEmpty_iff.2 hunused)
      rw [hnone] at hu
      cases hu
    unfold Store.joined
    dsimp only
    rw [hlive, hdead, Bool.and_false, Bool.and_false]
    rfl
  exact ⟨hbindings, r, hr, hbindings, hused⟩

/-- the user that a node has for a lone hop is made because of the binding -/
theorem joined_of_isLoneHop {r : Rule} (hbindings : s.bindingsAt (.rule r.id) id = [b])
    (hused : s.ruleConsumers r.id id now ≠ []) :
    s.joined now (r.id, id) = some (s.newUser r.id id) ∧
      (s.withoutBinding b.id).joined now (r.id, id) = none := by
  have hlive : s.isLive now r.id = true :=
    Store.isLive_of_ruleConsumers (List.isEmpty_eq_false_iff.2 hused)
  have hleft : (s.withoutBinding b.id).bindingsAt (.rule r.id) id = [] := by
    rw [bindingsAt_withoutBinding, hbindings]
    simp
  unfold Store.joined Store.takesPart
  dsimp only
  rw [hbindings, hleft, hlive]
  exact ⟨rfl, rfl⟩

/-- **the users are the same, unless it is for the binding that the node gets its own** -/
theorem internalUsers_withoutBinding (hb : b ∈ s.bindings.records) :
    (compile (s.withoutBinding b.id) o id now).2.internalUsers =
        (compile s o id now).2.internalUsers ↔
      s.refusal? o id ≠ none ∨ ¬ b.IsLoneHop s id now ∨
        s.internalUsers.get? (b.scope.id, id) ≠ none := by
  have hscope : ∀ {r : Rule}, s.bindingsAt (.rule r.id) id = [b] → b.scope.id = r.id := by
    intro r hbindings
    have hmem : b ∈ s.bindingsAt (.rule r.id) id := hbindings ▸ List.mem_cons_self
    rw [(mem_bindingsAt.1 hmem).2.1]
    rfl
  have hjoins : (s.withoutBinding b.id).joinsOf o id = s.joinsOf o id := rfl
  have hbefore : (s.withoutBinding b.id).internalUsers = s.internalUsers := rfl
  constructor
  · intro hsame
    by_contra hnot
    obtain ⟨hstarts, hlone, hnone⟩ : s.refusal? o id = none ∧ b.IsLoneHop s id now ∧
        s.internalUsers.get? (b.scope.id, id) = none := by tauto
    obtain ⟨r, hr, hbindings, hused⟩ := hlone
    obtain ⟨hmade, hnotMade⟩ := joined_of_isLoneHop hbindings hused
    have hmem : (r.id, id) ∈ s.joinsOf o id := by
      unfold Store.joinsOf
      rw [hstarts]
      exact List.mem_map.2 ⟨r, hr, rfl⟩
    have hget := congrArg (·.get? (r.id, id)) hsame
    rw [hscope hbindings] at hnone
    rw [get?_compile, get?_compile, hjoins, hbefore, hnone, if_pos hmem, if_pos hmem, hmade,
      hnotMade] at hget
    cases hget
  · intro hcases
    refine Table.ext_get? fun q => ?_
    rw [get?_compile, get?_compile, hjoins, hbefore]
    cases hq : s.internalUsers.get? q with
    | some u => rfl
    | none =>
      split
      next hmem =>
        unfold Store.joinsOf at hmem
        split at hmem
        · cases hmem
        next hstarts =>
          obtain ⟨r, hr, rfl⟩ := List.mem_map.1 hmem
          by_contra hne
          obtain ⟨hbindings, hlone⟩ := isLoneHop_of_joined hb hr hq (mt (congrArg _) hne)
          rw [Option.not_isSome_iff_eq_none] at hstarts
          rw [hscope hbindings] at hcases
          tauto
      · rfl

end
/-- **A compile with a binding without weight and one without the binding**: the artifacts are the same
but for the list of rules that were skipped, and so are the users, unless the binding is all that the
node has of a rule that somebody uses.  Then the node gets its own user for the rule, if it has none. -/
theorem compile_weightless {s : Store} {b : Binding} (hb : b ∈ s.bindings.records)
    (hweight : b.shares = []) (o : Options) (id : Id) (now : Nat) :
    (¬ b.IsLoneHop s id now →
      (compile (s.withoutBinding b.id) o id now).1.map (·.configText) =
          (compile s o id now).1.map (·.configText) ∧
        (compile (s.withoutBinding b.id) o id now).1.map Artifacts.plain =
          (compile s o id now).1.map Artifacts.plain) ∧
      ((compile (s.withoutBinding b.id) o id now).2.internalUsers =
          (compile s o id now).2.internalUsers ↔
        s.refusal? o id ≠ none ∨ ¬ b.IsLoneHop s id now ∨
          s.internalUsers.get? (b.scope.id, id) ≠ none) := by
  refine ⟨fun hlone => ?_, internalUsers_withoutBinding hb⟩
  have hplain := compile_withoutBinding (o := o) hb hweight hlone
  refine ⟨?_, hplain⟩
  have htext := congrArg (Except.map Artifacts.configText) hplain
  generalize (compile (s.withoutBinding b.id) o id now).1 = answer at htext ⊢
  generalize (compile s o id now).1 = answer' at htext ⊢
  cases answer <;> cases answer' <;> exact htext

/-! ## a hop that is switched off -/

/-- no allocation carries traffic -/
def offBinding : Binding := ⟨9, "off", .rule 7, 1, none, freedom, [⟨"main", 0⟩]⟩

def onBinding : Binding := ⟨1, "on", .rule 7, 1, none, freedom, [⟨"main", 1⟩]⟩

/-- a rule that another node uses -/
def usedRule : Rule := ⟨7, "rule", "", "", "\x7b\"type\": \"field\"\x7d"⟩

def offSite : Site := { Site.default with runtimeProgram := some "xray" }

/-- the hub with bindings of the rule -/
def offStore (bindings : List Binding) : Store := { Store.empty with
  site := some offSite
  nodes := .ofList [hub]
  programs := .ofList [⟨"xray", [], [⟨1, "/opt/xray"⟩]⟩]
  rules := .ofList [usedRule]
  bindings := .ofList bindings
  internalUsers := .ofList [⟨7, 2, true, "", .none⟩] }

def offContext : Context := ⟨hub, offSite, ⟨"/srv", ""⟩, 0⟩

/-- beside a binding that carries traffic nobody sees the other -/
theorem compile_weightless_beside :
    let s := offStore [onBinding, offBinding]
    offBinding ∈ s.bindings.records ∧ s.bindingsAt (.rule 7) hub.id = [onBinding, offBinding] ∧
      s.refusal? ⟨"/srv", ""⟩ hub.id = none ∧
      (compile (s.withoutBinding 9) ⟨"/srv", ""⟩ hub.id 0).1.map (·.configText) =
        (compile s ⟨"/srv", ""⟩ hub.id 0).1.map (·.configText) ∧
      (compile (s.withoutBinding 9) ⟨"/srv", ""⟩ hub.id 0).2.internalUsers =
        (compile s ⟨"/srv", ""⟩ hub.id 0).2.internalUsers := by
  intro s
  have hb : offBinding ∈ s.bindings.records := by decide +kernel
  have hbindings : s.bindingsAt (.rule 7) hub.id = [onBinding, offBinding] := by decide +kernel
  have hlone : ¬ offBinding.IsLoneHop s hub.id 0 := by
    rintro ⟨r, hr, hlone, -⟩
    obtain rfl : r = usedRule := List.mem_singleton.1 hr
    exact absurd (hbindings.symm.trans hlone) (by decide)
  obtain ⟨hsame, husers⟩ := compile_weightless hb (by decide) ⟨"/srv", ""⟩ hub.id 0
  exact ⟨hb, hbindings, by decide +kernel, (hsame hlone).1, husers.2 (Or.inr (Or.inl hlone))⟩

/-- a document with nothing but its routing rules -/
def bareDocument (rules : List Json) : Fields :=
  mergeDocument [] { Draft.empty with templateRules := rules } [] []

/-- the document of the hub, if its bindings come to nothing but the rule's own routing rules -/
theorem documentOf_off {s : Store} {rules : List Json}
    (hinbounds : s.inboundTypes.records = [] ∧ s.fixedInbounds.records = [])
    (houtbounds : (draftOf offContext s).1.outbounds = [])
    (hlinks : (draftOf offContext s).1.portals = [] ∧ (draftOf offContext s).1.bridges = [] ∧
      (draftOf offContext s).1.forwards = [])
    (hmembers : (draftOf offContext s).1.members.records = [])
    (hrules : (hopFragments offContext s).flatMap (·.rules offContext) = rules) :
    documentOf offContext s = bareDocument rules := by
  have hbalancers : balancersOf offContext s = [] := by
    rw [balancersOf_eq, hmembers]
    rfl
  have hnone : inboundsOf offContext s = [] := by
    unfold inboundsOf
    rw [hinbounds.1, hinbounds.2, hlinks.2.2]
    rfl
  have hbase : baseFields offContext = [] := by decide +kernel
  rw [documentOf_eq_merge, hbalancers, hnone, hbase]
  unfold bareDocument mergeDocument routingRules
  rw [houtbounds, hlinks.1, hlinks.2.1, hlinks.2.2, templateRules_draftOf, hrules]
  rfl

/-- alone it leaves the routing rule of its rule in the document, and the node with its own user -/
theorem lone_hop_leaves_traces :
    let s := offStore [offBinding]
    offBinding ∈ s.bindings.records ∧ offBinding.shares = [] ∧
      ∃ a a' s₁ s₂, compile s ⟨"/srv", ""⟩ hub.id 0 = (.ok a, s₁) ∧
        compile (s.withoutBinding 9) ⟨"/srv", ""⟩ hub.id 0 = (.ok a', s₂) ∧
        a.configText ≠ a'.configText ∧ s₁.internalUsers ≠ s₂.internalUsers := by
  intro s
  have hb : offBinding ∈ s.bindings.records := by decide +kernel
  have hnode : s.nodes.get? hub.id = some hub := by decide +kernel
  have hstarts : s.refusal? ⟨"/srv", ""⟩ hub.id = none := by decide +kernel
  have hstarts' : (s.withoutBinding 9).refusal? ⟨"/srv", ""⟩ hub.id = none := by decide +kernel
  obtain ⟨a, s₁, hok⟩ := compile_of_refusal hstarts 0
  obtain ⟨a', s₂, hok'⟩ := compile_of_refusal hstarts' 0
  refine ⟨hb, by decide, a, a', s₁, s₂, hok, hok', ?_, ?_⟩
  · have hcontext : s.contextOf ⟨"/srv", ""⟩ hub 0 = offContext := rfl
    have hcontext' : (s.withoutBinding 9).contextOf ⟨"/srv", ""⟩ hub 0 = offContext := rfl
    have hdocument : documentOf offContext s = bareDocument [.obj [("type", .str "field")]] :=
      documentOf_off ⟨rfl, rfl⟩ (by decide +kernel)
        ⟨by decide +kernel, by decide +kernel, by decide +kernel⟩ (by decide +kernel)
        (by decide +kernel)
    have hdocument' : documentOf offContext (s.withoutBinding 9) = bareDocument [] :=
      documentOf_off ⟨rfl, rfl⟩ (by decide +kernel)
        ⟨by decide +kernel, by decide +kernel, by decide +kernel⟩ (by decide +kernel)
        (by decide +kernel)
    have htext := (compile_document hnode hok).1
    have htext' := (compile_document (show (s.withoutBinding 9).nodes.get? hub.id = some hub from hnode)
      hok').1
    rw [hcontext, hdocument] at htext
    rw [hcontext', hdocument'] at htext'
    rw [htext, htext']
    decide +kernel
  · intro hsame
    have hlone : offBinding.IsLoneHop s hub.id 0 :=
      ⟨usedRule, by decide +kernel, by decide +kernel, by decide +kernel⟩
    have husers : (compile (s.withoutBinding 9) ⟨"/srv", ""⟩ hub.id 0).2.internalUsers =
        (compile s ⟨"/srv", ""⟩ hub.id 0).2.internalUsers := by
      rw [hok, hok']
      exact hsame.symm
    rcases (internalUsers_withoutBinding hb).1 husers with hrefused | hnot | hown
    · exact hrefused hstarts
    · exact hnot hlone
    · exact hown (by decide +kernel)

end ProxyMesh
