import ProxyMesh.Proofs.Compile.Users

/-!
# What a compile reads of the store

A compile looks at the store through a few questions: the node, the site and its programs, the rules
and tunnels with the bindings at the node, who consumes a rule, and who the node is for it.  Two
stores that answer them alike give the same artifacts, and the users that a compile makes on its way
change none of the answers.

* `ReadsAlike`              the stores answer a compile of the node alike;
* `readsAlike_joinAll`      **the users that a node makes for itself are not seen by its compile**;
* `addRule_congr`, `foldl_addRule_fst`   so each rule is compiled as if it were the first;
* `draftOf_congr`, `buildArtifacts_congr`   alike answers give one draft, and the same artifacts;
* `compile_congr`           **a compile depends on nothing else**.
-/

namespace ProxyMesh

/-- the programs that a site asks for -/
def Site.programNames (site : Site) : List String :=
  site.runtimeProgram.toList ++ (assetPrograms site).map (·.2)

/-- the fixed inbounds that are not for another node -/
def Store.fixedInboundsAt (s : Store) (id : Id) : List FixedInbound :=
  s.fixedInbounds.records.filter fun i => i.nodeId.all (· == id)

/-- the stores answer a compile of the node alike -/
structure ReadsAlike (id : Id) (now : Nat) (s s' : Store) : Prop where
  node : s.nodes.get? id = s'.nodes.get? id
  site : s.siteSettings = s'.siteSettings
  programs : ∀ name ∈ s.siteSettings.programNames, s.programs.get? name = s'.programs.get? name
  rules : s.rules = s'.rules
  tunnels : s.tunnels = s'.tunnels
  balancers : s.balancers = s'.balancers
  inboundTypes : s.inboundTypes = s'.inboundTypes
  fixedInbounds : s.fixedInboundsAt id = s'.fixedInboundsAt id
  bindings : ∀ scope, s.bindingsAt scope id = s'.bindingsAt scope id
  consumers : ∀ rule, s.ruleConsumers rule id now = s'.ruleConsumers rule id now
  own : ∀ rule, User.ofInternal (s.internalUserFor rule id).1 =
    User.ofInternal (s'.internalUserFor rule id).1

section
variable {c : Context} {s s' : Store} {o : Options} {id : Id} {now : Nat} {node : Node}

/-! ## users that a node makes for itself -/

theorem readsAlike_refl (id : Id) (now : Nat) (s : Store) : ReadsAlike id now s s :=
  ⟨rfl, rfl, fun _ _ => rfl, rfl, rfl, rfl, rfl, rfl, fun _ => rfl, fun _ => rfl, fun _ => rfl⟩

theorem ReadsAlike.symm (h : ReadsAlike id now s s') : ReadsAlike id now s' s where
  node := h.node.symm
  site := h.site.symm
  programs name hname := (h.programs name (h.site ▸ hname)).symm
  rules := h.rules.symm
  tunnels := h.tunnels.symm
  balancers := h.balancers.symm
  inboundTypes := h.inboundTypes.symm
  fixedInbounds := h.fixedInbounds.symm
  bindings scope := (h.bindings scope).symm
  consumers rule := (h.consumers rule).symm
  own rule := (h.own rule).symm

theorem ReadsAlike.trans {s'' : Store} (h : ReadsAlike id now s s') (h' : ReadsAlike id now s' s'') :
    ReadsAlike id now s s'' where
  node := h.node.trans h'.node
  site := h.site.trans h'.site
  programs name hname := (h.programs name hname).trans (h'.programs name (h.site ▸ hname))
  rules := h.rules.trans h'.rules
  tunnels := h.tunnels.trans h'.tunnels
  balancers := h.balancers.trans h'.balancers
  inboundTypes := h.inboundTypes.trans h'.inboundTypes
  fixedInbounds := h.fixedInbounds.trans h'.fixedInbounds
  bindings scope := (h.bindings scope).trans (h'.bindings scope)
  consumers rule := (h.consumers rule).trans (h'.consumers rule)
  own rule := (h.own rule).trans (h'.own rule)

/-- stores that differ in their internal users only, but in none that the compile sees -/
theorem readsAlike_withUsers {users : Table InternalUser}
    (hconsumers : ∀ rule, (s.withUsers users).ruleConsumers rule id now = s.ruleConsumers rule id now)
    (hown : ∀ rule, ((s.withUsers users).internalUserFor rule id).1 = (s.internalUserFor rule id).1) :
    ReadsAlike id now (s.withUsers users) s :=
  ⟨rfl, rfl, fun _ _ => rfl, rfl, rfl, rfl, rfl, rfl, fun _ => rfl, hconsumers, fun rule =>
    congrArg User.ofInternal (hown rule)⟩

theorem readsAlike_join (s : Store) (now : Nat) (rule id : Id) :
    ReadsAlike id now (s.join now (rule, id)) s := by
  have halike : ReadsAlike id now (s.withUsers (s.join now (rule, id)).internalUsers) s := by
    refine readsAlike_withUsers (fun other => ?_) (fun other => ?_)
    · rw [Store.withUsers_join, Store.ruleConsumers_join]
    · rw [Store.withUsers_join, Store.internalUserFor_join]
  rwa [Store.withUsers_join] at halike

/-- **the users that a node makes for itself are not seen by its compile** -/
theorem readsAlike_joinAll (s : Store) (now : Nat) (id : Id) (rules : List Rule) :
    ReadsAlike id now (s.joinAll now (rules.map fun r => (r.id, id))) s := by
  induction rules generalizing s with
  | nil => exact readsAlike_refl id now s
  | cons r rest ih => exact (ih (s.join now (r.id, id))).trans (readsAlike_join s now r.id id)

/-! ## the draft -/

theorem addRule_congr (h : ReadsAlike c.node.id c.now s s') (d : Draft) (r : Rule) :
    (addRule c (d, s) r).1 = (addRule c (d, s') r).1 := by
  unfold addRule
  dsimp only
  rw [h.bindings, h.consumers]
  split
  · rfl
  · split
    · rfl
    · rw [h.own]

theorem foldl_addRule_fst (c : Context) (rules : List Rule) (d : Draft) (s : Store) :
    (rules.foldl (addRule c) (d, s)).1 = rules.foldl (fun d r => (addRule c (d, s) r).1) d := by
  induction rules generalizing d s with
  | nil => rfl
  | cons r rest ih =>
    have hstore := Store.addRule_store c d s r
    rw [List.foldl_cons, List.foldl_cons]
    generalize addRule c (d, s) r = next at hstore ⊢
    obtain ⟨d', s'⟩ := next
    obtain rfl : s' = s.join c.now (r.id, c.node.id) := hstore
    rw [ih]
    congr 1
    funext d r'
    exact addRule_congr (readsAlike_join s c.now r.id c.node.id) d r'

theorem addTunnel_congr (h : ReadsAlike c.node.id c.now s s') (d : Draft) (t : Tunnel) :
    addTunnel c s d t = addTunnel c s' d t := by
  unfold addTunnel
  rw [h.bindings]

/-- the store that the draft leaves reads as the one that it began with -/
theorem readsAlike_draftOf (c : Context) (s : Store) :
    ReadsAlike c.node.id c.now (draftOf c s).2 s := by
  rw [Store.draftOf_store]
  exact readsAlike_joinAll s c.now c.node.id s.rules.records

/-- the rules and then the tunnels, each compiled on the store as it was -/
theorem draftOf_fst (c : Context) (s : Store) : (draftOf c s).1 =
    s.tunnels.records.foldl (addTunnel c s)
      (s.rules.records.foldl (fun d r => (addRule c (d, s) r).1) .empty) := by
  have halike := readsAlike_joinAll s c.now c.node.id s.rules.records
  rw [← Store.foldl_addRule_store c s.rules.records .empty s] at halike
  rw [← foldl_addRule_fst]
  unfold draftOf
  dsimp only
  rw [halike.tunnels, funext fun d => funext (addTunnel_congr halike d)]

theorem draftOf_congr (h : ReadsAlike c.node.id c.now s s') :
    (draftOf c s).1 = (draftOf c s').1 := by
  have hrules : (fun (d : Draft) (r : Rule) => (addRule c (d, s) r).1) =
      fun d r => (addRule c (d, s') r).1 := funext fun d => funext (addRule_congr h d)
  have htunnels : addTunnel c s = addTunnel c s' := funext fun d => funext (addTunnel_congr h d)
  rw [draftOf_fst, draftOf_fst, h.rules, h.tunnels, hrules, htunnels]

/-! ## what follows the draft -/

theorem compileBalancers_congr (h : ReadsAlike id now s s') (c : Context) (d : Draft) :
    compileBalancers c s d = compileBalancers c s' d := by
  unfold compileBalancers addBalancer Store.balancersFor
  rw [h.balancers]

theorem foldl_addFixedInbound (c : Context) (s : Store) (state : List Json × Draft) :
    s.fixedInbounds.records.foldl (addFixedInbound c) state =
      (s.fixedInboundsAt c.node.id).foldl (addFixedInbound c) state := by
  unfold Store.fixedInboundsAt
  rw [List.foldl_filter]
  congr 1
  funext state i
  cases hi : i.nodeId.all (· == c.node.id) <;> simp [addFixedInbound, hi]

theorem renderInbounds_congr (h : ReadsAlike c.node.id now s s') (d : Draft) :
    renderInbounds c s d = renderInbounds c s' d := by
  unfold renderInbounds
  dsimp only
  rw [foldl_addFixedInbound, foldl_addFixedInbound, h.fixedInbounds, h.inboundTypes]

theorem programPath_congr {program : String}
    (h : program.isEmpty = false → s.programs.get? program = s'.programs.get? program) :
    programPath s o node program = programPath s' o node program := by
  unfold programPath
  cases hempty : program.isEmpty with
  | true => rfl
  | false => rw [h hempty]

theorem assets_congr {site : Site}
    (h : ∀ name ∈ site.programNames, s.programs.get? name = s'.programs.get? name) :
    assets s o node site = assets s' o node site := by
  have hlocated : ∀ entry ∈ assetPrograms site,
      ((s.programs.get? entry.2).bind (·.locate node)).map (entry.1, ·) =
        ((s'.programs.get? entry.2).bind (·.locate node)).map (entry.1, ·) := by
    intro entry hentry
    rw [h entry.2 (List.mem_append_right _ (List.mem_map.2 ⟨entry, hentry, rfl⟩))]
  unfold assets
  dsimp only
  rw [List.filterMap_congr hlocated]

theorem buildArtifacts_congr (h : ReadsAlike c.node.id c.now s s') (hsite : c.site = s.siteSettings)
    (path : String) (file : Option FileSpec) :
    (buildArtifacts c s path file).1 = (buildArtifacts c s' path file).1 := by
  have hafter : ReadsAlike c.node.id c.now (draftOf c s).2 (draftOf c s').2 :=
    (readsAlike_draftOf c s).trans (h.trans (readsAlike_draftOf c s').symm)
  have hassets : assets (draftOf c s).2 c.options c.node c.site =
      assets (draftOf c s').2 c.options c.node c.site :=
    assets_congr fun name hname => hafter.programs name
      ((readsAlike_draftOf c s).site.symm ▸ hsite ▸ hname)
  unfold buildArtifacts
  dsimp only
  rw [draftOf_congr h, compileBalancers_congr hafter, renderInbounds_congr hafter, hassets]

/-- the runtime is one of the programs of the site -/
theorem programPath_runtime (h : ReadsAlike id now s s') (o : Options) (node : Node) :
    programPath s o node (s.siteSettings.runtimeProgram.getD "") =
      programPath s' o node (s.siteSettings.runtimeProgram.getD "") := by
  refine programPath_congr fun hnamed => h.programs _ (List.mem_append_left _ ?_)
  cases hruntime : s.siteSettings.runtimeProgram with
  | none =>
    rw [hruntime] at hnamed
    cases hnamed
  | some program => exact List.mem_singleton_self program

/-- **a compile depends on nothing else** -/
theorem compile_congr (h : ReadsAlike id now s s') (o : Options) :
    (compile s o id now).1 = (compile s' o id now).1 := by
  unfold compile
  rw [← h.node, ← h.site]
  split
  · rfl
  next node hnode =>
    obtain rfl : node.id = id := Table.key_of_get? hnode
    split
    · rfl
    · dsimp only
      rw [← programPath_runtime h]
      split
      · rfl
      · rfl
      next path file _ =>
        exact congrArg Except.ok
          (buildArtifacts_congr (c := ⟨node, s.siteSettings, o, now⟩) h rfl path file)

end
end ProxyMesh
