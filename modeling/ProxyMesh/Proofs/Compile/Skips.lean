import ProxyMesh.Proofs.Compile.Fragments

/-!
# What a fragment that is left out leaves behind

A fragment can fail at five stages.  Before its files are looked up it leaves nothing but its report.
From then on it also leaves the files that it took: those in front of the name that is not known, or
all that it names if its text fails after that.  Nothing takes them back.

* `Fragment.names`            the files that a fragment refers to;
* `SkipReason.taken`          the names that are taken before a fragment fails for a reason;
* `files_of_error`, `files_of_ok`   the files of a fragment, left out or not;
* `fragment_of_error`         no objects, a report and the files that were taken;
* `take_report_iff`           **only the report is left exactly if all these files were there already**;
* `OnlyRendered`              the steps of a compile do nothing else with a fragment that is left out;
* `compile_skips`             **what a compile keeps of the fragments that it leaves out**.
-/

namespace ProxyMesh

/-! ## the files of a fragment -/

/-- a named file as the node keeps it -/
def Context.fileNamed (c : Context) (name : String) : Option (String × FileSpec) :=
  (c.fileContent name).map fun text =>
    (name, .inline (dependentPath c.options.workDir name text) text)

/-- the names of the files that the placeholders of a fragment refer to -/
def Fragment.names (f : Fragment) : List String :=
  ((renderMarked f.template f.vars).map dependentNames).getD []

/-- the names among those of a fragment that are taken before it fails -/
def SkipReason.taken (names : List String) : SkipReason → List String
  | .template | .undefinedVariable _ => []
  | .dependent (.unknownFile unknown) => names.takeWhile (· != unknown)
  | .dependent .unsupportedPlaceholder | .objects _ => names

section
variable {c : Context} {f g : Fragment} {reason : SkipReason} {objects : List Json}
  {file file' : String × FileSpec}

theorem fst_of_fileNamed {name : String} (h : c.fileNamed name = some file) : file.1 = name := by
  obtain ⟨text, -, rfl⟩ := Option.map_eq_some_iff.1 h
  rfl

/-- the files of names, up to the first that is not known -/
theorem dependentFiles_cases (c : Context) (names : List String) :
    ((∃ unknown, dependentFiles c.fileContent c.options.workDir names =
        (.error (.unknownFile unknown),
          (names.takeWhile (· != unknown)).filterMap c.fileNamed) ∧
        c.fileNamed unknown = none ∧
        ∀ name ∈ names.takeWhile (· != unknown), (c.fileNamed name).isSome) ∨
      (dependentFiles c.fileContent c.options.workDir names =
          (.ok (), names.filterMap c.fileNamed) ∧
        ∀ name ∈ names, (c.fileNamed name).isSome)) := by
  induction names with
  | nil => exact Or.inr ⟨rfl, nofun⟩
  | cons name rest ih =>
    unfold dependentFiles
    cases hcontent : c.fileContent name with
    | none =>
      have hunknown : c.fileNamed name = none := by rw [Context.fileNamed, hcontent]; rfl
      refine Or.inl ⟨name, ?_, hunknown, ?_⟩
      · simp
      · simp
    | some text =>
      have hknown : c.fileNamed name =
          some (name, .inline (dependentPath c.options.workDir name text) text) := by
        rw [Context.fileNamed, hcontent]
        rfl
      have hsome : (c.fileNamed name).isSome := by rw [hknown]; rfl
      rcases ih with ⟨unknown, heq, hunknown, hbefore⟩ | ⟨heq, hall⟩
      · have hne : name ≠ unknown := by
          rintro rfl
          rw [hknown] at hunknown
          cases hunknown
        have hstep : (name :: rest).takeWhile (· != unknown) =
            name :: rest.takeWhile (· != unknown) :=
          List.takeWhile_cons_of_pos (bne_iff_ne.2 hne)
        refine Or.inl ⟨unknown, ?_, hunknown, ?_⟩
        · rw [heq, hstep, List.filterMap_cons_some hknown]
        · rw [hstep]
          exact List.forall_mem_cons.2 ⟨hsome, hbefore⟩
      · refine Or.inr ⟨?_, List.forall_mem_cons.2 ⟨hsome, hall⟩⟩
        rw [heq, List.filterMap_cons_some hknown]

/-- **how a fragment comes to its result and its files, stage by stage** -/
theorem result_cases (c : Context) (f : Fragment) :
    (∃ reason, f.result c = .error reason ∧
        f.files c = (reason.taken f.names).filterMap c.fileNamed ∧
        ∀ name ∈ reason.taken f.names, (c.fileNamed name).isSome) ∨
      ∃ objects, f.result c = .ok objects ∧ f.files c = f.names.filterMap c.fileNamed ∧
        ∀ name ∈ f.names, (c.fileNamed name).isSome := by
  unfold Fragment.result Fragment.files Fragment.names Context.fragment
  cases renderMarked f.template f.vars with
  | none => exact Or.inl ⟨.template, rfl, rfl, nofun⟩
  | some text =>
    dsimp only
    cases markerIn text with
    | some marker => exact Or.inl ⟨.undefinedVariable marker, rfl, rfl, nofun⟩
    | none =>
      unfold substitute
      dsimp only
      rcases dependentFiles_cases c (dependentNames text) with
        ⟨unknown, heq, -, hbefore⟩ | ⟨heq, hall⟩
      · rw [heq]
        exact Or.inl ⟨.dependent (.unknownFile unknown), rfl, rfl, hbefore⟩
      · rw [heq]
        dsimp only
        split
        next replaced files hreplaced =>
          split at hreplaced
          next =>
            obtain ⟨herror, rfl⟩ := Prod.mk.inj hreplaced
            obtain rfl := Except.error.inj herror
            exact Or.inl ⟨.dependent .unsupportedPlaceholder, rfl, rfl, hall⟩
          next => cases hreplaced
        next replaced files hreplaced =>
          split at hreplaced
          next => cases hreplaced
          next =>
            obtain ⟨-, rfl⟩ := Prod.mk.inj hreplaced
            cases parseObjects replaced with
            | error e => exact Or.inl ⟨.objects e, rfl, rfl, hall⟩
            | ok objects => exact Or.inr ⟨objects, rfl, rfl, hall⟩

theorem files_of_error (h : f.result c = .error reason) :
    f.files c = (reason.taken f.names).filterMap c.fileNamed := by
  rcases result_cases c f with ⟨reason', herror, hfiles, -⟩ | ⟨objects, hok, -⟩
  · obtain rfl := Except.error.inj (herror.symm.trans h)
    exact hfiles
  · rw [hok] at h
    cases h

theorem files_of_ok (h : f.result c = .ok objects) :
    f.files c = f.names.filterMap c.fileNamed ∧
      ∀ name ∈ f.names, (c.fileNamed name).isSome := by
  rcases result_cases c f with ⟨reason, herror, -⟩ | ⟨objects', -, hfiles, hall⟩
  · rw [herror] at h
    cases h
  · exact ⟨hfiles, hall⟩

theorem mem_taken {names : List String} {name : String} (h : name ∈ reason.taken names) :
    name ∈ names := by
  unfold SkipReason.taken at h
  split at h
  · cases h
  · cases h
  · exact (List.takeWhile_sublist _).subset h
  · exact h
  · exact h

theorem mem_files (h : file ∈ f.files c) : c.fileNamed file.1 = some file ∧ file.1 ∈ f.names := by
  rcases result_cases c f with ⟨reason, -, hfiles, -⟩ | ⟨objects, -, hfiles, -⟩
  · rw [hfiles] at h
    obtain ⟨name, hname, hfile⟩ := List.mem_filterMap.1 h
    rw [fst_of_fileNamed hfile]
    exact ⟨hfile, mem_taken hname⟩
  · rw [hfiles] at h
    obtain ⟨name, hname, hfile⟩ := List.mem_filterMap.1 h
    rw [fst_of_fileNamed hfile]
    exact ⟨hfile, hname⟩

theorem file_eq (h : file ∈ f.files c) (h' : file' ∈ g.files c) (hname : file.1 = file'.1) :
    file = file' := by
  have hfile := (mem_files h).1
  rw [hname, (mem_files h').1] at hfile
  exact (Option.some.inj hfile).symm

theorem skipped_eq_none_iff : f.skipped c = none ↔ ∃ objects, f.result c = .ok objects := by
  unfold Fragment.skipped
  cases f.result c with
  | ok objects => exact iff_of_true rfl ⟨objects, rfl⟩
  | error reason => exact iff_of_false nofun nofun

end

/-! ## the draft after a fragment was left out -/

namespace Draft

def report (d : Draft) (entry : SkippedFragment) : Draft :=
  { d with skippedFragments := d.skippedFragments ++ [entry] }

def take (d : Draft) (files : List (String × FileSpec)) : Draft :=
  { d with dependents := d.dependents.putAll files }

end Draft

section
variable {c : Context} {s : Store} {f : Fragment} {reason : SkipReason}

theorem render_of_error (h : f.result c = .error reason) (d : Draft) :
    d.render c f = (d.take (f.files c)).report ⟨f.kind, f.owner, reason⟩ := by
  unfold Draft.render Fragment.skipped
  rw [h]
  rfl

theorem fragment_of_error (h : f.result c = .error reason) (d : Draft) :
    d.fragment c f.kind f.owner f.template f.vars = (none, d.render c f) := by
  rw [fragment_eq, h]
  rfl

/-- **only the report is left exactly if all the files were there already** -/
theorem take_report_iff (c : Context) (f : Fragment) (d : Draft) (entry : SkippedFragment) :
    (d.take (f.files c)).report entry = d.report entry ↔
      ∀ file ∈ f.files c, file ∈ d.dependents.records := by
  have hagree : ∀ file ∈ f.files c, ∀ file' ∈ f.files c, key file = key file' → file = file' :=
    fun _ h _ h' => file_eq h h'
  rw [← Table.putAll_eq_self_iff hagree]
  constructor
  · intro h
    exact congrArg Draft.dependents h
  · intro h
    unfold Draft.take
    rw [h]

end

/-! ## the steps of a compile -/

/-- every step of a compile leaves a fragment that is left out at that: nothing else of the step's
state changes, and what comes of it is as if there were no template -/
structure OnlyRendered (c : Context) (s : Store) : Prop where
  direct : ∀ p b d used reason, (directFragment c p b).result c = .error reason →
    addDirect c p b (d, used) = (d.render c (directFragment c p b), used)
  bridge : ∀ p b portal a d used reason, (bridgeFragment c p b portal a).result c = .error reason →
    addBridgeEnd c p b portal a (d, used) = (d.render c (bridgeFragment c p b portal a), used)
  rule : ∀ r d reason, (ruleFragment c s r).result c = .error reason →
    addTemplateRules c r (s.ruleConsumers r.id c.node.id c.now) d
      (usedTags c (rulePrincipal c s r) (s.bindingsAt (.rule r.id) c.node.id)) =
        d.render c (ruleFragment c s r)
  strategy : ∀ tag plan definition d f reason, f ∈ strategyFragments tag plan definition →
    f.result c = .error reason → strategyOf c d tag plan definition =
      (plan.strategy ((definition.map (·.baselinesMs)).getD []) (definition.bind (·.maxRttMs)),
        d.render c f)
  consumer : ∀ t user users d reason, (consumerFragment c t user).result c = .error reason →
    consumerParts c t ("inbound " ++ t.name) (users ++ [user]) d =
      ((consumerParts c t ("inbound " ++ t.name) users d).1,
        (consumerParts c t ("inbound " ++ t.name) users d).2.render c (consumerFragment c t user))
  inbound : ∀ t users done d reason, inboundFragments c users t ≠ [] →
    (inboundFragment c users t).result c = .error reason →
    addInboundType c users (done, d) t = (done, (if t.isTemplate then d
      else (consumerParts c t ("inbound " ++ t.name) users d).2).render c (inboundFragment c users t))
  fixed : ∀ i done d reason, fixedFragments c i ≠ [] → (fixedFragment c i).result c = .error reason →
    addFixedInbound c (done, d) i = (done, d.render c (fixedFragment c i))
  base : ∀ d f reason, f ∈ baseFragments c → f.result c = .error reason →
    baseDocument c d = ([], d.render c f)

section
variable {c : Context} {s : Store} {reason : SkipReason}

theorem addOutbound_of_error {b : Binding} {tag : String} {user : User}
    (h : (outboundFragment c b tag user).result c = .error reason) (d : Draft) :
    d.addOutbound c b tag user = (false, d.render c (outboundFragment c b tag user)) := by
  have hfragment := fragment_of_error h d
  rw [addOutbound_eq]
  unfold outboundFragment at hfragment ⊢
  rw [hfragment]

theorem addDirect_of_error {p : Principal} {b : Binding}
    (h : (directFragment c p b).result c = .error reason) (d : Draft) (used : UsedTags) :
    addDirect c p b (d, used) = (d.render c (directFragment c p b), used) := by
  have hadd := addOutbound_of_error h d
  unfold directTag at hadd
  unfold addDirect
  dsimp only
  rw [hadd]
  rfl

theorem addBridgeEnd_of_error {p : Principal} {b : Binding} {portal : Id} {a : Allocation}
    (h : (bridgeFragment c p b portal a).result c = .error reason) (d : Draft) (used : UsedTags) :
    addBridgeEnd c p b portal a (d, used) = (d.render c (bridgeFragment c p b portal a), used) := by
  have hadd := addOutbound_of_error h d
  unfold reverseTag at hadd
  unfold addBridgeEnd
  dsimp only
  rw [hadd]
  rfl

theorem addTemplateRules_of_error {r : Rule} (h : (ruleFragment c s r).result c = .error reason)
    (d : Draft) : addTemplateRules c r (s.ruleConsumers r.id c.node.id c.now) d
      (usedTags c (rulePrincipal c s r) (s.bindingsAt (.rule r.id) c.node.id)) =
        d.render c (ruleFragment c s r) := by
  have hfragment := fragment_of_error h d
  unfold ruleFragment at hfragment ⊢
  unfold addTemplateRules
  dsimp only at hfragment ⊢
  rw [hfragment]

theorem strategyOf_of_error {tag : String} {plan : Balancing.Plan} {definition : Option Balancer}
    {f : Fragment} (hf : f ∈ strategyFragments tag plan definition) (h : f.result c = .error reason)
    (d : Draft) : strategyOf c d tag plan definition =
      (plan.strategy ((definition.map (·.baselinesMs)).getD []) (definition.bind (·.maxRttMs)),
        d.render c f) := by
  have hfragment := fragment_of_error h d
  unfold strategyFragments at hf
  obtain ⟨template, htemplate, rfl⟩ := List.mem_map.1 hf
  unfold strategyOf
  dsimp only at hfragment ⊢
  rw [Option.mem_toList.1 htemplate]
  dsimp only
  rw [hfragment]

theorem consumerParts_of_error {t : InboundType} {user : User}
    (h : (consumerFragment c t user).result c = .error reason) (users : List User) (d : Draft) :
    consumerParts c t ("inbound " ++ t.name) (users ++ [user]) d =
      ((consumerParts c t ("inbound " ++ t.name) users d).1,
        (consumerParts c t ("inbound " ++ t.name) users d).2.render c (consumerFragment c t user)) := by
  have hfragment := fragment_of_error h (consumerParts c t ("inbound " ++ t.name) users d).2
  unfold consumerFragment Context.consumerVars at hfragment ⊢
  unfold consumerParts at hfragment ⊢
  rw [List.foldl_append, List.foldl_cons, List.foldl_nil]
  dsimp only at hfragment ⊢
  rw [hfragment]

theorem addInboundType_of_error {t : InboundType} {users : List User}
    (ht : inboundFragments c users t ≠ []) (h : (inboundFragment c users t).result c = .error reason)
    (done : List Json) (d : Draft) :
    addInboundType c users (done, d) t = (done, (if t.isTemplate then d
      else (consumerParts c t ("inbound " ++ t.name) users d).2).render c
        (inboundFragment c users t)) := by
  have hfragment := fragment_of_error h (if t.isTemplate then d
    else (consumerParts c t ("inbound " ++ t.name) users d).2)
  have hparts : (if t.isTemplate then ([], d) else consumerParts c t ("inbound " ++ t.name) users d) =
      (if t.isTemplate then [] else c.consumerTexts t users,
        if t.isTemplate then d else (consumerParts c t ("inbound " ++ t.name) users d).2) := by
    rw [← consumerParts_fst c t ("inbound " ++ t.name) users d]
    split <;> rfl
  have hshown : (!t.isTemplate && !t.isActive) = false := by
    unfold inboundFragments at ht
    split at ht
    · exact absurd rfl ht
    next hshown => exact Bool.eq_false_iff.2 hshown
  unfold inboundFragment at hfragment ⊢
  unfold addInboundType
  dsimp only at hfragment ⊢
  rw [hshown, hparts]
  dsimp only
  rw [hfragment]
  rfl

theorem addFixedInbound_of_error {i : FixedInbound} (hi : fixedFragments c i ≠ [])
    (h : (fixedFragment c i).result c = .error reason) (done : List Json) (d : Draft) :
    addFixedInbound c (done, d) i = (done, d.render c (fixedFragment c i)) := by
  have hfragment := fragment_of_error h d
  unfold fixedFragment at hfragment ⊢
  unfold fixedFragments at hi
  unfold addFixedInbound
  dsimp only at hfragment ⊢
  split at hi
  next hhere => rw [if_pos hhere, hfragment]
  · exact absurd rfl hi

theorem baseDocument_of_error {f : Fragment} (hf : f ∈ baseFragments c)
    (h : f.result c = .error reason) (d : Draft) : baseDocument c d = ([], d.render c f) := by
  have hfragment := fragment_of_error h d
  unfold baseFragments at hf
  obtain ⟨template, htemplate, rfl⟩ := List.mem_map.1 hf
  unfold baseDocument
  dsimp only at hfragment ⊢
  rw [Option.mem_toList.1 htemplate]
  dsimp only
  rw [hfragment]

theorem onlyRendered (c : Context) (s : Store) : OnlyRendered c s where
  direct _ _ d used _ h := addDirect_of_error h d used
  bridge _ _ _ _ d used _ h := addBridgeEnd_of_error h d used
  rule _ d _ h := addTemplateRules_of_error h d
  strategy _ _ _ d _ _ hf h := strategyOf_of_error hf h d
  consumer _ _ users d _ h := consumerParts_of_error h users d
  inbound _ _ done d _ ht h := addInboundType_of_error ht h done d
  fixed _ done d _ hi h := addFixedInbound_of_error hi h done d
  base d _ _ hf h := baseDocument_of_error hf h d

end
/-! ## the files of a compile -/

/-- the files that a node installs for the placeholders of its fragments -/
def dependentsOf (c : Context) (s : Store) : List (String × FileSpec) :=
  (renderedOf c s).dependents.records

/-- a fragment that is not left out refers to the file -/
def IsReferenced (c : Context) (s : Store) (name : String) : Prop :=
  ∃ f ∈ fragmentsOf c s, f.skipped c = none ∧ name ∈ f.names

/-- what a compile keeps of the fragments that it leaves out -/
structure SkipsOf (c : Context) (s : Store) (a : Artifacts) : Prop where
  /-- each is reported once, in the order in which they are rendered -/
  reported : a.report.skippedFragments = (fragmentsOf c s).filterMap (·.skipped c)
  /-- it has no objects, and leaves its report and the files that it took -/
  left : ∀ (f : Fragment) (reason : SkipReason) (d : Draft), f.result c = .error reason →
    d.fragment c f.kind f.owner f.template f.vars = (none, d.render c f) ∧
      d.render c f = (d.take (f.files c)).report ⟨f.kind, f.owner, reason⟩
  steps : OnlyRendered c s
  /-- the stage at which it fails decides which files it took -/
  taken : ∀ (f : Fragment) (reason : SkipReason), f.result c = .error reason →
    f.files c = (reason.taken f.names).filterMap c.fileNamed
  /-- one that is kept takes all files that it names -/
  kept : ∀ (f : Fragment) (objects : List Json), f.result c = .ok objects →
    f.files c = f.names.filterMap c.fileNamed ∧ ∀ name ∈ f.names, (c.fileNamed name).isSome
  /-- only the report is left exactly if the files that it took were there already -/
  clean : ∀ (f : Fragment) (d : Draft) (entry : SkippedFragment),
    (d.take (f.files c)).report entry = d.report entry ↔ ∀ file ∈ f.files c, file ∈ d.dependents.records
  files : ∃ program : Option FileSpec, a.files = program.toList ++ (assets s c.options c.node c.site).2 ++
    [.inline a.configPath a.configText] ++ (dependentsOf c s).map (·.2)
  dependents : ∀ file, file ∈ dependentsOf c s ↔ ∃ f ∈ fragmentsOf c s, file ∈ f.files c
  /-- a file without a reference is one that a fragment took before it was left out -/
  referenced : (∀ file ∈ dependentsOf c s, IsReferenced c s file.1) ↔
    ∀ f ∈ fragmentsOf c s, f.skipped c ≠ none → ∀ file ∈ f.files c, IsReferenced c s file.1

section
variable {c : Context} {s : Store} {file : String × FileSpec}

theorem mem_dependentsOf : file ∈ dependentsOf c s ↔ ∃ f ∈ fragmentsOf c s, file ∈ f.files c := by
  unfold dependentsOf
  rw [dependents_renderedOf, Table.mem_putAll_empty, List.mem_flatMap]
  intro x hx y hy hname
  obtain ⟨f, -, hx⟩ := List.mem_flatMap.1 hx
  obtain ⟨g, -, hy⟩ := List.mem_flatMap.1 hy
  exact file_eq hx hy hname

theorem referenced_iff (c : Context) (s : Store) :
    (∀ file ∈ dependentsOf c s, IsReferenced c s file.1) ↔
      ∀ f ∈ fragmentsOf c s, f.skipped c ≠ none → ∀ file ∈ f.files c, IsReferenced c s file.1 := by
  constructor
  · intro h f hf _ file hfile
    exact h file (mem_dependentsOf.2 ⟨f, hf, hfile⟩)
  · intro h file hfile
    obtain ⟨f, hf, hfile⟩ := mem_dependentsOf.1 hfile
    by_cases hkept : f.skipped c = none
    · exact ⟨f, hf, hkept, (mem_files hfile).2⟩
    · exact h f hf hkept file hfile

theorem skipsOf_buildArtifacts (c : Context) (s : Store) (path : String)
    (program : Option FileSpec) : SkipsOf c s (buildArtifacts c s path program).1 := by
  rw [buildArtifacts_eq]
  exact {
    reported := skippedFragments_renderedOf c s
    left := fun f reason d herror => ⟨fragment_of_error herror d, render_of_error herror d⟩
    steps := onlyRendered c s
    taken := fun f reason herror => files_of_error herror
    kept := fun f objects hok => files_of_ok hok
    clean := fun f d entry => take_report_iff c f d entry
    files := ⟨program, rfl⟩
    dependents := fun file => mem_dependentsOf
    referenced := referenced_iff c s }

end

/-- **What a compile keeps of the fragments that it leaves out**: the reports, and the files that they
took before they failed. -/
theorem compile_skips {s s' : Store} {o : Options} {node : Node} {now : Nat} {a : Artifacts}
    (hnode : s.nodes.get? node.id = some node) (h : compile s o node.id now = (.ok a, s')) :
    SkipsOf (s.contextOf o node now) s a := by
  obtain ⟨path, program, rfl⟩ := compile_artifacts hnode h
  exact skipsOf_buildArtifacts _ s path program

/-! ## a certificate with and without its key -/

/-- a node that has a certificate but not the key to it -/
def vault : Node := ⟨1, "vault", "amd64", none, true, .ofList [("cert", "CERT")]⟩

def vaultSite : Site := { Site.default with runtimeProgram := some "xray" }

def vaultStore (fixed : List FixedInbound) : Store := { Store.empty with
  site := some vaultSite
  nodes := .ofList [vault]
  programs := .ofList [⟨"xray", [], [⟨1, "/opt/xray"⟩]⟩]
  fixedInbounds := .ofList fixed }

def vaultContext : Context := ⟨vault, vaultSite, ⟨"/srv", ""⟩, 0⟩

/-- an inbound that needs the certificate -/
def certInbound : FixedInbound :=
  ⟨1, none, "\x7b\"cert\": \"\x7b\x7bdep_path \"cert\"\x7d\x7d\"\x7d"⟩

/-- an inbound that needs the key as well -/
def keyInbound : FixedInbound :=
  ⟨2, none, "\x7b\"cert\": \"\x7b\x7bdep_path \"cert\"\x7d\x7d\", " ++
    "\"key\": \"\x7b\x7bdep_path \"key\"\x7d\x7d\"\x7d"⟩

theorem contextOf_vault (fixed : List FixedInbound) :
    (vaultStore fixed).contextOf ⟨"/srv", ""⟩ vault 0 = vaultContext := rfl

theorem fragmentsOf_vault (fixed : List FixedInbound) :
    fragmentsOf vaultContext (vaultStore fixed) =
      (Table.ofList fixed).records.flatMap (fixedFragments vaultContext) := by
  show _ ++ [] = _
  rw [List.append_nil]
  rfl

/-- the certificate as the vault keeps it -/
def certFile : String × FileSpec := ("cert", .inline (dependentPath "/srv" "cert" "CERT") "CERT")

theorem result_keyInbound : (fixedFragment vaultContext keyInbound).result vaultContext =
    .error (.dependent (.unknownFile "key")) := by
  decide +kernel

theorem files_keyInbound : (fixedFragment vaultContext keyInbound).files vaultContext = [certFile] := by
  have hnames : (fixedFragment vaultContext keyInbound).names = ["cert", "key"] := by decide +kernel
  have hcontent : vaultContext.fileContent "cert" = some "CERT" := by decide +kernel
  have hcert : vaultContext.fileNamed "cert" = some certFile := by
    rw [Context.fileNamed, hcontent]
    rfl
  rw [files_of_error result_keyInbound, hnames]
  show ["cert"].filterMap vaultContext.fileNamed = _
  rw [List.filterMap_cons_some hcert]
  rfl

/-- the certificate is there for the inbound that is kept, so nothing is left of the other -/
theorem compile_skips_vault :
    let s := vaultStore [certInbound, keyInbound]
    fragmentsOf vaultContext s =
        [fixedFragment vaultContext certInbound, fixedFragment vaultContext keyInbound] ∧
      (fixedFragment vaultContext certInbound).skipped vaultContext = none ∧
      (fixedFragment vaultContext keyInbound).result vaultContext =
        .error (.dependent (.unknownFile "key")) ∧
      ∃ a s', compile s ⟨"/srv", ""⟩ vault.id 0 = (.ok a, s') ∧ SkipsOf vaultContext s a ∧
        ∀ file ∈ dependentsOf vaultContext s, IsReferenced vaultContext s file.1 := by
  intro s
  have hfragments : fragmentsOf vaultContext s =
      [fixedFragment vaultContext certInbound, fixedFragment vaultContext keyInbound] := by
    rw [fragmentsOf_vault]
    rfl
  have hkept : (fixedFragment vaultContext certInbound).skipped vaultContext = none := by
    decide +kernel
  have hnode : s.nodes.get? vault.id = some vault := by decide +kernel
  have hstarts : s.refusal? ⟨"/srv", ""⟩ vault.id = none := by decide +kernel
  obtain ⟨a, s', hok⟩ := compile_of_refusal hstarts 0
  have hskips : SkipsOf vaultContext s a := compile_skips hnode hok
  have hcert : IsReferenced vaultContext s "cert" := by
    refine ⟨fixedFragment vaultContext certInbound, ?_, hkept, by decide +kernel⟩
    rw [hfragments]
    exact List.mem_cons_self
  refine ⟨hfragments, hkept, result_keyInbound, a, s', hok, hskips,
    hskips.referenced.2 fun f hf hleft file hfile => ?_⟩
  rw [hfragments] at hf
  rcases List.mem_pair.1 hf with rfl | rfl
  · exact absurd hkept hleft
  · rw [files_keyInbound, List.mem_singleton] at hfile
    rw [hfile]
    exact hcert

/-- without an inbound that is kept, the certificate is installed all the same -/
theorem certificate_leaked :
    let s := vaultStore [keyInbound]
    fragmentsOf vaultContext s = [fixedFragment vaultContext keyInbound] ∧
      (fixedFragment vaultContext keyInbound).result vaultContext =
        .error (.dependent (.unknownFile "key")) ∧
      (∃ a s', compile s ⟨"/srv", ""⟩ vault.id 0 = (.ok a, s') ∧ certFile.2 ∈ a.files) ∧
      ¬ ∀ file ∈ dependentsOf vaultContext s, IsReferenced vaultContext s file.1 := by
  intro s
  have hfragments : fragmentsOf vaultContext s = [fixedFragment vaultContext keyInbound] := by
    rw [fragmentsOf_vault]
    rfl
  have hdependent : certFile ∈ dependentsOf vaultContext s := by
    rw [mem_dependentsOf, hfragments]
    refine ⟨_, List.mem_singleton_self _, ?_⟩
    rw [files_keyInbound]
    exact List.mem_singleton_self _
  refine ⟨hfragments, result_keyInbound, ?_, fun h => ?_⟩
  · have hnode : s.nodes.get? vault.id = some vault := by decide +kernel
    have hstarts : s.refusal? ⟨"/srv", ""⟩ vault.id = none := by decide +kernel
    obtain ⟨a, s', hok⟩ := compile_of_refusal hstarts 0
    obtain ⟨path, program, ha⟩ := compile_artifacts hnode hok
    rw [contextOf_vault] at ha
    obtain ⟨program', hfiles⟩ := (skipsOf_buildArtifacts vaultContext s path program).files
    refine ⟨a, s', hok, ?_⟩
    rw [ha, hfiles]
    exact List.mem_append_right _ (List.mem_map.2 ⟨certFile, hdependent, rfl⟩)
  · obtain ⟨f, hf, hkept, -⟩ := h certFile hdependent
    rw [hfragments, List.mem_singleton] at hf
    obtain ⟨objects, hok⟩ := skipped_eq_none_iff.1 hkept
    rw [hf, result_keyInbound] at hok
    cases hok

end ProxyMesh
