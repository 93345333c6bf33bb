import ProxyMesh.Proofs.Compile.References

/-!
# The lists of a document

A document is the base document of the site with the parts of a draft put into its lists.  The inbounds
are rendered after the draft, but what they are depends on the users of the draft alone.

* `Context.objects`           the objects of a fragment, none if it is left out;
* `Context.consumerTexts`     the users of an inbound as it is given them;
* `Context.inboundObjects`, `Context.fixedObjects`   the objects of one inbound;
* `usersOf`, `inboundsOf`     the users of a node, and its inbounds;
* `plainInbounds_fst`         **the inbounds of all types, each with every user, and the fixed ones**;
* `documentOf_eq_merge`       the document with all its parts named;
* `Merged`                    what is where in a document;
* `compile_document`          **what a compile that succeeds gives**.
-/

namespace ProxyMesh
namespace Context

/-- the objects of a fragment, none if it is left out -/
def objects (c : Context) (template : String) (vars : Json) : List Json :=
  (c.fragment template vars).1.toOption.getD []

/-- what a consumer template sees -/
def consumerVars (c : Context) (u : User) : Json :=
  .ofFields [("env", environment), ("user", c.userJson u)]

/-- the texts of the users, in their order -/
def consumerTexts (c : Context) (t : InboundType) (users : List User) : List String :=
  users.flatMap fun u => (c.objects t.consumerTemplate (c.consumerVars u)).map Json.compact

/-- an inbound of a type: a template as it is, an active one with its users, none of any other -/
def inboundObjects (c : Context) (users : List User) (t : InboundType) : List Json :=
  if !t.isTemplate && !t.isActive then []
  else c.objects t.inboundTemplate (c.varsWith [
    ("inbound_tag", .str t.name),
    ("consumers_part", .str (joinCommas (if t.isTemplate then [] else c.consumerTexts t users)))])

def fixedObjects (c : Context) (i : FixedInbound) : List Json :=
  if i.nodeId.all (· == c.node.id) then c.objects i.template (c.varsWith []) else []

end Context

/-- the users of a node, in the order of their e-mails -/
def usersOf (c : Context) (s : Store) : List User := (draftOf c s).1.consumers.records.map (·.2)

def inboundsOf (c : Context) (s : Store) : List Json :=
  s.inboundTypes.records.flatMap (c.inboundObjects (usersOf c s)) ++
    s.fixedInbounds.records.flatMap c.fixedObjects ++ (draftOf c s).1.forwards.map forwardInbound

/-! ## inbounds -/

section
variable {c : Context} {s : Store} {d : Draft}

/-- whatever becomes of the draft, the objects of a fragment are added to those before it -/
theorem append_fragment {α β : Type} (d : Draft) (c : Context) (kind : FragmentKind)
    (owner template : String) (vars : Json) (convert : List Json → List α) (done : List α)
    (hnil : convert [] = []) (more : Draft → β) :
    (match d.fragment c kind owner template vars with
      | (some objects, d) => (done ++ convert objects, more d)
      | (none, d) => (done, more d)).1 = done ++ convert (c.objects template vars) := by
  unfold Context.objects
  rw [← fragment_fst d c kind owner template vars]
  rcases d.fragment c kind owner template vars with ⟨_ | objects, d'⟩
  · show done = done ++ convert []
    rw [hnil, List.append_nil]
  · rfl

theorem consumerParts_fst (c : Context) (t : InboundType) (owner : String) (users : List User)
    (d : Draft) : (consumerParts c t owner users d).1 = c.consumerTexts t users :=
  foldl_appends Prod.fst (fun (parts, d) u => append_fragment d c .consumer owner t.consumerTemplate
    (c.consumerVars u) (List.map Json.compact) parts rfl id) users ([], d)

theorem addInboundType_fst (c : Context) (users : List User) (state : List Json × Draft)
    (t : InboundType) :
    (addInboundType c users state t).1 = state.1 ++ c.inboundObjects users t := by
  obtain ⟨done, d⟩ := state
  unfold addInboundType Context.inboundObjects
  dsimp only
  split
  · exact (List.append_nil _).symm
  · have hparts : (if t.isTemplate then (([] : List String), d)
        else consumerParts c t ("inbound " ++ t.name) users d).1 =
        if t.isTemplate then [] else c.consumerTexts t users := by
      split
      · rfl
      · exact consumerParts_fst _ _ _ _ _
    rw [← hparts]
    exact append_fragment _ c .inbound _ t.inboundTemplate _ id done rfl id

theorem addFixedInbound_fst (c : Context) (state : List Json × Draft) (i : FixedInbound) :
    (addFixedInbound c state i).1 = state.1 ++ c.fixedObjects i := by
  obtain ⟨done, d⟩ := state
  unfold addFixedInbound Context.fixedObjects
  dsimp only
  split
  · exact append_fragment d c .fixedInbound _ i.template _ id done rfl id
  · exact (List.append_nil _).symm

/-- **the inbounds of all types, each with every user, and the fixed ones** -/
theorem plainInbounds_fst (c : Context) (s : Store) (d : Draft) : (plainInbounds c s d).1 =
    s.inboundTypes.records.flatMap (c.inboundObjects (d.consumers.records.map (·.2))) ++
      s.fixedInbounds.records.flatMap c.fixedObjects := by
  unfold plainInbounds
  rw [foldl_appends Prod.fst (addFixedInbound_fst c), foldl_appends Prod.fst (addInboundType_fst c _),
    List.nil_append]

/-! ## documents -/

/-- the users that a compile makes are no inbounds -/
theorem renderInbounds_draftOf {d : Draft} (hbody : d.body = (draftOf c s).1.body) :
    (renderInbounds c (draftOf c s).2 d).1 = inboundsOf c s := by
  rw [renderInbounds_fst, plainInbounds_fst, Draft.consumers_of_body hbody,
    Draft.forwards_of_body hbody, Store.draftOf_store, ← Store.withUsers_joinAll]
  rfl

theorem documentOf_eq_merge (c : Context) (s : Store) : documentOf c s =
    mergeDocument (baseFields c) (draftOf c s).1 (balancersOf c s) (inboundsOf c s) := by
  rw [documentOf_rendered, renderInbounds_draftOf (body_compileBalancers _ _ _)]

/-- the base document with the compiled parts in its lists -/
structure Merged (base : Fields) (d : Draft) (balancers : List CompiledBalancer)
    (inbounds : List Json) (doc : Fields) : Prop where
  inbounds : itemsOf "inbounds" doc = itemsOf "inbounds" base ++ inbounds
  outbounds : itemsOf "outbounds" doc = itemsOf "outbounds" base ++ d.outbounds
  /-- the compiled rules come first -/
  rules : ∃ rest, itemsOf "rules" (fieldsOf "routing" doc) =
    d.portals.map portalRule ++ d.bridges.map bridgeDomainRule ++ rest
  balancers : itemsOf "balancers" (fieldsOf "routing" doc) =
    itemsOf "balancers" (fieldsOf "routing" base) ++ balancers.map CompiledBalancer.toJson
  portals : HasMergeableReverse base → itemsOf "portals" (fieldsOf "reverse" doc) =
    itemsOf "portals" (fieldsOf "reverse" base) ++
      d.portals.map fun p => reverseEntry p.tag p.domain
  bridges : HasMergeableReverse base → itemsOf "bridges" (fieldsOf "reverse" doc) =
    itemsOf "bridges" (fieldsOf "reverse" base) ++
      d.bridges.map fun b => reverseEntry b.tag b.domain
  noLinks : ¬ HasMergeableReverse base → fieldsOf "reverse" doc = []

theorem merged_mergeDocument (base : Fields) (d : Draft) (balancers : List CompiledBalancer)
    (inbounds : List Json) :
    Merged base d balancers inbounds (mergeDocument base d balancers inbounds) where
  inbounds := itemsOf_inbounds
  outbounds := itemsOf_outbounds
  rules := by
    rw [itemsOf_rules]
    unfold routingRules
    simp only [List.append_assoc]
    exact ⟨_, rfl⟩
  balancers := itemsOf_balancers
  portals := itemsOf_portals
  bridges := itemsOf_bridges
  noLinks := fieldsOf_reverse_of_not

/-- **the document of a compile that succeeds** -/
theorem compile_document {s' : Store} {o : Options} {node : Node} {now : Nat} {a : Artifacts}
    (hnode : s.nodes.get? node.id = some node) (h : compile s o node.id now = (.ok a, s')) :
    a.configText = Json.pretty (.obj (documentOf (s.contextOf o node now) s)) ∧
      a.balancers = balancersOf (s.contextOf o node now) s ∧
      Merged (baseFields (s.contextOf o node now)) (draftOf (s.contextOf o node now) s).1
        a.balancers (inboundsOf (s.contextOf o node now) s)
        (documentOf (s.contextOf o node now) s) := by
  obtain ⟨path, file, rfl⟩ := compile_artifacts hnode h
  obtain ⟨htext, hbalancers⟩ := buildArtifacts_document (s.contextOf o node now) s path file
  refine ⟨htext, hbalancers, ?_⟩
  rw [documentOf_eq_merge, hbalancers]
  exact merged_mergeDocument _ _ _ _

end
end ProxyMesh
