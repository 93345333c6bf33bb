import ProxyMesh.Proofs.Compile.Documents

/-!
# What the base document keeps, and what it takes in

The base document of a site may hold anything.  Its own lists are kept, the compiled parts are put
behind them, and only the routing rules go before.  A list that is none, and a routing that is no
object, give way to the compiled ones.  The reverse links do not get their way like that: where the base
document has something else than an object for them, it stays, and the links are nowhere.

* `lookup_appendItems_self`      a list with its new items, whatever was there before;
* `Spliced`                      everything but the links is in its place, and the rest is untouched;
* `LinksSpliced`                 so are the links;
* `spliced_mergeDocument`        everything but the links always gets to its place;
* `linksSpliced_mergeDocument`   the links do exactly if there is room for them;
* `compile_merges`               **both, for every compile that succeeds**.
-/

namespace ProxyMesh

/-! ## sections -/

section
variable {name : String} {items : List Json} {fields : Fields}

theorem lookup_appendItems_self (name : String) (items : List Json) (fields : Fields) :
    (appendItems name items fields).lookup name = some (.arr (itemsOf name fields ++ items)) := by
  unfold appendItems itemsOf listItems
  cases fields.lookup name with
  | none => exact lookup_place_self _ _ _
  | some v =>
    cases v with
    | arr existing => exact lookup_place_self _ _ _
    | _ => exact lookup_place_self _ _ _

end

/-- Everything compiled but the links is in its section, with what the base document had there: behind
it in a list, before it among the routing rules.  All other keys are as they were. -/
structure Spliced (base : Fields) (d : Draft) (balancers : List CompiledBalancer)
    (inbounds : List Json) (doc : Fields) : Prop where
  inbounds : doc.lookup "inbounds" = some (.arr (itemsOf "inbounds" base ++ inbounds))
  outbounds : doc.lookup "outbounds" = some (.arr (itemsOf "outbounds" base ++ d.outbounds))
  routing : doc.lookup "routing" = some (.obj (fieldsOf "routing" doc))
  rules : (fieldsOf "routing" doc).lookup "rules" = some (.arr (d.portals.map portalRule ++
    d.bridges.map bridgeDomainRule ++
    (d.bridges.filter fun b => hasBalancer balancers b.balancer).map bridgeCatchAllRule ++
    (d.forwards.filter fun t => hasBalancer balancers (forwardBalancer t)).map forwardRule ++
    d.templateRules ++ itemsOf "rules" (fieldsOf "routing" base)))
  balancers : (fieldsOf "routing" doc).lookup "balancers" = some (.arr
    (itemsOf "balancers" (fieldsOf "routing" base) ++ balancers.map CompiledBalancer.toJson))
  routingRest : ∀ name, name ∉ ["rules", "balancers"] →
    (fieldsOf "routing" doc).lookup name = (fieldsOf "routing" base).lookup name
  unlinked : (d.bridges = [] ∧ d.portals = []) ∨ ¬ HasMergeableReverse base →
    doc.lookup "reverse" = base.lookup "reverse"
  rest : ∀ name, name ∉ ["inbounds", "outbounds", "routing", "reverse"] →
    doc.lookup name = base.lookup name

/-- all compiled links are in the section of links, behind those of the base document -/
structure LinksSpliced (base : Fields) (d : Draft) (doc : Fields) : Prop where
  bridges : itemsOf "bridges" (fieldsOf "reverse" doc) =
    itemsOf "bridges" (fieldsOf "reverse" base) ++ d.bridges.map fun b => reverseEntry b.tag b.domain
  portals : itemsOf "portals" (fieldsOf "reverse" doc) =
    itemsOf "portals" (fieldsOf "reverse" base) ++ d.portals.map fun p => reverseEntry p.tag p.domain
  rest : ∀ name, name ∉ ["bridges", "portals"] →
    (fieldsOf "reverse" doc).lookup name = (fieldsOf "reverse" base).lookup name

section
variable {base : Fields} {d : Draft} {balancers : List CompiledBalancer} {inbounds : List Json}

/-- without links, or without room for them, the section of links stays as it was -/
theorem lookup_reverse_unlinked
    (h : (d.bridges = [] ∧ d.portals = []) ∨ ¬ HasMergeableReverse base) :
    (mergeDocument base d balancers inbounds).lookup "reverse" = base.lookup "reverse" := by
  unfold mergeDocument
  dsimp only
  split
  · exact lookup_reverse base d inbounds _
  next hsome =>
    rw [Bool.and_eq_true, List.isEmpty_iff, List.isEmpty_iff] at hsome
    have hroom : ¬ HasMergeableReverse base := h.resolve_left hsome
    rw [lookup_place_self, lookup_reverse]
    cases hv : base.lookup "reverse" with
    | none => exact absurd (Or.inl hv) hroom
    | some v =>
      cases v with
      | obj fields => exact absurd (Or.inr ⟨fields, hv⟩) hroom
      | _ => rfl

theorem spliced_mergeDocument (base : Fields) (d : Draft) (balancers : List CompiledBalancer)
    (inbounds : List Json) :
    Spliced base d balancers inbounds (mergeDocument base d balancers inbounds) where
  inbounds := by
    rw [lookup_mergeDocument (by decide), lookup_place_ne (by decide),
      lookup_appendItems_ne (by decide), lookup_appendItems_self]
  outbounds := by
    rw [lookup_mergeDocument (by decide), lookup_place_ne (by decide), lookup_appendItems_self,
      itemsOf_appendItems_ne (by decide)]
  routing := by
    unfold fieldsOf
    rw [lookup_mergeDocument (by decide), lookup_place_self, mergeRouting_eq]
    rfl
  rules := by
    rw [fieldsOf_routing, lookup_appendItems_ne (by decide), lookup_place_self]
    rfl
  balancers := by
    rw [fieldsOf_routing, lookup_appendItems_self, itemsOf_place_ne (by decide)]
  routingRest name hname := by
    simp only [List.mem_cons, List.not_mem_nil, or_false, not_or] at hname
    rw [fieldsOf_routing, lookup_appendItems_ne hname.2, lookup_place_ne hname.1]
  unlinked := lookup_reverse_unlinked
  rest name hname := by
    simp only [List.mem_cons, List.not_mem_nil, or_false, not_or] at hname
    rw [lookup_mergeDocument hname.2.2.2, lookup_place_ne hname.2.2.1,
      lookup_appendItems_ne hname.2.1, lookup_appendItems_ne hname.1]

/-- **The links get to their place exactly if there are none or the base document has room for them.** -/
theorem linksSpliced_mergeDocument :
    LinksSpliced base d (mergeDocument base d balancers inbounds) ↔
      (d.bridges = [] ∧ d.portals = []) ∨ HasMergeableReverse base := by
  by_cases hnone : d.bridges = [] ∧ d.portals = []
  · refine iff_of_true ⟨?_, ?_, ?_⟩ (Or.inl hnone)
    · rw [fieldsOf_reverse_of_nil hnone.1 hnone.2, hnone.1, List.map_nil, List.append_nil]
    · rw [fieldsOf_reverse_of_nil hnone.1 hnone.2, hnone.2, List.map_nil, List.append_nil]
    · intro name _
      rw [fieldsOf_reverse_of_nil hnone.1 hnone.2]
  rw [or_iff_right hnone]
  have hsome : d.bridges ≠ [] ∨ d.portals ≠ [] := not_and_or.1 hnone
  constructor
  · intro h
    by_contra hroom
    have hbridges := h.bridges
    have hportals := h.portals
    rw [fieldsOf_reverse_of_not hroom] at hbridges hportals
    rcases hsome with hsome | hsome
    · exact hsome (List.map_eq_nil_iff.1 (List.append_eq_nil_iff.1 hbridges.symm).2)
    · exact hsome (List.map_eq_nil_iff.1 (List.append_eq_nil_iff.1 hportals.symm).2)
  · intro hroom
    refine ⟨itemsOf_bridges hroom, itemsOf_portals hroom, fun name hname => ?_⟩
    simp only [List.mem_cons, List.not_mem_nil, or_false, not_or] at hname
    rw [fieldsOf_reverse hroom hsome, lookup_appendItems_ne hname.2, lookup_appendItems_ne hname.1]

end

/-- **A document keeps its base and takes in all that was compiled**, but for the links where the base
document has something else than an object in their place.  Routing rules to balancers without members
are not among the compiled ones. -/
theorem compile_merges {s s' : Store} {o : Options} {node : Node} {now : Nat} {a : Artifacts}
    (hnode : s.nodes.get? node.id = some node) (h : compile s o node.id now = (.ok a, s')) :
    a.configText = Json.pretty (.obj (documentOf (s.contextOf o node now) s)) ∧
      Spliced (baseFields (s.contextOf o node now)) (draftOf (s.contextOf o node now) s).1
        a.balancers (inboundsOf (s.contextOf o node now) s) (documentOf (s.contextOf o node now) s) ∧
      (LinksSpliced (baseFields (s.contextOf o node now)) (draftOf (s.contextOf o node now) s).1
          (documentOf (s.contextOf o node now) s) ↔
        ((draftOf (s.contextOf o node now) s).1.bridges = [] ∧
            (draftOf (s.contextOf o node now) s).1.portals = []) ∨
          HasMergeableReverse (baseFields (s.contextOf o node now))) := by
  obtain ⟨htext, hbalancers, -⟩ := compile_document hnode h
  refine ⟨htext, ?_, ?_⟩
  · rw [documentOf_eq_merge, hbalancers]
    exact spliced_mergeDocument _ _ _ _
  · rw [documentOf_eq_merge]
    exact linksSpliced_mergeDocument

/-! ## base documents of odd shapes -/

/-- the hub, which has links in both directions, with a base document -/
def hubOver (base : String) : Store := { hubStore with
  site := some { Site.default with runtimeProgram := some "xray", baseTemplate := some base } }

def hubOverContext (base : String) : Context := (hubOver base).contextOf ⟨"/srv", ""⟩ hub 0

/-- a number where a list is expected, a key that is none of the sections, and room for links -/
def oddBase : String := "\x7b\"inbounds\":1,\"log\":2,\"reverse\":\x7b\x7d\x7d"

theorem compile_merges_oddBase :
    baseFields (hubOverContext oddBase) = [("inbounds", .int 1), ("log", .int 2), ("reverse", .obj [])] ∧
      ∃ a s', compile (hubOver oddBase) ⟨"/srv", ""⟩ hub.id 0 = (.ok a, s') ∧
        Spliced (baseFields (hubOverContext oddBase)) (draftOf (hubOverContext oddBase) (hubOver oddBase)).1
          a.balancers (inboundsOf (hubOverContext oddBase) (hubOver oddBase))
          (documentOf (hubOverContext oddBase) (hubOver oddBase)) ∧
        LinksSpliced (baseFields (hubOverContext oddBase))
          (draftOf (hubOverContext oddBase) (hubOver oddBase)).1
          (documentOf (hubOverContext oddBase) (hubOver oddBase)) := by
  have hnode : (hubOver oddBase).nodes.get? hub.id = some hub := by decide +kernel
  have hbase : baseFields (hubOverContext oddBase) =
      [("inbounds", .int 1), ("log", .int 2), ("reverse", .obj [])] := by decide +kernel
  have hstarts : (hubOver oddBase).refusal? ⟨"/srv", ""⟩ hub.id = none := by decide +kernel
  obtain ⟨a, s', hok⟩ := compile_of_refusal hstarts 0
  obtain ⟨-, hspliced, hlinks⟩ := compile_merges hnode hok
  refine ⟨hbase, a, s', hok, hspliced, hlinks.2 (Or.inr (Or.inr ⟨[], ?_⟩))⟩
  show (baseFields (hubOverContext oddBase)).lookup "reverse" = _
  rw [hbase]
  rfl

/-- a number in the place of the links -/
def linklessBase : String := "\x7b\"reverse\": 1\x7d"

/-- the rules of the document name a bridge and a portal, and the document has neither -/
theorem links_lost :
    let d := (draftOf (hubOverContext linklessBase) (hubOver linklessBase)).1
    let doc := documentOf (hubOverContext linklessBase) (hubOver linklessBase)
    (∃ a s', compile (hubOver linklessBase) ⟨"/srv", ""⟩ hub.id 0 = (.ok a, s')) ∧
      d.bridges.length = 1 ∧ d.portals.length = 1 ∧ doc.lookup "reverse" = some (.int 1) ∧
      ¬ LinksSpliced (baseFields (hubOverContext linklessBase)) d doc := by
  intro d doc
  have hbase : baseFields (hubOverContext linklessBase) = [("reverse", .int 1)] := by decide +kernel
  have hportals : d.portals.length = 1 := by decide +kernel
  have hroom : ¬ HasMergeableReverse (baseFields (hubOverContext linklessBase)) := by
    rw [hbase]
    rintro (h | ⟨fields, h⟩) <;> cases h
  refine ⟨compile_of_refusal (by decide +kernel) 0, by decide +kernel, hportals,
    ?_, ?_⟩
  · show (documentOf _ _).lookup "reverse" = _
    rw [documentOf_eq_merge, lookup_reverse_unlinked (Or.inr hroom), hbase]
    rfl
  · show ¬ LinksSpliced _ _ (documentOf _ _)
    rw [documentOf_eq_merge, linksSpliced_mergeDocument]
    rintro (hnone | h)
    · rw [hnone.2] at hportals
      cases hportals
    · exact hroom h

end ProxyMesh
