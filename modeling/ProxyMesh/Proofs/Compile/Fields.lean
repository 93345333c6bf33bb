import ProxyMesh.Compile.Document
import ProxyMesh.Proofs.Tables

/-!
# Reading the fields of a document

The compiled parts are put into lists and objects that the base document may have already.  What was
there is kept in front of what is added, unless it is of another kind.

* `fieldsOf`, `itemsOf`          an object or a list in a field, empty if it is anything else;
* `Json.text?`, `Json.texts?`    a text, or a list of texts, in a field of an object;
* `HasTag`                       an entry of the list has this tag;
* `lookup_place_self`, `lookup_place_ne`, `get?_ofFields`   fields put in key order are found;
* `itemsOf_appendItems_self`     **items are appended to those that were there**;
* `itemsOf_outbounds`, `itemsOf_inbounds`, `itemsOf_rules`, `itemsOf_balancers`,
  `fieldsOf_reverse`             **what is in the lists of the merged document**.
-/

namespace ProxyMesh

/-- the fields of an object -/
def objectFields : Option Json → Fields
  | some (.obj fields) => fields
  | _ => []

/-- the items of a list -/
def listItems : Option Json → List Json
  | some (.arr items) => items
  | _ => []

def fieldsOf (name : String) (doc : Fields) : Fields := objectFields (doc.lookup name)

def itemsOf (name : String) (doc : Fields) : List Json := listItems (doc.lookup name)

namespace Json

/-- a field of an object -/
def get? (name : String) : Json → Option Json
  | .obj fields => fields.lookup name
  | _ => none

def asText? : Json → Option String
  | .str text => some text
  | _ => none

/-- the text in a field -/
def text? (name : String) (v : Json) : Option String := (v.get? name).bind asText?

/-- the texts in a field, if it is a list of texts -/
def texts? (name : String) (v : Json) : Option (List String) :=
  match v.get? name with
  | some (.arr items) => items.mapM asText?
  | _ => none

end Json

/-- an entry of the list has this tag -/
def HasTag (entries : List Json) (tag : String) : Prop := ∃ v ∈ entries, v.text? "tag" = some tag

/-! ## fields in key order -/

section
variable {k name : String} {v : Json} {fields : Fields}

theorem lookup_cons_ne {l : String} (h : name ≠ l) (w : Json) (fields : Fields) :
    List.lookup name ((l, w) :: fields) = fields.lookup name := by
  rw [List.lookup_cons, beq_eq_false_iff_ne.2 h]

theorem lookup_place_self (k : String) (v : Json) (fields : Fields) :
    (place (k, v) fields).lookup k = some v := by
  induction fields with
  | nil => exact List.lookup_cons_self
  | cons field rest ih =>
    obtain ⟨l, w⟩ := field
    unfold place
    split
    · exact List.lookup_cons_self
    · split
      next hlt =>
        have hne : k ≠ l := (ne_of_before hlt).symm
        rw [lookup_cons_ne hne, ih]
      · exact List.lookup_cons_self

theorem lookup_place_ne (h : name ≠ k) (v : Json) (fields : Fields) :
    (place (k, v) fields).lookup name = fields.lookup name := by
  induction fields with
  | nil => exact lookup_cons_ne h v []
  | cons field rest ih =>
    obtain ⟨l, w⟩ := field
    unfold place
    split
    · exact lookup_cons_ne h v _
    next hkl =>
      split
      · rw [List.lookup_cons, List.lookup_cons, ih]
      next hlk =>
        -- neither key comes first, so the field takes the place of one with its own key
        obtain rfl : k = l := Key.connex k l (Bool.eq_false_iff.2 hkl) (Bool.eq_false_iff.2 hlk)
        rw [lookup_cons_ne h, lookup_cons_ne h]

theorem lookup_foldl_place_ne {more : Fields} (h : ∀ field ∈ more, field.1 ≠ name) :
    (more.foldl (fun sorted field => place field sorted) fields).lookup name = fields.lookup name := by
  induction more generalizing fields with
  | nil => rfl
  | cons field rest ih =>
    rw [List.foldl_cons, ih fun f hf => h f (List.mem_cons_of_mem _ hf)]
    exact lookup_place_ne (h field List.mem_cons_self).symm _ _

theorem lookup_foldl_place {more : Fields} (hnodup : (more.map (·.1)).Nodup)
    (h : (name, v) ∈ more) :
    (more.foldl (fun sorted field => place field sorted) fields).lookup name = some v := by
  induction more generalizing fields with
  | nil => cases h
  | cons field rest ih =>
    obtain ⟨hfresh, hrest⟩ := List.nodup_cons.1 hnodup
    rw [List.foldl_cons]
    rcases List.mem_cons.1 h with rfl | h
    · rw [lookup_foldl_place_ne fun f hf e => hfresh (List.mem_map.2 ⟨f, hf, e⟩)]
      exact lookup_place_self _ _ _
    · exact ih hrest h

theorem get?_ofFields {more : Fields} (hnodup : (more.map (·.1)).Nodup) (h : (name, v) ∈ more) :
    (Json.ofFields more).get? name = some v :=
  lookup_foldl_place hnodup h

theorem text?_ofFields {more : Fields} {text : String} (hnodup : (more.map (·.1)).Nodup)
    (h : (name, .str text) ∈ more) : (Json.ofFields more).text? name = some text := by
  unfold Json.text?
  rw [get?_ofFields hnodup h]
  rfl

theorem mapM_asText?_str (texts : List String) :
    (texts.map Json.str).mapM Json.asText? = some texts := by
  induction texts with
  | nil => rfl
  | cons t rest ih =>
    rw [List.map_cons, List.mapM_cons, ih]
    rfl

theorem texts?_ofFields {more : Fields} {texts : List String} (hnodup : (more.map (·.1)).Nodup)
    (h : (name, .ofTexts texts) ∈ more) : (Json.ofFields more).texts? name = some texts := by
  unfold Json.texts?
  rw [get?_ofFields hnodup h]
  exact mapM_asText?_str texts

/-! ## items appended -/

theorem itemsOf_place_self (items : List Json) (fields : Fields) :
    itemsOf name (place (name, .arr items) fields) = items := by
  unfold itemsOf
  rw [lookup_place_self]
  rfl

theorem itemsOf_appendItems_self (name : String) (items : List Json) (fields : Fields) :
    itemsOf name (appendItems name items fields) = itemsOf name fields ++ items := by
  unfold appendItems
  split
  next existing h =>
    rw [itemsOf_place_self]
    unfold itemsOf
    rw [h]
    rfl
  next h =>
    rw [itemsOf_place_self]
    unfold itemsOf listItems
    split
    next existing he => exact absurd he (h existing)
    · rfl

theorem lookup_appendItems_ne {other : String} (h : name ≠ other) (items : List Json)
    (fields : Fields) : (appendItems other items fields).lookup name = fields.lookup name := by
  unfold appendItems
  split <;> exact lookup_place_ne h _ _

theorem itemsOf_appendItems_ne {other : String} (h : name ≠ other) (items : List Json)
    (fields : Fields) : itemsOf name (appendItems other items fields) = itemsOf name fields := by
  unfold itemsOf
  rw [lookup_appendItems_ne h]

theorem itemsOf_place_ne {other : String} (h : name ≠ other) (v : Json) (fields : Fields) :
    itemsOf name (place (other, v) fields) = itemsOf name fields := by
  unfold itemsOf
  rw [lookup_place_ne h]

end

/-! ## the merged document -/

section
variable {base : Fields} {d : Draft} {balancers : List CompiledBalancer} {inbounds : List Json}

theorem mergeRouting_eq (rules : List Json) (balancers : List CompiledBalancer) (routing : Option Json) :
    mergeRouting rules balancers routing =
      .obj (appendItems "balancers" (balancers.map CompiledBalancer.toJson)
        (place ("rules", .arr (rules ++ itemsOf "rules" (objectFields routing)))
          (objectFields routing))) := by
  rcases routing with _ | v
  · rfl
  · cases v <;> rfl

theorem lookup_mergeDocument {name : String} (h : name ≠ "reverse") :
    (mergeDocument base d balancers inbounds).lookup name =
      (place ("routing", mergeRouting (routingRules d balancers) balancers (base.lookup "routing"))
        (appendItems "outbounds" d.outbounds (appendItems "inbounds" inbounds base))).lookup name := by
  have hrouting : (appendItems "outbounds" d.outbounds (appendItems "inbounds" inbounds base)).lookup
      "routing" = base.lookup "routing" := by
    rw [lookup_appendItems_ne (by decide), lookup_appendItems_ne (by decide)]
  unfold mergeDocument
  dsimp only
  rw [hrouting]
  split
  · rfl
  · exact lookup_place_ne h _ _

theorem itemsOf_outbounds : itemsOf "outbounds" (mergeDocument base d balancers inbounds) =
    itemsOf "outbounds" base ++ d.outbounds := by
  have houtbounds : (mergeDocument base d balancers inbounds).lookup "outbounds" =
      (appendItems "outbounds" d.outbounds (appendItems "inbounds" inbounds base)).lookup
        "outbounds" := by
    rw [lookup_mergeDocument (by decide), lookup_place_ne (by decide)]
  rw [itemsOf, houtbounds, ← itemsOf, itemsOf_appendItems_self, itemsOf_appendItems_ne (by decide)]

theorem itemsOf_inbounds : itemsOf "inbounds" (mergeDocument base d balancers inbounds) =
    itemsOf "inbounds" base ++ inbounds := by
  have hinbounds : (mergeDocument base d balancers inbounds).lookup "inbounds" =
      (appendItems "inbounds" inbounds base).lookup "inbounds" := by
    rw [lookup_mergeDocument (by decide), lookup_place_ne (by decide),
      lookup_appendItems_ne (by decide)]
  rw [itemsOf, hinbounds, ← itemsOf, itemsOf_appendItems_self]

theorem fieldsOf_routing : fieldsOf "routing" (mergeDocument base d balancers inbounds) =
    appendItems "balancers" (balancers.map CompiledBalancer.toJson)
      (place ("rules", .arr (routingRules d balancers ++ itemsOf "rules" (fieldsOf "routing" base)))
        (fieldsOf "routing" base)) := by
  unfold fieldsOf
  rw [lookup_mergeDocument (by decide), lookup_place_self, mergeRouting_eq]
  rfl

theorem itemsOf_rules : itemsOf "rules" (fieldsOf "routing" (mergeDocument base d balancers inbounds)) =
    routingRules d balancers ++ itemsOf "rules" (fieldsOf "routing" base) := by
  rw [fieldsOf_routing, itemsOf_appendItems_ne (by decide), itemsOf_place_self]

theorem itemsOf_balancers :
    itemsOf "balancers" (fieldsOf "routing" (mergeDocument base d balancers inbounds)) =
      itemsOf "balancers" (fieldsOf "routing" base) ++ balancers.map CompiledBalancer.toJson := by
  rw [fieldsOf_routing, itemsOf_appendItems_self, itemsOf_place_ne (by decide)]

/-- the base document has no reverse links, or it has them in an object -/
def HasMergeableReverse (base : Fields) : Prop :=
  base.lookup "reverse" = none ∨ ∃ fields, base.lookup "reverse" = some (.obj fields)

/-- what comes before the reverse links leaves those of the base document alone -/
theorem lookup_reverse (base : Fields) (d : Draft) (inbounds : List Json) (routing : Json) :
    (place ("routing", routing) (appendItems "outbounds" d.outbounds
      (appendItems "inbounds" inbounds base))).lookup "reverse" = base.lookup "reverse" := by
  rw [lookup_place_ne (by decide), lookup_appendItems_ne (by decide),
    lookup_appendItems_ne (by decide)]

/-- the reverse links of the base document are kept, and the compiled ones come after them -/
theorem fieldsOf_reverse (h : HasMergeableReverse base) (hd : d.bridges ≠ [] ∨ d.portals ≠ []) :
    fieldsOf "reverse" (mergeDocument base d balancers inbounds) =
      appendItems "portals" (d.portals.map fun p => reverseEntry p.tag p.domain)
        (appendItems "bridges" (d.bridges.map fun b => reverseEntry b.tag b.domain)
          (fieldsOf "reverse" base)) := by
  have hsome : (d.bridges.isEmpty && d.portals.isEmpty) = false := by
    rw [Bool.and_eq_false_iff, List.isEmpty_eq_false_iff, List.isEmpty_eq_false_iff]
    exact hd
  unfold fieldsOf mergeDocument
  dsimp only
  rw [hsome, lookup_reverse]
  show objectFields ((place ("reverse", mergeReverse d (base.lookup "reverse")) _).lookup
    "reverse") = _
  rw [lookup_place_self]
  rcases h with h | ⟨fields, h⟩
  · rw [h]
    rfl
  · rw [h]
    rfl

/-- without compiled links the reverse links of the base document are all there are -/
theorem fieldsOf_reverse_of_nil (hbridges : d.bridges = []) (hportals : d.portals = []) :
    fieldsOf "reverse" (mergeDocument base d balancers inbounds) = fieldsOf "reverse" base := by
  unfold fieldsOf mergeDocument
  dsimp only
  rw [hbridges, hportals]
  show objectFields ((place ("routing", _) _).lookup "reverse") = _
  rw [lookup_reverse]

/-- compiled entries come after those of the base document, also where there are none -/
theorem itemsOf_portals (h : HasMergeableReverse base) :
    itemsOf "portals" (fieldsOf "reverse" (mergeDocument base d balancers inbounds)) =
      itemsOf "portals" (fieldsOf "reverse" base) ++
        d.portals.map fun p => reverseEntry p.tag p.domain := by
  by_cases hd : d.bridges ≠ [] ∨ d.portals ≠ []
  · rw [fieldsOf_reverse h hd, itemsOf_appendItems_self, itemsOf_appendItems_ne (by decide)]
  · rw [not_or, Classical.not_not, Classical.not_not] at hd
    rw [fieldsOf_reverse_of_nil hd.1 hd.2, hd.2]
    exact (List.append_nil _).symm

theorem itemsOf_bridges (h : HasMergeableReverse base) :
    itemsOf "bridges" (fieldsOf "reverse" (mergeDocument base d balancers inbounds)) =
      itemsOf "bridges" (fieldsOf "reverse" base) ++
        d.bridges.map fun b => reverseEntry b.tag b.domain := by
  by_cases hd : d.bridges ≠ [] ∨ d.portals ≠ []
  · rw [fieldsOf_reverse h hd, itemsOf_appendItems_ne (by decide), itemsOf_appendItems_self]
  · rw [not_or, Classical.not_not, Classical.not_not] at hd
    rw [fieldsOf_reverse_of_nil hd.1 hd.2, hd.1]
    exact (List.append_nil _).symm

theorem fieldsOf_reverse_of_not (h : ¬ HasMergeableReverse base) :
    fieldsOf "reverse" (mergeDocument base d balancers inbounds) = [] := by
  obtain ⟨v, hv, hkeep⟩ : ∃ v, base.lookup "reverse" = some v ∧
      (mergeReverse d (some v) = v ∧ objectFields (some v) = []) := by
    unfold HasMergeableReverse at h
    rw [not_or] at h
    obtain ⟨v, hv⟩ := Option.ne_none_iff_exists'.1 h.1
    refine ⟨v, hv, ?_⟩
    cases v with
    | obj fields => exact absurd ⟨fields, hv⟩ h.2
    | _ => exact ⟨rfl, rfl⟩
  unfold fieldsOf mergeDocument
  dsimp only
  split
  · rw [lookup_reverse, hv]
    exact hkeep.2
  · rw [lookup_place_self, lookup_reverse, hv, hkeep.1]
    exact hkeep.2

theorem tag_reverseEntry (tag domain : String) : (reverseEntry tag domain).text? "tag" = some tag :=
  text?_ofFields (show ["tag", "domain"].Nodup by decide) List.mem_cons_self

theorem hasTag_portal (h : HasMergeableReverse base) {p : PortalLink} (hp : p ∈ d.portals) :
    HasTag (itemsOf "portals" (fieldsOf "reverse" (mergeDocument base d balancers inbounds)))
      p.tag := by
  rw [itemsOf_portals h]
  exact ⟨reverseEntry p.tag p.domain,
    List.mem_append_right _ (List.mem_map.2 ⟨p, hp, rfl⟩),
    tag_reverseEntry _ _⟩

theorem hasTag_bridge (h : HasMergeableReverse base) {b : BridgeLink} (hb : b ∈ d.bridges) :
    HasTag (itemsOf "bridges" (fieldsOf "reverse" (mergeDocument base d balancers inbounds)))
      b.tag := by
  rw [itemsOf_bridges h]
  exact ⟨reverseEntry b.tag b.domain,
    List.mem_append_right _ (List.mem_map.2 ⟨b, hb, rfl⟩),
    tag_reverseEntry _ _⟩

end
end ProxyMesh
