import ProxyMesh.Proofs.Json.Spelling
import ProxyMesh.Proofs.Tables

/-!
# Values parsed back

The tree of a printed value says the value again, if its fields are in order and its containers are not
nested too deep; only binary64 numbers may be other ones.

* `Json.nesting`        how deep the containers of a value are nested;
* `Json.Ordered`        every object has its fields in key order, each name once;
* `ofFields_ascending`  fields that are in order stay as they are;
* `Json.reprinted?`     the value, its binary64 numbers read of their texts;
* `value?_printedTree`, `value?_of_lt`   **the tree of a printed value says it**, unless it is nested too
                        deep;
* `parse_compact`       a printed value is parsed back.
-/

namespace ProxyMesh

namespace Json

theorem ofFields_ascending {fields : List (String × Json)} (h : Ascending fields) :
    ofFields fields = .obj fields := by
  have hrecords : (Table.ofList fields).records = fields :=
    congrArg Table.records (Table.ofList_records ⟨fields, h⟩)
  exact congrArg Json.obj ((Table.records_putAll Table.empty fields).symm.trans hrecords)

mutual
/-- how deep containers are nested -/
def nesting : Json → Nat
  | .arr items => nestingItems items + 1
  | .obj fields => nestingFields fields + 1
  | _ => 0
def nestingItems : List Json → Nat
  | [] => 0
  | item :: rest => max (nesting item) (nestingItems rest)
def nestingFields : List (String × Json) → Nat
  | [] => 0
  | (_, item) :: rest => max (nesting item) (nestingFields rest)
end

mutual
/-- the fields of every object are in key order, each name once -/
def Ordered : Json → Prop
  | .arr items => OrderedItems items
  | .obj fields => Ascending fields ∧ OrderedFields fields
  | _ => True
def OrderedItems : List Json → Prop
  | [] => True
  | item :: rest => Ordered item ∧ OrderedItems rest
def OrderedFields : List (String × Json) → Prop
  | [] => True
  | (_, item) :: rest => Ordered item ∧ OrderedFields rest
end

mutual
/-- the value with its binary64 numbers read of their texts, if they all are in the range -/
def reprinted? : Json → Option Json
  | .null => some .null
  | .bool b => some (.bool b)
  | .int n => some (.int n)
  | .real x => readBack? x
  | .str s => some (.str s)
  | .arr items => (reprintedItems? items).map .arr
  | .obj fields => (reprintedFields? fields).map .obj
def reprintedItems? : List Json → Option (List Json)
  | [] => some []
  | item :: rest =>
    match reprinted? item, reprintedItems? rest with
    | some v, some vs => some (v :: vs)
    | _, _ => none
def reprintedFields? : List (String × Json) → Option (List (String × Json))
  | [] => some []
  | (name, item) :: rest =>
    match reprinted? item, reprintedFields? rest with
    | some v, some vs => some ((name, v) :: vs)
    | _, _ => none
end

mutual
theorem Whole.reprinted? : ∀ {v : Json}, v.Whole → v.reprinted? = some v
  | .null, _ => rfl
  | .bool _, _ => rfl
  | .int _, _ => rfl
  | .str _, _ => rfl
  | .arr items, h => by rw [Json.reprinted?, reprintedItems?_of_whole h, Option.map_some]
  | .obj fields, h => by rw [Json.reprinted?, reprintedFields?_of_whole h, Option.map_some]
theorem reprintedItems?_of_whole : ∀ {items : List Json}, WholeItems items →
    reprintedItems? items = some items
  | [], _ => rfl
  | _ :: _, h => by rw [reprintedItems?, h.1.reprinted?, reprintedItems?_of_whole h.2]
theorem reprintedFields?_of_whole : ∀ {fields : List (String × Json)}, WholeFields fields →
    reprintedFields? fields = some fields
  | [], _ => rfl
  | (_, _) :: _, h => by rw [reprintedFields?, h.1.reprinted?, reprintedFields?_of_whole h.2]
end

theorem reprintedFields?_names {fields l : List (String × Json)} (h : reprintedFields? fields = some l) :
    l.map (·.1) = fields.map (·.1) := by
  induction fields generalizing l with
  | nil =>
    obtain rfl := Option.some.inj h
    rfl
  | cons field rest ih =>
    obtain ⟨name, item⟩ := field
    unfold reprintedFields? at h
    split at h
    next hrest =>
      obtain rfl := Option.some.inj h
      exact congrArg (name :: ·) (ih hrest)
    · cases h

theorem ofFields_reprinted {fields : List (String × Json)} (h : Ascending fields) :
    (reprintedFields? fields).map ofFields = (reprintedFields? fields).map .obj := by
  cases hfields : reprintedFields? fields with
  | none => rfl
  | some l =>
    have hl : Ascending l := by
      refine List.pairwise_map.1 (?_ : (l.map (·.1)).Pairwise fun a b => before a b = true)
      rw [reprintedFields?_names hfields]
      exact List.pairwise_map.2 h
    exact congrArg some (ofFields_ascending hl)

mutual
/-- **the tree of a printed value says it** -/
theorem value?_printedTree : ∀ {v : Json} {depth : Nat}, v.Ordered → v.nesting ≤ depth →
    Tree.value? depth v.printedTree = v.reprinted?
  | .null, _, _, _ => rfl
  | .bool _, _, _, _ => rfl
  | .int _, _, _, _ => rfl
  | .real _, _, _, _ => rfl
  | .str _, _, _, _ => rfl
  | .arr _, 0, _, hdepth => absurd hdepth (Nat.not_succ_le_zero _)
  | .arr items, depth + 1, hordered, hdepth => by
    show (Tree.values? depth (printedItems items)).map Json.arr = _
    rw [values?_printedItems hordered (Nat.le_of_succ_le_succ hdepth), reprinted?]
  | .obj _, 0, _, hdepth => absurd hdepth (Nat.not_succ_le_zero _)
  | .obj fields, depth + 1, hordered, hdepth => by
    show (Tree.fieldValues? depth (printedFields fields)).map ofFields = _
    rw [fieldValues?_printedFields hordered.2 (Nat.le_of_succ_le_succ hdepth),
      ofFields_reprinted hordered.1, reprinted?]
theorem values?_printedItems : ∀ {items : List Json} {depth : Nat}, OrderedItems items →
    nestingItems items ≤ depth → Tree.values? depth (printedItems items) = reprintedItems? items
  | [], _, _, _ => rfl
  | item :: rest, depth, hordered, hdepth => by
    obtain ⟨hitem, hrest⟩ := Nat.max_le.1 hdepth
    rw [printedItems, Tree.values?, value?_printedTree hordered.1 hitem,
      values?_printedItems hordered.2 hrest]
    rfl
theorem fieldValues?_printedFields : ∀ {fields : List (String × Json)} {depth : Nat},
    OrderedFields fields → nestingFields fields ≤ depth →
      Tree.fieldValues? depth (printedFields fields) = reprintedFields? fields
  | [], _, _, _ => rfl
  | (name, item) :: rest, depth, hordered, hdepth => by
    obtain ⟨hitem, hrest⟩ := Nat.max_le.1 hdepth
    have hvalue := value?_printedTree hordered.1 hitem
    have hvalues := fieldValues?_printedFields hordered.2 hrest
    simp only [printedFields, Tree.fieldValues?, reprintedFields?, hvalue, hvalues]
    cases reprinted? item <;> cases reprintedFields? rest <;> rfl
end

mutual
theorem value?_of_lt : ∀ {v : Json} {depth : Nat}, depth < v.nesting →
    Tree.value? depth v.printedTree = none
  | .arr _, 0, _ => rfl
  | .arr items, depth + 1, h => by
    show (Tree.values? depth (printedItems items)).map Json.arr = _
    rw [values?_of_lt (Nat.lt_of_succ_lt_succ h)]
    rfl
  | .obj _, 0, _ => rfl
  | .obj fields, depth + 1, h => by
    show (Tree.fieldValues? depth (printedFields fields)).map ofFields = _
    rw [fieldValues?_of_lt (Nat.lt_of_succ_lt_succ h)]
    rfl
theorem values?_of_lt : ∀ {items : List Json} {depth : Nat}, depth < nestingItems items →
    Tree.values? depth (printedItems items) = none
  | item :: rest, depth, h => by
    have hmax : depth < max (nesting item) (nestingItems rest) := h
    unfold printedItems Tree.values?
    rcases Nat.lt_or_ge depth (nesting item) with hitem | hlow
    · rw [value?_of_lt hitem]
    · have hrest : depth < nestingItems rest := by omega
      rw [values?_of_lt hrest]
      cases Tree.value? depth item.printedTree <;> rfl
theorem fieldValues?_of_lt : ∀ {fields : List (String × Json)} {depth : Nat},
    depth < nestingFields fields → Tree.fieldValues? depth (printedFields fields) = none
  | (name, item) :: rest, depth, h => by
    have hmax : depth < max (nesting item) (nestingFields rest) := h
    unfold printedFields Tree.fieldValues?
    rcases Nat.lt_or_ge depth (nesting item) with hitem | hlow
    · simp [value?_of_lt hitem]
    · have hrest : depth < nestingFields rest := by omega
      simp [fieldValues?_of_lt hrest]
end

theorem value?_printed {v : Json} (hordered : v.Ordered) (depth : Nat) :
    Tree.value? depth v.printedTree = if v.nesting ≤ depth then v.reprinted? else none := by
  split
  next h => exact value?_printedTree hordered h
  next h => exact value?_of_lt (Nat.lt_of_not_le h)

theorem parse_compact {v : Json} (hwhole : v.Whole) (hordered : v.Ordered)
    (hdepth : v.nesting ≤ Tree.depthMax) : parse v.compact = some v := by
  unfold parse
  rw [read_compact hwhole.inRange, Option.bind_some, value?_printedTree hordered hdepth,
    hwhole.reprinted?]

end Json
end ProxyMesh
