import ProxyMesh.Proofs.Json.Values

/-!
# Records read back

The printed document of a record is read back as the record, part by part.

* `Documented`           the value is printed as the document of a record: its decoder reads it back,
                         provided that containers may still nest so deep;
* `Documented.str`, `bool`, `nat`, `ofWord`, `value`        single values;
* `Documented.ofOption`, `ofList`, `ofTextMap`              values made of others;
* `record_obj`           a record sees exactly the fields that were written;
* `Documented.decode_pretty`, `decode_compact`   **the printed document of a record is read as the
                         record**.
-/

namespace ProxyMesh.Json

open Decoder (Found)

/-- the value, once printed, is read by `d` as `a` where containers may nest `need` deep -/
structure Documented {α : Type} (d : Decoder α) (need : Nat) (v : Json) (a : α) : Prop where
  inRange : v.InRange
  read : ∀ depth, need ≤ depth → d depth v.printedTree = some a

theorem printedTree_eq_null {v : Json} (h : v.printedTree = .null) : v = .null := by
  cases v <;> cases h
  rfl

section
variable {α : Type} {f : α → Json}

theorem inRangeItems_map {l : List α} (h : ∀ a ∈ l, (f a).InRange) : InRangeItems (l.map f) := by
  induction l with
  | nil => exact trivial
  | cons a rest ih => exact ⟨h a List.mem_cons_self, ih fun b hb => h b (List.mem_cons_of_mem _ hb)⟩

theorem inRangeFields_map {l : List (String × α)} (h : ∀ a ∈ l, (f a.2).InRange) :
    InRangeFields (l.map fun (k, v) => (k, f v)) := by
  induction l with
  | nil => exact trivial
  | cons a rest ih => exact ⟨h a List.mem_cons_self, ih fun b hb => h b (List.mem_cons_of_mem _ hb)⟩

theorem printedItems_map (l : List α) : printedItems (l.map f) = l.map fun a => (f a).printedTree := by
  induction l with
  | nil => rfl
  | cons a rest ih => exact congrArg _ ih

theorem printedFields_eq (fields : List (String × Json)) :
    printedFields fields = fields.map fun (name, v) => (some name, v.printedTree) := by
  induction fields with
  | nil => rfl
  | cons field rest ih => exact congrArg _ ih

theorem mapM_map_eq {β γ δ : Type} {f : β → γ} {r : γ → Option δ} {g : β → δ} {l : List β}
    (h : ∀ b ∈ l, r (f b) = some (g b)) : (l.map f).mapM r = some (l.map g) := by
  induction l with
  | nil => rfl
  | cons b rest ih =>
    simp [h b List.mem_cons_self, ih fun c hc => h c (List.mem_cons_of_mem _ hc)]

end

section
variable {α : Type} {d : Decoder α} {need : Nat} {v : Json} {a : α}

namespace Documented

theorem mono {more : Nat} (h : Documented d need v a) (hneed : need ≤ more) : Documented d more v a :=
  ⟨h.inRange, fun depth hdepth => h.read depth (Nat.le_trans hneed hdepth)⟩

theorem str (s : String) : Documented Decoder.text 0 (.str s) s := ⟨trivial, fun _ _ => rfl⟩

theorem bool (b : Bool) : Documented Decoder.flag 0 (.bool b) b := ⟨trivial, fun _ _ => rfl⟩

theorem ofNat {bound n : Nat} (hbound : bound ≤ wordBound) (h : n < bound) :
    Documented (Decoder.natBelow bound) 0 (ofNat n) n where
  inRange := by
    have hlow : (0 : Int) ≤ signedBound := by decide
    show -(signedBound : Int) ≤ (n : Int) ∧ (n : Int) < wordBound
    omega
  read depth _ := by
    show (if 0 ≤ (n : Int) && decide ((n : Int) < bound) then some (n : Int).toNat else none) = some n
    have hin : (0 : Int) ≤ n ∧ (n : Int) < bound := by omega
    simp [hin]

theorem nat {n : Nat} (h : n < wordBound) : Documented Decoder.nat 0 (Json.ofNat n) n :=
  ofNat (Nat.le_refl _) h

theorem ofWord (n : UInt64) : Documented Decoder.word 0 (ofWord n) n := by
  have hnat := nat n.toNat_lt
  refine ⟨hnat.inRange, fun depth hdepth => ?_⟩
  show (Decoder.nat depth (Json.ofNat n.toNat).printedTree).map UInt64.ofNat = some n
  rw [hnat.read depth hdepth, Option.map_some, UInt64.ofNat_toNat]

theorem value {w : Json} (hrange : v.InRange) (hordered : v.Ordered) (hread : v.reprinted? = some w) :
    Documented Decoder.value v.nesting v w :=
  ⟨hrange, fun _ hdepth => (value?_printedTree hordered hdepth).trans hread⟩

theorem ofOption {f : α → Json} {o : Option α} (hnull : ∀ a, f a ≠ .null)
    (h : ∀ a ∈ o, Documented d need (f a) a) :
    Documented (Decoder.optional d) need (ofOption f o) o := by
  cases o with
  | none => exact ⟨trivial, fun _ _ => rfl⟩
  | some a =>
    have ha := h a rfl
    refine ⟨ha.inRange, fun depth hdepth => ?_⟩
    have hread := ha.read depth hdepth
    have hsome : ∀ t, t ≠ Tree.null → Decoder.optional d depth t = (d depth t).map some := by
      intro t ht
      unfold Decoder.optional
      split
      · exact absurd rfl ht
      · rfl
    show Decoder.optional d depth (f a).printedTree = _
    rw [hsome _ fun hnone => hnull a (printedTree_eq_null hnone), hread]
    rfl

theorem ofList {f : α → Json} {l : List α} (h : ∀ a ∈ l, Documented d need (f a) a) :
    Documented (Decoder.list d) (need + 1) (ofList f l) l where
  inRange := inRangeItems_map fun a ha => (h a ha).inRange
  read depth hdepth := by
    obtain ⟨depth, rfl⟩ : ∃ m, depth = m + 1 := ⟨depth - 1, by omega⟩
    have hitems := mapM_map_eq (g := id) fun a ha => (h a ha).read depth (by omega)
    rw [List.map_id, ← printedItems_map] at hitems
    exact hitems

theorem ofTextMap {f : α → Json} {m : TextMap α} (h : ∀ a ∈ m.records, Documented d need (f a.2) a.2) :
    Documented (Decoder.textMap d) (need + 1) (ofTextMap f m) m where
  inRange := inRangeFields_map fun a ha => (h a ha).inRange
  read depth hdepth := by
    obtain ⟨depth, rfl⟩ : ∃ m, depth = m + 1 := ⟨depth - 1, by omega⟩
    have hrecords : (printedFields (m.records.map fun (k, v) => (k, f v))).mapM
        (fun field => do pure (← field.1, ← d depth field.2)) = some m.records := by
      have hmap := mapM_map_eq (l := m.records) (g := id)
        (f := fun (a : String × α) => (some a.1, (f a.2).printedTree))
        (r := fun field => do pure (← field.1, ← d depth field.2)) fun a ha => by
          simp [(h a ha).read depth (by omega)]
      rw [List.map_id] at hmap
      rw [printedFields_eq, List.map_map]
      exact hmap
    exact (congrArg (Option.map Table.ofList) hrecords).trans
      (congrArg some (Table.ofList_records m))

theorem ofText (o : Option String) : Documented (Decoder.optional Decoder.text) 0 (ofText o) o :=
  ofOption (f := .str) (fun _ => nofun) fun s _ => str s

theorem ofTime {o : Option Nat} (h : ∀ n ∈ o, n < wordBound) :
    Documented (Decoder.optional Decoder.nat) 0 (ofTime o) o :=
  ofOption (f := Json.ofNat) (fun _ => nofun) fun n hn => nat (h n hn)

theorem ofWords (o : Option UInt64) :
    Documented (Decoder.optional Decoder.word) 0 (Json.ofOption Json.ofWord o) o :=
  ofOption (fun _ => nofun) fun n _ => ofWord n

theorem ofTexts (m : TextMap String) :
    Documented (Decoder.textMap Decoder.text) 1 (Json.ofTextMap .str m) m :=
  ofTextMap fun a _ => str a.2

end Documented

/-! ## records -/

/-- the fields of the record are those that were written, in their order -/
def Sees (r : Found) (fields : List (String × Json)) : Prop :=
  ∀ (i : Nat) (name : String) (v : Json), fields[i]? = some (name, v) →
    r.field? name = some v.printedTree

theorem lookup_of_mem {β : Type} {fields : List (String × β)} (hnodup : (fields.map (·.1)).Nodup)
    {name : String} {b : β} (h : (name, b) ∈ fields) : fields.lookup name = some b := by
  induction fields with
  | nil => cases h
  | cons field rest ih =>
    rw [List.map_cons, List.nodup_cons] at hnodup
    rw [List.lookup_cons]
    rcases List.mem_cons.1 h with rfl | h
    · simp
    · have hne : name ≠ field.1 := by
        rintro rfl
        exact hnodup.1 (List.mem_map_of_mem (f := (·.1)) h)
      rw [beq_false_of_ne hne]
      exact ih hnodup.2 h

/-- **a record sees exactly the fields that were written** -/
theorem record_obj {names : List String} {fields : List (String × Json)} (read : Found → Option α)
    (depth : Nat) (hnames : fields.map (·.1) = names) (hnodup : names.Nodup) :
    ∃ r, r.depth = depth ∧ Sees r fields ∧
      Decoder.record names read (depth + 1) (Json.obj fields).printedTree = read r := by
  have hkeys : (fields.map fun (name, v) => (name, v.printedTree)).map (·.1) = names := by
    rw [List.map_map]
    exact hnames
  refine ⟨⟨depth, false, fields.map fun (name, v) => (name, v.printedTree)⟩, rfl, ?_, ?_⟩
  · intro i name v hfield
    exact lookup_of_mem (hkeys ▸ hnodup) (List.mem_map_of_mem (List.mem_of_getElem? hfield))
  · have hnamed : (printedFields fields).mapM (fun (field : Option String × Tree) =>
        field.1.map (·, field.2)) = some (fields.map fun (name, v) => (name, v.printedTree)) := by
      rw [printedFields_eq]
      exact mapM_map_eq fun field _ => rfl
    have hknown : (fields.map fun (name, v) => (name, v.printedTree)).filter
        (fun (field : String × Tree) => names.contains field.1) =
          fields.map fun (name, v) => (name, v.printedTree) := by
      refine List.filter_eq_self.2 fun field hfield => ?_
      rw [List.contains_iff_mem, ← hkeys]
      exact List.mem_map_of_mem hfield
    have hstep : Decoder.record names read (depth + 1) (Json.obj fields).printedTree =
        ((printedFields fields).mapM fun (field : Option String × Tree) =>
          field.1.map (·, field.2)).bind fun named =>
            if ((named.filter fun (field : String × Tree) => names.contains field.1).map (·.1)).Nodup
            then read ⟨depth, false, named.filter fun field => names.contains field.1⟩ else none := rfl
    rw [hstep, hnamed, Option.bind_some, hknown, hkeys, if_pos hnodup]

namespace Documented

theorem record {names : List String} {fields : List (String × Json)} {read : Found → Option α}
    (hnames : fields.map (·.1) = names) (hnodup : names.Nodup) (hrange : InRangeFields fields)
    (hread : ∀ r : Found, need ≤ r.depth → Sees r fields → read r = some a) :
    Documented (Decoder.record names read) (need + 1) (.obj fields) a where
  inRange := hrange
  read depth hdepth := by
    obtain ⟨depth, rfl⟩ : ∃ m, depth = m + 1 := ⟨depth - 1, by omega⟩
    obtain ⟨r, rfl, hsees, hrecord⟩ := record_obj read depth hnames hnodup
    rw [hrecord]
    exact hread r (by omega) hsees

section
variable {r : Found} {name : String} (h : Documented d need v a) (hneed : need ≤ r.depth)
  (hfield : r.field? name = some v.printedTree)
include h hneed hfield

theorem required : r.required name d = some a := by
  unfold Found.required
  rw [hfield, Option.bind_some, h.read _ hneed]

theorem withDefault (initial : α) : r.withDefault name initial d = some a := by
  unfold Found.withDefault
  rw [hfield]
  exact h.read _ hneed

end

theorem optional {r : Found} {name : String} {o : Option α} (h : Documented (Decoder.optional d) need v o)
    (hneed : need ≤ r.depth) (hfield : r.field? name = some v.printedTree) :
    r.optional name d = some o := by
  unfold Found.optional
  rw [hfield]
  exact h.read _ hneed

/-! ## whole texts -/

section
variable (h : Documented d need v a) (hneed : need ≤ Tree.depthMax)
include h hneed

/-- **the printed document of a record is read as the record** -/
theorem decode_pretty : decode d v.pretty = some a := by
  unfold decode
  rw [read_pretty h.inRange]
  exact h.read _ hneed

theorem decode_compact : decode d v.compact = some a := by
  unfold decode
  rw [read_compact h.inRange]
  exact h.read _ hneed

end
end Documented

/-- a record that none can be read of at the depth that its fields are at -/
theorem decode_record_eq_none {names : List String} {fields : List (String × Json)}
    {read : Found → Option α} (hnames : fields.map (·.1) = names) (hnodup : names.Nodup)
    (hrange : (obj fields).InRange)
    (hread : ∀ r : Found, r.depth = 126 → Sees r fields → read r = none) :
    decode (Decoder.record names read) (Json.obj fields).compact = none := by
  obtain ⟨r, hdepth, hsees, hrecord⟩ := record_obj read 126 hnames hnodup
  unfold decode
  rw [read_compact hrange]
  exact hrecord.trans (hread r hdepth hsees)

end
end ProxyMesh.Json
