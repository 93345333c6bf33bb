import ProxyMesh.Proofs.Json.Records
import ProxyMesh.Proofs.Subscription.Lapses

/-!
# A period may be used while bytes are left

The limits of a period are read from the arguments of its plan, or from its own.  What is left of them
is a number of 64 bits with a sign, so it is known only up to 63 bits: a limit that lies further above
the bytes used counts as used up.

* `valuesOf`                    the values of all fields with a name;
* `nat_toTree`, `required_nat`  numbers and fields as a record finds them;
* `Limits.SaidBy`               the arguments say these limits;
* `decodeValue_limits`          **arguments are well formed exactly if they say limits**;
* `Entitled`                    the period is in use, and within limits that it was granted;
* `remaining_pos_iff`           when bytes are known to be left;
* `isConnectable_iff_entitled`  **a period is connectable exactly if it is entitled and what is left
                                fits 63 bits**.
-/

namespace ProxyMesh

/-! ## fields and numbers -/

namespace Json

open Decoder (Found)

/-- the values of all fields with this name, in order -/
def valuesOf {β : Type} (name : String) (fields : List (String × β)) : List β :=
  (fields.filter (·.1 == name)).map (·.2)

section
variable {β γ : Type} {fields : List (String × β)} {name : String} {b : β} {names : List String}

theorem lookup_eq_head? : fields.lookup name = (valuesOf name fields).head? := by
  induction fields with
  | nil => rfl
  | cons field rest ih =>
    unfold valuesOf at *
    rw [List.lookup_cons, List.filter_cons]
    by_cases h : field.1 = name
    · simp [h]
    · rw [beq_false_of_ne h, beq_false_of_ne (Ne.symm h)]
      exact ih

/-- the fields of a record are told apart if each of its names is there no more than once -/
theorem nodup_known_iff : ((fields.filter (names.contains ·.1)).map (·.1)).Nodup ↔
    ∀ name ∈ names, (valuesOf name fields).length ≤ 1 := by
  have hcount : ∀ name, ((fields.filter (names.contains ·.1)).map (·.1)).count name =
      if name ∈ names then (valuesOf name fields).length else 0 := by
    intro name
    unfold valuesOf
    rw [List.count, List.countP_map, List.countP_filter, List.countP_eq_length_filter, List.length_map]
    split
    next hname =>
      congr 2
      funext field
      by_cases h : field.1 = name <;> simp [h, hname]
    next hname =>
      rw [List.length_eq_zero_iff, List.filter_eq_nil_iff]
      rintro field - h
      simp only [Function.comp_apply, Bool.and_eq_true, List.contains_iff_mem] at h
      exact hname (eq_of_beq h.1 ▸ h.2)
  rw [List.nodup_iff_count_le_one]
  simp only [hcount]
  refine forall_congr' fun name => ?_
  split <;> simp_all

theorem lookup_known (h : name ∈ names) :
    (fields.filter (names.contains ·.1)).lookup name = fields.lookup name := by
  rw [lookup_eq_head?, lookup_eq_head?]
  unfold valuesOf
  rw [List.filter_filter]
  congr 3
  funext field
  by_cases hname : field.1 = name <;> simp [hname, h]

theorem valuesOf_map (f : β → γ) :
    valuesOf name (fields.map fun field => (field.1, f field.2)) = (valuesOf name fields).map f := by
  unfold valuesOf
  rw [List.filter_map, List.map_map, List.map_map]
  rfl

end

theorem nat_toTree {depth n : Nat} {v : Json} :
    Decoder.nat depth v.toTree = some n ↔ v = .ofNat n ∧ n < wordBound := by
  constructor
  · intro h
    cases v with
    | int i =>
      have hread : (if 0 ≤ i && decide (i < (wordBound : Int)) then some i.toNat else none) = some n := h
      split at hread
      next hin =>
        rw [Bool.and_eq_true, decide_eq_true_eq, decide_eq_true_eq] at hin
        obtain rfl := Option.some.inj hread
        refine ⟨congrArg Json.int (Int.toNat_of_nonneg hin.1).symm, ?_⟩
        omega
      next => cases hread
    | _ => cases h
  · rintro ⟨rfl, hfits⟩
    exact (Documented.nat hfits).read depth (Nat.zero_le _)

theorem fieldTrees_eq (fields : List (String × Json)) :
    fieldTrees fields = fields.map fun (name, v) => (some name, v.toTree) := by
  induction fields with
  | nil => rfl
  | cons field rest ih => exact congrArg _ ih

/-- the record of an object: its declared fields, none of them there twice -/
theorem record_toTree_obj {α : Type} (names : List String) (read : Found → Option α) (depth : Nat)
    (fields : List (String × Json)) :
    Decoder.record names read (depth + 1) (Json.obj fields).toTree =
      if ∀ name ∈ names, (valuesOf name fields).length ≤ 1 then
        read ⟨depth, false, (fields.map fun field => (field.1, field.2.toTree)).filter
          fun field => names.contains field.1⟩
      else none := by
  have hnamed : (fieldTrees fields).mapM (fun (field : Option String × Tree) =>
      field.1.map (·, field.2)) = some (fields.map fun field => (field.1, field.2.toTree)) := by
    rw [fieldTrees_eq]
    exact mapM_map_eq fun field _ => rfl
  have hstep : Decoder.record names read (depth + 1) (Json.obj fields).toTree =
      ((fieldTrees fields).mapM fun (field : Option String × Tree) =>
        field.1.map (·, field.2)).bind fun named =>
          if ((named.filter fun (field : String × Tree) => names.contains field.1).map (·.1)).Nodup
          then read ⟨depth, false, named.filter fun field => names.contains field.1⟩ else none := rfl
  rw [hstep, hnamed, Option.bind_some]
  simp only [nodup_known_iff, valuesOf_map, List.length_map]

theorem required_nat {names : List String} {name : String} (hname : name ∈ names) {depth n : Nat}
    {fields : List (String × Json)} :
    Found.required ⟨depth, false, (fields.map fun field => (field.1, field.2.toTree)).filter
        fun field => names.contains field.1⟩ name Decoder.nat = some n ↔
      (valuesOf name fields).head? = some (.ofNat n) ∧ n < wordBound := by
  unfold Found.required Found.field?
  rw [lookup_known hname, lookup_eq_head?, valuesOf_map, List.head?_map]
  cases (valuesOf name fields).head? with
  | none => simp
  | some v => exact nat_toTree.trans (by rw [Option.some.injEq])

theorem eq_singleton_iff {β : Type} {l : List β} {b : β} : l = [b] ↔ l.length ≤ 1 ∧ l.head? = some b := by
  match l with
  | [] => simp
  | [v] => simp
  | _ :: _ :: _ => simp

end Json

/-! ## limits -/

/-- the limits are numbers of 64 bits -/
def Limits.Fits (l : Limits) : Prop := l.totalBytes < wordBound ∧ l.expirySeconds < wordBound

/-- the arguments say these limits: in an object with one field for each, or in a list of the two -/
inductive Limits.SaidBy (l : Limits) : Json → Prop where
  | fields {fields : List (String × Json)}
      (total : Json.valuesOf "total_usage_limit_bytes" fields = [.ofNat l.totalBytes])
      (expiry : Json.valuesOf "expiry_seconds" fields = [.ofNat l.expirySeconds]) : SaidBy l (.obj fields)
  | list : SaidBy l (.arr [.ofNat l.totalBytes, .ofNat l.expirySeconds])

theorem limits_read {r : Json.Decoder.Found} {l : Limits} :
    (do pure { totalBytes := ← r.required "total_usage_limit_bytes" Json.Decoder.nat
               expirySeconds := ← r.required "expiry_seconds" Json.Decoder.nat } : Option Limits) =
        some l ↔
      r.required "total_usage_limit_bytes" Json.Decoder.nat = some l.totalBytes ∧
        r.required "expiry_seconds" Json.Decoder.nat = some l.expirySeconds := by
  obtain ⟨total, expiry⟩ := l
  cases r.required "total_usage_limit_bytes" Json.Decoder.nat with
  | none => simp
  | some total' =>
    cases r.required "expiry_seconds" Json.Decoder.nat <;> simp

theorem limits_of_obj {l : Limits} {depth : Nat} {fields : List (String × Json)} :
    Limits.decoder (depth + 1) (Json.obj fields).toTree = some l ↔ l.Fits ∧ l.SaidBy (.obj fields) := by
  have hsaid : l.SaidBy (.obj fields) ↔
      Json.valuesOf "total_usage_limit_bytes" fields = [.ofNat l.totalBytes] ∧
        Json.valuesOf "expiry_seconds" fields = [.ofNat l.expirySeconds] :=
    ⟨fun h => by cases h with | fields total expiry => exact ⟨total, expiry⟩, fun h => .fields h.1 h.2⟩
  unfold Limits.decoder
  rw [Json.record_toTree_obj, hsaid, Json.eq_singleton_iff, Json.eq_singleton_iff]
  split
  next hone =>
    rw [limits_read, Json.required_nat (by simp), Json.required_nat (by simp)]
    have htotal := hone "total_usage_limit_bytes" (by simp)
    have hexpiry := hone "expiry_seconds" (by simp)
    unfold Limits.Fits
    tauto
  next hmany =>
    refine ⟨nofun, fun h => absurd (fun name hname => ?_) hmany⟩
    rcases List.mem_pair.1 hname with rfl | rfl
    · exact h.2.1.1
    · exact h.2.2.1

theorem limits_of_arr {l : Limits} {depth : Nat} {items : List Json} :
    Limits.decoder (depth + 1) (Json.arr items).toTree = some l ↔ l.Fits ∧ l.SaidBy (.arr items) := by
  have hsaid : l.SaidBy (.arr items) ↔ items = [.ofNat l.totalBytes, .ofNat l.expirySeconds] :=
    ⟨fun h => by cases h; rfl, fun h => h ▸ .list⟩
  rw [hsaid]
  show Limits.decoder (depth + 1) (.list (Json.itemTrees items)) = some l ↔ _
  unfold Limits.decoder Json.Decoder.record Limits.Fits
  dsimp only
  match items with
  | [] => simp [Json.itemTrees, Json.Decoder.Found.required, Json.Decoder.Found.field?]
  | [total] => simp [Json.itemTrees, Json.Decoder.Found.required, Json.Decoder.Found.field?, List.lookup_cons]
  | [total, expiry] =>
    refine limits_read.trans ?_
    show Json.Decoder.nat depth total.toTree = _ ∧ Json.Decoder.nat depth expiry.toTree = _ ↔ _
    rw [Json.nat_toTree, Json.nat_toTree, List.cons.injEq, List.cons.injEq]
    tauto
  | _ :: _ :: _ :: _ => simp [Json.itemTrees]

/-- **arguments are well formed exactly if they say limits** -/
theorem decodeValue_limits {l : Limits} {v : Json} :
    Json.decodeValue Limits.decoder v = some l ↔ l.Fits ∧ l.SaidBy v := by
  cases v with
  | obj fields => exact limits_of_obj
  | arr items => exact limits_of_arr
  | _ => exact ⟨nofun, fun h => nomatch h.2⟩

theorem Provider.ofKey?_eq_some_iff {k : String} {provider : Provider} :
    Provider.ofKey? k = some provider ↔ k = provider.key := by
  constructor
  · intro h
    unfold Provider.ofKey? at h
    have hkey := List.find?_some h
    exact (eq_of_beq hkey).symm
  · rintro rfl
    cases provider <;> decide

/-! ## what is left -/

/-- the bytes used in both directions -/
def Period.used (p : Period) : Nat := p.counter.current.download + p.counter.current.upload

/-- the limits that a period was granted: by its plan if the plan is strict, by its own arguments if it is
dynamic -/
def Granted (p : Period) (plan : Plan) (l : Limits) : Prop :=
  ∃ provider : Provider, plan.providerKey = provider.key ∧ l.SaidBy (provider.arguments plan p)

/-- a period within limits that it was granted -/
structure Entitled (p : Period) (profile : Profile) (plan : Plan) (now : Nat) (l : Limits) : Prop where
  current : p.isCurrent = true
  active : profile.isActive = true
  granted : Granted p plan l
  fits : l.Fits
  unexpired : now < p.usage.first.getD now + l.expirySeconds
  left : p.used < l.totalBytes

section
variable {p : Period} {profile : Profile} {plan : Plan} {now : Nat} {l : Limits}

theorem remaining_pos_iff :
    0 < (remaining? l p).getD 0 ↔ p.used < l.totalBytes ∧ l.totalBytes < p.used + signedBound := by
  unfold remaining? isSigned Period.used
  dsimp only
  split
  next hin =>
    rw [Bool.and_eq_true, decide_eq_true_eq, decide_eq_true_eq] at hin
    rw [Option.getD_some]
    omega
  next hout =>
    rw [Bool.and_eq_true, decide_eq_true_eq, decide_eq_true_eq] at hout
    rw [Option.getD_none]
    omega

/-- **A period is connectable exactly if it is entitled and what is left fits 63 bits**, provided that it is
over at a time of 64 bits.  A limit so far above what was used that it does not is taken for one that is
used up. -/
theorem isConnectable_iff_entitled
    (hsum : ∀ l, Granted p plan l → p.usage.first.getD now + l.expirySeconds < wordBound) :
    isConnectable p profile plan now = true ↔
      ∃ l, Entitled p profile plan now l ∧ l.totalBytes < p.used + signedBound := by
  simp only [isConnectable_iff, Provider.ofKey?_eq_some_iff, Provider.limits?, decodeValue_limits,
    remaining_pos_iff]
  constructor
  · rintro ⟨⟨hcurrent, hactive⟩, provider, l, hkey, ⟨hfits, hsaid⟩, hexpiry, hleft, hbound⟩
    have hgranted : Granted p plan l := ⟨provider, hkey, hsaid⟩
    have hexact : expiresAt l p now = _ := wrapWord_of_lt (hsum l hgranted)
    exact ⟨l, ⟨hcurrent, hactive, hgranted, hfits, hexact ▸ hexpiry, hleft⟩, hbound⟩
  · rintro ⟨l, ⟨hcurrent, hactive, hgranted, hfits, hexpiry, hleft⟩, hbound⟩
    have hexact : expiresAt l p now = _ := wrapWord_of_lt (hsum l hgranted)
    obtain ⟨provider, hkey, hsaid⟩ := hgranted
    exact ⟨⟨hcurrent, hactive⟩, provider, l, hkey, ⟨hfits, hsaid⟩, hexact.symm ▸ hexpiry, hleft, hbound⟩

end

theorem Limits.SaidBy.eq_gate {l : Limits} (h : l.SaidBy gatePlan.providerArgs) : l = ⟨100, 60⟩ := by
  cases h with
  | fields total expiry =>
    have htotal : [Json.ofNat 100] = [Json.ofNat l.totalBytes] := total
    have hexpiry : [Json.ofNat 60] = [Json.ofNat l.expirySeconds] := expiry
    simp only [List.cons.injEq, Json.ofNat, Json.int.injEq, Nat.cast_inj, and_true] at htotal hexpiry
    obtain ⟨totalBytes, expirySeconds⟩ := l
    rw [Limits.mk.injEq]
    exact ⟨htotal.symm, hexpiry.symm⟩

theorem isConnectable_iff_entitled_gate :
    (∀ l, Granted (.fresh 1) gatePlan l → 10 + l.expirySeconds < wordBound) ∧
      ∃ l, Entitled (.fresh 1) ⟨1, true, ""⟩ gatePlan 10 l ∧
        l.totalBytes < (Period.fresh 1).used + signedBound := by
  have hsum : ∀ l, Granted (.fresh 1) gatePlan l → 10 + l.expirySeconds < wordBound := by
    rintro l ⟨provider, hkey, hsaid⟩
    obtain rfl : Provider.strict = provider :=
      Option.some.inj ((Provider.ofKey?_eq_some_iff.2 rfl).symm.trans (Provider.ofKey?_eq_some_iff.2 hkey))
    rw [Limits.SaidBy.eq_gate hsaid]
    decide
  have hconnectable : isConnectable (.fresh 1) ⟨1, true, ""⟩ gatePlan 10 = true := by decide +kernel
  exact ⟨hsum, (isConnectable_iff_entitled hsum).1 hconnectable⟩

/-! ## a plan without a limit -/

/-- the largest limit that can be written down -/
def unlimited : Limits := ⟨wordBound - 1, 3600⟩

def unlimitedPlan : Plan := ⟨1, 1, Provider.strict.key, .ofFields [
  ("total_usage_limit_bytes", .ofNat unlimited.totalBytes),
  ("expiry_seconds", .ofNat unlimited.expirySeconds)]⟩

/-- a period that has not used a byte is refused all the same -/
theorem unlimited_not_connectable :
    Entitled (.fresh 1) ⟨1, true, ""⟩ unlimitedPlan 0 unlimited ∧
      isConnectable (.fresh 1) ⟨1, true, ""⟩ unlimitedPlan 0 = false := by
  have hsaid : unlimited.SaidBy unlimitedPlan.providerArgs :=
    .fields (by decide +kernel) (by decide +kernel)
  have hfits : unlimited.Fits := ⟨by decide, by decide⟩
  exact ⟨⟨rfl, rfl, ⟨.strict, rfl, hsaid⟩, hfits, by decide, by decide⟩, by decide +kernel⟩

end ProxyMesh
