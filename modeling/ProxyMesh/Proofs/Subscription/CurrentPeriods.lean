import ProxyMesh.Proofs.Store.Touches
import ProxyMesh.Proofs.User.Permanence

/-!
# One current period of each profile

Whether a period is the current one is kept in its record, with its counter, its claim and its window,
and the record is put back by every claim, sync, forward and report of traffic.  Only a switch may
change the flag, and it changes the flags of one profile.

* `Store.selection?`        the profile of a period, and whether it is the current one;
* `Action.WritesNoPeriod`   no administrator puts a period;
* `selection?_act`          what is no switch leaves every flag as it is;
* `Store.choices`           the switches of a profile that succeeded, one after the other;
* `SameFlags`, `IsChosen`   what they leave of the flags of the profile;
* `one_current`             **the period of the last switch is the only current one of its profile**.
-/

namespace ProxyMesh

/-- no administrator puts a period, by itself or in a document -/
def Action.WritesNoPeriod : Action → Prop
  | .put (.period _) => False
  | .importSnapshot d => d.periods = []
  | _ => True

/-- the action is no switch of a current period -/
def Action.IsNoSwitch (a : Action) : Prop := ∀ id, a ≠ .setCurrent id

def Period.selection (p : Period) : Id × Bool := (p.profileId, p.isCurrent)

namespace Store

/-- the profile of a period, and whether it is the current one of the profile -/
def selection? (s : Store) (id : Id) : Option (Id × Bool) := (s.periods.get? id).map (·.selection)

variable {s t u : Store} {a : Action} {profile id : Id}

/-! ## what leaves every flag as it is -/

theorem selection?_of_samePeriods (h : t.periods = s.periods) (id : Id) :
    t.selection? id = s.selection? id := by
  unfold selection?
  rw [h]

theorem selection_effect {c : PeriodCall} (hc : ∀ id, c ≠ .setCurrent id) (s : Store) (p : Period) :
    (s.effect c p).selection = p.selection := by
  cases c with
  | setCurrent id => exact absurd rfl (hc id)
  | _ =>
    simp only [effect]
    split <;> rfl

theorem selection?_call {c : PeriodCall} (hc : ∀ id, c ≠ .setCurrent id) (s : Store) (id : Id) :
    (s.call c).selection? id = s.selection? id := by
  unfold selection?
  rw [get?_call, Option.map_map]
  exact Option.map_congr fun p _ => selection_effect hc s p

theorem selection?_grown (h : s.Grown t) (id : Id) : t.selection? id = s.selection? id := by
  unfold selection?
  have hrel := h.periods id
  generalize s.periods.get? id = before at hrel ⊢
  generalize t.periods.get? id = after at hrel ⊢
  cases hrel with
  | none => rfl
  | some hpq =>
    rw [Option.map_some, Option.map_some, hpq.rest]
    rfl

theorem selection?_noted (s : Store) (node : Id) (r : TrafficReport) (time : Nat) (id : Id) :
    (s.noted (buildUsage node r) time).selection? id = s.selection? id := by
  unfold selection?
  rw [get?_noted]
  split
  · rw [Option.map_map]
    rfl
  · rfl

theorem selection?_ingest (w : SeriesWriter) (node : Id) (m : Metering) (r : TrafficReport) (id : Id) :
    (m.ingest w node r).2.store.selection? id = m.store.selection? id := by
  rcases Metering.ingest_cases w node m r with h | h
  · rw [h]
  · rw [h]
    exact selection?_noted m.store node r _ id

theorem selection?_ingestLines (w : SeriesWriter) (node : Id) (lines : List String) (m : Metering)
    (id : Id) : (m.ingestLines w node lines).2.store.selection? id = m.store.selection? id :=
  Metering.ingestLines_keeps (P := fun m' => m'.store.selection? id = m.store.selection? id)
    (fun m' r h => (selection?_ingest w node m' r id).trans h) lines rfl

theorem periods_ensureInternalUser (s : Store) (rule node : Id) (secret : String) :
    (s.ensureInternalUser rule node secret).2.periods = s.periods := by
  unfold ensureInternalUser
  split <;> rfl

theorem selection?_compile (s : Store) (o : Options) (node : Id) (now : Nat) (id : Id) :
    (compile s o node now).2.selection? id = s.selection? id := by
  rw [compile_store, ← withUsers_joinAll]
  rfl

theorem selection?_act (hwrites : a.WritesNoPeriod) (hswitch : a.IsNoSwitch) (s : Store) (id : Id) :
    (s.act a).selection? id = s.selection? id := by
  cases a with
  | setCurrent id' => exact absurd rfl (hswitch id')
  | claim r => exact selection?_call (c := .claim r) nofun s id
  | commit id' claim counter => exact selection?_call (c := .commit id' claim counter) nofun s id
  | release id' claim => exact selection?_call (c := .release id' claim) nofun s id
  | touchPeriod id' time => exact selection?_call (c := .touch id' time) nofun s id
  | account settings reader contention op now =>
    exact selection?_grown (Accountant.perform_grown (a := ⟨settings, reader, contention.commit⟩)
      ⟨contention, rfl⟩ op s now) id
  | ingest w points node r => exact selection?_ingest w node ⟨s, points⟩ r id
  | ingestText w points node text => exact selection?_ingestLines w node _ ⟨s, points⟩ id
  | put e =>
    cases e with
    | period p => exact hwrites.elim
    | _ => rfl
  | importSnapshot d =>
    refine selection?_of_samePeriods ?_ id
    show s.periods.putAll d.periods = s.periods
    rw [show d.periods = [] from hwrites]
    rfl
  | compile o node now => exact selection?_compile s o node now id
  | touchUser rule node time =>
    exact selection?_of_samePeriods (touched_touchInternalUser s rule node time).2 id
  | ensureUser rule node secret =>
    exact selection?_of_samePeriods (periods_ensureInternalUser s rule node secret) id
  | userFor rule node => exact selection?_of_samePeriods (periods_ensureInternalUser s rule node _) id
  | putSite site => rfl
  | deleteNode id' => rfl
  | deleteBinding id' => rfl
  | putUser user => rfl

/-! ## a switch -/

/-- the period that the action makes the current one of the profile, if it does -/
def chosen? (profile : Id) : Store × Action → Option Id
  | (s, .setCurrent id) =>
    if (s.setCurrent id).isSome ∧ (s.periods.get? id).map (·.profileId) = some profile then some id
    else none
  | _ => none

/-- the switches of the profile that succeed, one after the other -/
def choices (s : Store) (profile : Id) (actions : List Action) : List Id :=
  (visits act s actions).filterMap (chosen? profile)

/-- the periods of the profile are the same, with the same flags -/
def SameFlags (profile : Id) (s t : Store) : Prop :=
  ∀ id flag, t.selection? id = some (profile, flag) ↔ s.selection? id = some (profile, flag)

/-- the period is the only current one of the profile -/
structure IsChosen (profile id : Id) (s : Store) : Prop where
  current : s.selection? id = some (profile, true)
  only : ∀ id', s.selection? id' = some (profile, true) → id' = id

theorem SameFlags.trans (h₁ : SameFlags profile s t) (h₂ : SameFlags profile t u) :
    SameFlags profile s u :=
  fun id flag => (h₂ id flag).trans (h₁ id flag)

theorem IsChosen.of_sameFlags (h : IsChosen profile id s) (hsame : SameFlags profile s t) :
    IsChosen profile id t where
  current := (hsame id true).2 h.current
  only id' h' := h.only id' ((hsame id' true).1 h')

theorem setCurrent_of_none (h : s.periods.get? id = none) : s.setCurrent id = none := by
  unfold setCurrent
  rw [h]
  rfl

theorem act_setCurrent_of_none (h : s.periods.get? id = none) : s.act (.setCurrent id) = s :=
  congrArg (Option.getD · s) (setCurrent_of_none h)

theorem selection?_setCurrent {chosen : Period} (h : s.periods.get? id = some chosen) (id' : Id) :
    (s.act (.setCurrent id)).selection? id' =
      (s.periods.get? id').map fun p => (switchTo chosen p).selection := by
  show (((s.setCurrent id).getD s).periods.get? id').map (·.selection) = _
  rw [get?_setCurrent, h, Option.map_map]
  rfl

theorem selection_switchTo_same {chosen p : Period} (h : p.profileId = chosen.profileId) :
    (switchTo chosen p).selection = (p.profileId, p.id == chosen.id) := by
  unfold switchTo
  rw [if_pos h]
  rfl

theorem switchTo_other {chosen p : Period} (h : p.profileId ≠ chosen.profileId) :
    switchTo chosen p = p :=
  if_neg h

/-- after a switch the chosen period is the only current one of its profile -/
theorem isChosen_setCurrent {chosen : Period} (h : s.periods.get? id = some chosen) :
    IsChosen chosen.profileId id (s.act (.setCurrent id)) := by
  constructor
  · rw [selection?_setCurrent h, h, Option.map_some, selection_switchTo_same rfl, beq_self_eq_true]
  · intro id' h'
    rw [selection?_setCurrent h] at h'
    obtain ⟨p, hp, hselection⟩ := Option.map_eq_some_iff.1 h'
    by_cases hprofile : p.profileId = chosen.profileId
    · rw [selection_switchTo_same hprofile] at hselection
      have hid : p.id = chosen.id := beq_iff_eq.1 (Prod.mk.inj hselection).2
      exact (Table.key_of_get? hp).symm.trans (hid.trans (Table.key_of_get? h))
    · rw [switchTo_other hprofile] at hselection
      exact absurd (Prod.mk.inj hselection).1 hprofile

theorem sameFlags_setCurrent {chosen : Period} (h : s.periods.get? id = some chosen)
    (hne : chosen.profileId ≠ profile) : SameFlags profile s (s.act (.setCurrent id)) := by
  intro id' flag
  rw [selection?_setCurrent h]
  unfold selection?
  cases s.periods.get? id' with
  | none => exact Iff.rfl
  | some p =>
    by_cases hprofile : p.profileId = chosen.profileId
    · have hother : p.profileId ≠ profile := hprofile ▸ hne
      rw [Option.map_some, Option.map_some, selection_switchTo_same hprofile]
      exact ⟨fun e => absurd (Prod.mk.inj (Option.some.inj e)).1 hother,
        fun e => absurd (Prod.mk.inj (Option.some.inj e)).1 hother⟩
    · rw [Option.map_some, switchTo_other hprofile, Option.map_some]

/-! ## one action -/

theorem isChosen_act (h : chosen? profile (s, a) = some id) : IsChosen profile id (s.act a) := by
  cases a with
  | setCurrent id' =>
    obtain ⟨⟨-, hprofile⟩, hid⟩ := Option.ite_none_right_eq_some.1 h
    obtain rfl := Option.some.inj hid
    obtain ⟨chosen, hchosen, rfl⟩ := Option.map_eq_some_iff.1 hprofile
    exact isChosen_setCurrent hchosen
  | _ => cases h

theorem sameFlags_act (hwrites : a.WritesNoPeriod) (h : chosen? profile (s, a) = none) :
    SameFlags profile s (s.act a) := by
  by_cases hswitch : a.IsNoSwitch
  · intro id flag
    rw [selection?_act hwrites hswitch]
  · obtain ⟨id, rfl⟩ := not_forall_not.1 hswitch
    cases hget : s.periods.get? id with
    | none =>
      rw [act_setCurrent_of_none hget]
      exact fun _ _ => Iff.rfl
    | some chosen =>
      refine sameFlags_setCurrent hget fun hprofile => ?_
      have hsucceeds : (s.setCurrent id).isSome ∧
          (s.periods.get? id).map (·.profileId) = some profile := by
        refine ⟨?_, ?_⟩
        · unfold setCurrent
          rw [hget]
          rfl
        · rw [hget, ← hprofile]
          rfl
      rw [show chosen? profile (s, .setCurrent id) = some id from if_pos hsucceeds] at h
      cases h

/-! ## a run -/

theorem choices_cons (s : Store) (profile : Id) (a : Action) (rest : List Action) :
    s.choices profile (a :: rest) =
      (chosen? profile (s, a)).toList ++ (s.act a).choices profile rest :=
  filterMap_visits_cons (chosen? profile) s a rest

theorem sameFlags_actAll {actions : List Action} (hwrites : ∀ a ∈ actions, a.WritesNoPeriod)
    (h : s.choices profile actions = []) : SameFlags profile s (s.actAll actions) := by
  induction actions generalizing s with
  | nil => exact fun _ _ => Iff.rfl
  | cons a rest ih =>
    obtain ⟨ha, hrest⟩ := List.forall_mem_cons.1 hwrites
    rw [choices_cons] at h
    obtain ⟨hfirst, hlater⟩ := List.append_eq_nil_iff.1 h
    exact (sameFlags_act ha (Option.toList_eq_nil_iff.1 hfirst)).trans (ih hrest hlater)

theorem isChosen_actAll {actions : List Action} (hwrites : ∀ a ∈ actions, a.WritesNoPeriod)
    (h : (s.choices profile actions).getLast? = some id) :
    IsChosen profile id (s.actAll actions) := by
  induction actions generalizing s with
  | nil => cases h
  | cons a rest ih =>
    obtain ⟨ha, hrest⟩ := List.forall_mem_cons.1 hwrites
    rw [choices_cons, List.getLast?_append] at h
    cases hlast : ((s.act a).choices profile rest).getLast? with
    | some id' =>
      rw [hlast] at h
      obtain rfl := Option.some.inj h
      exact ih hrest hlast
    | none =>
      rw [hlast, Option.none_or] at h
      have hchosen : chosen? profile (s, a) = some id := by
        cases hc : chosen? profile (s, a) with
        | none => rw [hc] at h; cases h
        | some id' => rw [hc] at h; exact h
      exact (isChosen_act hchosen).of_sameFlags
        (sameFlags_actAll hrest (List.getLast?_eq_none_iff.1 hlast))

/-- the only current period of a profile, among the records -/
theorem IsChosen.filter_eq (h : IsChosen profile id s) : ∃ p, p.id = id ∧
    s.periods.records.filter (fun p => p.profileId == profile && p.isCurrent) = [p] := by
  obtain ⟨p, hp, hselection⟩ := Option.map_eq_some_iff.1 h.current
  refine ⟨p, Table.key_of_get? hp, (List.filter_congr fun q hq => ?_).trans (Table.filter_key hp)⟩
  have hq' : s.periods.get? q.id = some q := Table.mem_records.1 hq
  rw [Bool.eq_iff_iff, Bool.and_eq_true, beq_iff_eq, decide_eq_true_eq]
  constructor
  · rintro ⟨hprofile, hcurrent⟩
    refine h.only q.id (Option.map_eq_some_iff.2 ⟨q, hq', ?_⟩)
    unfold Period.selection
    rw [hprofile, hcurrent]
  · rintro hid
    obtain rfl : q = p := Option.some.inj (hq'.symm.trans (show s.periods.get? q.id = some p from
      (show q.id = id from hid) ▸ hp))
    exact Prod.mk.inj hselection

/-- **One current period of each profile.**  In a run in which no administrator puts a period, if some
switch of a profile succeeded, then the period of the last one is the only current one of the profile;
if none did, the periods of the profile are those that there were, with their flags.  A switch to a
period that is not there fails and changes nothing, and nothing but a switch changes any flag. -/
theorem one_current (s : Store) (actions : List Action)
    (hwrites : ∀ a ∈ actions, a.WritesNoPeriod) (profile : Id) :
    (∀ id, (s.choices profile actions).getLast? = some id → ∃ p, p.id = id ∧
      (s.actAll actions).periods.records.filter (fun p => p.profileId == profile && p.isCurrent) =
        [p]) ∧
    (s.choices profile actions = [] → ∀ id flag,
      (s.actAll actions).selection? id = some (profile, flag) ↔
        s.selection? id = some (profile, flag)) ∧
    (∀ id, s.periods.get? id = none → s.setCurrent id = none ∧ s.act (.setCurrent id) = s) ∧
    ∀ a ∈ actions, a.IsNoSwitch → ∀ (t : Store) (id : Id),
      (t.act a).selection? id = t.selection? id :=
  ⟨fun _ h => (isChosen_actAll hwrites h).filter_eq, sameFlags_actAll hwrites,
    fun _ h => ⟨setCurrent_of_none h, act_setCurrent_of_none h⟩,
    fun a ha hswitch t id => selection?_act (hwrites a ha) hswitch t id⟩

/-- two periods of profile 1 and one of profile 2, all of them current ones -/
def threePeriods : Store :=
  { twoNodes with periods := .ofList [.fresh 1, .fresh 2, { Period.fresh 3 with profileId := 2 }] }

/-- a switch while period 1 is claimed, which is then committed as it was handed out -/
def switched : List Action := [
  .setCurrent 1, .claim ⟨.sync, 100, 60, 1, (·.id == 1), fun _ => none⟩,
  .touchPeriod 1 110, .setCurrent 2, .setCurrent 9,
  .ingest .reliable [] 2 ⟨120, [⟨"user>>>period1.profile1@d>>>traffic>>>downlink", 5⟩]⟩,
  .commit 1 ⟨.sync, 160⟩ ⟨some 100, .none, .none, none⟩, .compile ⟨"/srv", ""⟩ 3 150]

theorem one_current_switched :
    (∀ a ∈ switched, a.WritesNoPeriod) ∧
      (∃ p, p.id = 2 ∧ (threePeriods.actAll switched).periods.records.filter
        (fun p => p.profileId == 1 && p.isCurrent) = [p]) ∧
      (threePeriods.actAll switched).selection? 3 = some (2, true) := by
  have hwrites : ∀ a ∈ switched, a.WritesNoPeriod := by
    simp [switched, Action.WritesNoPeriod]
  have hchosen : threePeriods.choices 1 switched = [1, 2] := by decide +kernel
  have hnone : threePeriods.choices 2 switched = [] := by decide +kernel
  have hone := (one_current threePeriods switched hwrites 1).1 2 (by rw [hchosen]; rfl)
  have hother := (one_current threePeriods switched hwrites 2).2.1 hnone 3 true
  exact ⟨hwrites, hone, hother.2 (by decide +kernel)⟩

end Store

end ProxyMesh
