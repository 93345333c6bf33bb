import ProxyMesh.Proofs.Lists
import ProxyMesh.Proofs.Store.Queue

/-!
# Touches only widen the window

A touch puts the whole record of a period back, and so does every claim, commit, release and switch of
the current period.  Each of them reads the record in the transaction that writes it, so none puts back
what a worker was handed long ago, and the calls of all workers make one sequence.

* `PeriodCall`, `Store.call`, `callAll`   the calls on periods, one after the other;
* `effect`, `get?_call`      what one call makes of one period;
* `touchTimes`, `first_foldl_touch`, `last_foldl_touch`   the window after many touches;
* `handouts`, `verdicts`     the claims on a period that were handed out, and what became of them;
* `Alike`                    two stores that tell apart no commit and no release on a period;
* `touches_only_widen`       **no touch is lost, and none changes anything but the window**.
-/

namespace ProxyMesh

/-- a call on the periods of a store -/
inductive PeriodCall where
  | touch (id : Id) (time : Nat)
  | claim (r : Store.ClaimRequest)
  | commit (id : Id) (claim : Claim) (counter : Counter)
  | release (id : Id) (claim : Claim)
  | setCurrent (id : Id)

namespace PeriodCall

/-- the time at which the call touches the period, if it does -/
def touched? (id : Id) : PeriodCall → Option Nat
  | .touch id' time => if id' = id then some time else none
  | _ => none

end PeriodCall

/-- the times at which the period is touched -/
def touchTimes (id : Id) (calls : List PeriodCall) : List Nat := calls.filterMap (·.touched? id)

/-- the calls without the touches of the period -/
def untouched (id : Id) (calls : List PeriodCall) : List PeriodCall :=
  calls.filter fun c => (c.touched? id).isNone

/-- all of a period but its window -/
def Period.windowless (p : Period) : Period := { p with usage := .none }

namespace Store

/-- the store after a call, which may have been refused -/
def call (s : Store) : PeriodCall → Store
  | .touch id time => (s.touchPeriod id time).2
  | .claim r => (s.claimPeriods r).2
  | .commit id claim counter => (s.commitCounter id claim counter).2
  | .release id claim => (s.releaseClaim id claim).2
  | .setCurrent id => (s.setCurrent id).getD s

def callAll (s : Store) (calls : List PeriodCall) : Store := calls.foldl call s

/-- for a claim: what it hands out of a claim on the period -/
def handedOut? (id : Id) : Store × PeriodCall → Option (Option Claim)
  | (s, .claim r) => some (((s.claimPeriods r).1.find? (·.id == id)).bind (·.claim))
  | _ => none

/-- for a commit or a release of the period: whether it succeeds -/
def verdict? (id : Id) : Store × PeriodCall → Option Bool
  | (s, .commit id' claim counter) =>
    if id' = id then some (s.commitCounter id claim counter).1 else none
  | (s, .release id' claim) => if id' = id then some (s.releaseClaim id claim).1 else none
  | _ => none

/-- claim by claim, what is handed out of claims on the period -/
def handouts (s : Store) (id : Id) (calls : List PeriodCall) : List (Option Claim) :=
  (visits call s calls).filterMap (handedOut? id)

/-- the commits and releases of the period one after the other, whether they succeed -/
def verdicts (s : Store) (id : Id) (calls : List PeriodCall) : List Bool :=
  (visits call s calls).filterMap (verdict? id)

variable {s t : Store} {c : PeriodCall} {id other : Id} {p q : Period}

/-! ## what a call makes of a period -/

def effect (s : Store) : PeriodCall → Period → Period
  | .touch id time, p => if p.id = id then p.touch time else p
  | .claim r, p => if p ∈ s.claimable r then { p with claim := some r.claim } else p
  | .commit id claim counter, p =>
    if p.id = id ∧ p.claim = some claim then { p with counter, claim := none } else p
  | .release id claim, p =>
    if p.id = id ∧ p.claim = some claim then { p with claim := none } else p
  | .setCurrent id, p => (s.periods.get? id).elim p (switchTo · p)

theorem get?_call (s : Store) (c : PeriodCall) (id : Id) :
    (s.call c).periods.get? id = (s.periods.get? id).map (s.effect c) := by
  cases c with
  | claim r => exact get?_claimPeriods s r id
  | commit id' claim counter =>
    have hkeep : ∀ p : Period, ({ p with counter } : Period).id = p.id := fun _ => rfl
    exact get?_updateClaimed hkeep s id' claim id
  | release id' claim => exact get?_updateClaimed (fun _ => rfl) s id' claim id
  | setCurrent id' => exact get?_setCurrent s id' id
  | touch id' time =>
    refine (get?_touchPeriod s id' id time).trans ?_
    cases hp : s.periods.get? id with
    | none => exact ite_self none
    | some p =>
      obtain rfl : p.id = id := Table.key_of_get? hp
      exact (apply_ite some _ _ _).symm

theorem switchTo_eq (chosen p : Period) :
    switchTo chosen p = { p with isCurrent := (switchTo chosen p).isCurrent } := by
  unfold switchTo
  split <;> rfl

theorem profileId_effect (s : Store) (c : PeriodCall) (p : Period) :
    (s.effect c p).profileId = p.profileId := by
  cases c with
  | setCurrent id =>
    show ((s.periods.get? id).elim p (switchTo · p)).profileId = p.profileId
    cases s.periods.get? id with
    | none => rfl
    | some chosen =>
      rw [Option.elim_some, switchTo_eq]
  | _ =>
    simp only [effect]
    split <;> rfl

/-! ## the window -/

/-- nothing but a touch of the period widens its window -/
theorem usage_effect (s : Store) (c : PeriodCall) (p : Period) :
    (s.effect c p).usage = (c.touched? p.id).elim p.usage p.usage.touch := by
  cases c with
  | touch id time =>
    simp only [effect, PeriodCall.touched?]
    by_cases h : p.id = id
    · rw [if_pos h, if_pos h.symm]
      rfl
    · rw [if_neg h, if_neg (Ne.symm h)]
      rfl
  | setCurrent id =>
    show ((s.periods.get? id).elim p (switchTo · p)).usage = p.usage
    cases s.periods.get? id with
    | none => rfl
    | some chosen =>
      rw [Option.elim_some, switchTo_eq]
  | _ =>
    simp only [effect]
    split <;> rfl

theorem usage_callAll (calls : List PeriodCall) (s : Store) (id : Id) :
    ((s.callAll calls).periods.get? id).map (·.usage) =
      (s.periods.get? id).map fun p => (touchTimes id calls).foldl Window.touch p.usage := by
  induction calls generalizing s with
  | nil => rfl
  | cons c rest ih =>
    refine (ih (s.call c)).trans ?_
    rw [get?_call, Option.map_map]
    refine Option.map_congr fun p hp => ?_
    obtain rfl : p.id = id := Table.key_of_get? hp
    show (touchTimes p.id rest).foldl Window.touch (s.effect c p).usage = _
    rw [usage_effect]
    unfold touchTimes
    rw [List.filterMap_cons]
    cases c.touched? p.id <;> rfl

theorem first_foldl_touch (times : List Nat) (w : Window) :
    (times.foldl Window.touch w).first = (w.first.toList ++ times).min? := by
  induction times generalizing w with
  | nil => cases h : w.first <;> simp [h]
  | cons time rest ih =>
    rw [List.foldl_cons, ih]
    obtain ⟨first, last⟩ := w
    cases first <;> rfl

theorem last_foldl_touch (times : List Nat) (w : Window) :
    (times.foldl Window.touch w).last = (w.last.toList ++ times).max? := by
  induction times generalizing w with
  | nil => cases h : w.last <;> simp [h]
  | cons time rest ih =>
    rw [List.foldl_cons, ih]
    obtain ⟨first, last⟩ := w
    cases last <;> rfl

/-! ## two stores that differ in windows -/

/-- what is handed out of a claim on a period that is stored -/
theorem handedOut?_claim {r : ClaimRequest} (hp : s.periods.get? id = some p) :
    handedOut? id (s, .claim r) = some (if p ∈ s.claimable r then some r.claim else none) := by
  refine congrArg some ?_
  cases hfind : (s.claimPeriods r).1.find? (·.id == id) with
  | none =>
    rw [if_neg fun hmem => ?_]
    · rfl
    · have hnot := List.find?_eq_none.1 hfind _ (List.mem_map.2 ⟨p, hmem, rfl⟩)
      exact hnot (beq_iff_eq.2 (Table.key_of_get? hp))
  | some q =>
    obtain ⟨p', hmem, rfl⟩ := List.mem_map.1 (List.mem_of_find?_eq_some hfind)
    have hid : p'.id = id := by simpa using List.find?_some hfind
    have hget := (mem_claimable hmem).1
    rw [hid, hp] at hget
    obtain rfl := Option.some.inj hget
    rw [if_pos hmem]
    rfl

/-- all periods have the profiles that they have there, and this one is the same but for its window -/
structure Alike (id : Id) (s t : Store) : Prop where
  profiles : ∀ id', (s.periods.get? id').map (·.profileId) = (t.periods.get? id').map (·.profileId)
  record : (s.periods.get? id).map (·.windowless) = (t.periods.get? id).map (·.windowless)

theorem Alike.refl (id : Id) (s : Store) : Alike id s s := ⟨fun _ => rfl, rfl⟩

theorem profiles_call (s : Store) (c : PeriodCall) (id : Id) :
    ((s.call c).periods.get? id).map (·.profileId) = (s.periods.get? id).map (·.profileId) := by
  rw [get?_call, Option.map_map]
  exact Option.map_congr fun p _ => profileId_effect s c p

theorem Alike.touch (h : Alike other s t) (id : Id) (time : Nat) :
    Alike other (s.call (.touch id time)) t := by
  refine ⟨fun id' => (profiles_call s _ id').trans (h.profiles id'), Eq.trans ?_ h.record⟩
  rw [get?_call, Option.map_map]
  refine Option.map_congr fun p _ => ?_
  show (if p.id = id then p.touch time else p).windowless = p.windowless
  split <;> rfl

theorem both_or_neither {α β : Type} {f : α → β} {x y : Option α} (h : x.map f = y.map f) :
    (x = none ∧ y = none) ∨ ∃ a b, x = some a ∧ y = some b ∧ f a = f b := by
  cases x with
  | none => exact Or.inl ⟨rfl, Option.map_eq_none_iff.1 h.symm⟩
  | some a =>
    obtain ⟨b, hb, hab⟩ := Option.map_eq_some_iff.1 h.symm
    exact Or.inr ⟨a, b, rfl, hb, hab.symm⟩

theorem windowless_switchTo {chosen chosen' : Period} (hid : chosen.id = chosen'.id)
    (hprofile : chosen.profileId = chosen'.profileId) (hpq : p.windowless = q.windowless) :
    (switchTo chosen p).windowless = (switchTo chosen' q).windowless := by
  have hdrop : ∀ c p : Period, (switchTo c p).windowless = switchTo c p.windowless := by
    intro c p
    unfold switchTo
    rw [apply_ite Period.windowless]
    rfl
  have hsame : ∀ p : Period, switchTo chosen p = switchTo chosen' p := by
    intro p
    unfold switchTo
    rw [hid, hprofile]
  rw [hdrop, hdrop, hpq, hsame]

theorem windowless_ite {P Q : Prop} [Decidable P] [Decidable Q] {p' q' : Period} (hPQ : P ↔ Q)
    (hchanged : p'.windowless = q'.windowless) (hpq : p.windowless = q.windowless) :
    (if P then p' else p).windowless = (if Q then q' else q).windowless := by
  by_cases h : P
  · rw [if_pos h, if_pos (hPQ.1 h), hchanged]
  · rw [if_neg h, if_neg fun hQ => h (hPQ.2 hQ), hpq]

/-- the same call, with the same claim on the period handed out, has the same effect on it: neither
what it writes nor whether it writes depends on the window -/
theorem Alike.windowless_effect (h : Alike id s t) (hp : s.periods.get? id = some p)
    (hq : t.periods.get? id = some q) (hpq : p.windowless = q.windowless)
    (hhanded : handedOut? id (s, c) = handedOut? id (t, c)) :
    (s.effect c p).windowless = (t.effect c q).windowless := by
  have hids : p.id = q.id := (Table.key_of_get? hp).trans (Table.key_of_get? hq).symm
  have hclaims : p.windowless.claim = q.windowless.claim := congrArg Period.claim hpq
  have hheld : ∀ id' claim, (p.id = id' ∧ p.claim = some claim) ↔
      (q.id = id' ∧ q.claim = some claim) := by
    intro id' claim
    rw [hids, show p.claim = q.claim from hclaims]
  cases c with
  | touch id' time => exact windowless_ite (by rw [hids]) hpq hpq
  | claim r =>
    rw [handedOut?_claim hp, handedOut?_claim hq] at hhanded
    have hsame : p ∈ s.claimable r ↔ q ∈ t.claimable r := by
      by_cases hp' : p ∈ s.claimable r <;> by_cases hq' : q ∈ t.claimable r <;> simp_all
    exact windowless_ite hsame
      (congrArg (fun x : Period => { x with claim := some r.claim }) hpq) hpq
  | commit id' claim counter =>
    exact windowless_ite (hheld id' claim)
      (congrArg (fun x : Period => { x with counter, claim := none }) hpq) hpq
  | release id' claim =>
    exact windowless_ite (hheld id' claim)
      (congrArg (fun x : Period => { x with claim := none }) hpq) hpq
  | setCurrent id' =>
    show ((s.periods.get? id').elim p (switchTo · p)).windowless =
      ((t.periods.get? id').elim q (switchTo · q)).windowless
    rcases both_or_neither (h.profiles id') with ⟨hs, ht⟩ | ⟨chosen, chosen', hs, ht, hprofile⟩
    · rw [hs, ht]
      exact hpq
    · rw [hs, ht]
      exact windowless_switchTo ((Table.key_of_get? hs).trans (Table.key_of_get? ht).symm)
        hprofile hpq

theorem Alike.call (h : Alike id s t) (hhanded : handedOut? id (s, c) = handedOut? id (t, c)) :
    Alike id (s.call c) (t.call c) := by
  refine ⟨fun id' => ?_, ?_⟩
  · rw [profiles_call, profiles_call]
    exact h.profiles id'
  · rw [get?_call, get?_call]
    rcases both_or_neither h.record with ⟨hs, ht⟩ | ⟨p, q, hs, ht, hpq⟩
    · rw [hs, ht]
      rfl
    · rw [hs, ht]
      exact congrArg some (h.windowless_effect hs ht hpq hhanded)

/-- a commit or a release looks at the claim, and at nothing else -/
theorem Alike.updateClaimed (h : Alike id s t) (claim : Claim) (change : Period → Period) :
    (s.updateClaimed id claim change).1 = (t.updateClaimed id claim change).1 := by
  have hclaims : (s.periods.get? id).map (·.claim) = (t.periods.get? id).map (·.claim) := by
    have hmap := congrArg (Option.map Period.claim) h.record
    rw [Option.map_map, Option.map_map] at hmap
    exact hmap
  have hheld : ∀ u : Store, (u.updateClaimed id claim change).1 = true ↔
      (u.periods.get? id).map (·.claim) = some (some claim) := fun u =>
    updateClaimed_eq_true.trans Option.map_eq_some_iff.symm
  rw [Bool.eq_iff_iff, hheld, hheld, hclaims]

theorem Alike.verdict? (h : Alike id s t) (c : PeriodCall) :
    Store.verdict? id (s, c) = Store.verdict? id (t, c) := by
  cases c with
  | commit id' claim counter =>
    exact congrArg (fun b => if id' = id then some b else none) (h.updateClaimed claim _)
  | release id' claim =>
    exact congrArg (fun b => if id' = id then some b else none) (h.updateClaimed claim _)
  | _ => rfl

/-! ## a run with the touches of a period, and without them -/

theorem handouts_cons (s : Store) (id : Id) (c : PeriodCall) (rest : List PeriodCall) :
    s.handouts id (c :: rest) = (handedOut? id (s, c)).toList ++ (s.call c).handouts id rest :=
  filterMap_visits_cons (handedOut? id) s c rest

theorem verdicts_cons (s : Store) (id : Id) (c : PeriodCall) (rest : List PeriodCall) :
    s.verdicts id (c :: rest) = (verdict? id (s, c)).toList ++ (s.call c).verdicts id rest :=
  filterMap_visits_cons (verdict? id) s c rest

/-- whether a call answers with a claim depends on the call alone -/
theorem length_handedOut? (s t : Store) (id : Id) (c : PeriodCall) :
    (handedOut? id (s, c)).toList.length = (handedOut? id (t, c)).toList.length := by
  cases c <;> rfl

theorem Alike.callAll (calls : List PeriodCall) (h : Alike other s t)
    (hhanded : s.handouts other calls = t.handouts other (untouched id calls)) :
    s.verdicts other calls = t.verdicts other (untouched id calls) ∧
      Alike other (s.callAll calls) (t.callAll (untouched id calls)) := by
  induction calls generalizing s t with
  | nil => exact ⟨rfl, h⟩
  | cons c rest ih =>
    by_cases hc : (c.touched? id).isNone = true
    · have hkept : untouched id (c :: rest) = c :: untouched id rest := List.filter_cons_of_pos hc
      rw [hkept, handouts_cons, handouts_cons] at hhanded
      obtain ⟨hfirst, hlater⟩ := List.append_inj hhanded (length_handedOut? s t other c)
      have hsame : handedOut? other (s, c) = handedOut? other (t, c) := by
        simpa using congrArg List.head? hfirst
      obtain ⟨hverdicts, hend⟩ := ih (h.call hsame) hlater
      rw [hkept, verdicts_cons, verdicts_cons, h.verdict? c, hverdicts]
      exact ⟨rfl, hend⟩
    · have hdropped : untouched id (c :: rest) = untouched id rest := List.filter_cons_of_neg hc
      rw [hdropped] at hhanded ⊢
      cases c with
      | touch id' time => exact ih (h.touch id' time) hhanded
      | _ => exact absurd rfl hc

/-- **No touch is lost, and none changes anything but the window.**  After touches, claims, commits,
releases and switches in any order, the window of a period reaches from the first to the last of the
times at which it was touched and of the times that it began with.  Had the touches of the period not
been made, then of every period on which the same claims are handed out, the same commits and releases
would succeed, and its record would be the same but for its window. -/
theorem touches_only_widen (s : Store) (calls : List PeriodCall) (id : Id) :
    (∀ p, s.periods.get? id = some p → ∃ q, (s.callAll calls).periods.get? id = some q ∧
      q.usage.first = (p.usage.first.toList ++ touchTimes id calls).min? ∧
      q.usage.last = (p.usage.last.toList ++ touchTimes id calls).max?) ∧
    ∀ other, s.handouts other calls = s.handouts other (untouched id calls) →
      s.verdicts other calls = s.verdicts other (untouched id calls) ∧
      ((s.callAll calls).periods.get? other).map (·.windowless) =
        ((s.callAll (untouched id calls)).periods.get? other).map (·.windowless) := by
  constructor
  · intro p hp
    have husage := usage_callAll calls s id
    rw [hp, Option.map_some] at husage
    obtain ⟨q, hq, hwindow⟩ := Option.map_eq_some_iff.1 husage
    refine ⟨q, hq, ?_⟩
    rw [show q.usage = _ from hwindow]
    exact ⟨first_foldl_touch _ p.usage, last_foldl_touch _ p.usage⟩
  · intro other hhanded
    obtain ⟨hverdicts, hend⟩ := (Alike.refl other s).callAll calls hhanded
    exact ⟨hverdicts, hend.record⟩

/-- two workers and reports of traffic: the second worker takes over the lapsed claim of the first,
whose commit then comes too late -/
def takenOver : List PeriodCall := [
  .touch 1 50,
  .claim ⟨.sync, 100, 10, 5, (·.id == 1), (·.usage.first)⟩,
  .touch 1 30,
  .setCurrent 2,
  .claim ⟨.sync, 110, 10, 5, (·.id == 1), (·.usage.first)⟩,
  .touch 2 70,
  .commit 1 ⟨.sync, 110⟩ .initial,
  .commit 1 ⟨.sync, 120⟩ ⟨some 120, .none, .none, none⟩,
  .touch 1 90,
  .release 1 ⟨.sync, 120⟩]

theorem touches_only_widen_takenOver :
    ((ofPeriods [.fresh 1, .fresh 2]).handouts 1 takenOver =
        [some ⟨.sync, 110⟩, some ⟨.sync, 120⟩] ∧
      (ofPeriods [.fresh 1, .fresh 2]).verdicts 1 (untouched 1 takenOver) = [false, true, false] ∧
      (ofPeriods [.fresh 1, .fresh 2]).verdicts 1 takenOver = [false, true, false]) ∧
    ∃ q, ((ofPeriods [.fresh 1, .fresh 2]).callAll takenOver).periods.get? 1 = some q ∧
      q.usage = ⟨some 30, some 90⟩ := by
  obtain ⟨hwindow, hsame⟩ := touches_only_widen (ofPeriods [.fresh 1, .fresh 2]) takenOver 1
  have hplain : (ofPeriods [.fresh 1, .fresh 2]).verdicts 1 (untouched 1 takenOver) =
      [false, true, false] := by decide +kernel
  have hhanded : (ofPeriods [.fresh 1, .fresh 2]).handouts 1 takenOver =
      (ofPeriods [.fresh 1, .fresh 2]).handouts 1 (untouched 1 takenOver) := by decide +kernel
  obtain ⟨q, hq, hfirst, hlast⟩ := hwindow (.fresh 1) (by decide +kernel)
  refine ⟨⟨by decide +kernel, hplain, (hsame 1 hhanded).1.trans hplain⟩, q, hq, ?_⟩
  show Window.mk q.usage.first q.usage.last = _
  rw [hfirst, hlast]
  decide +kernel

end Store

end ProxyMesh
