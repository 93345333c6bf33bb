import Mathlib.Logic.Relation
import ProxyMesh.Proofs.Accounting.Growth
import ProxyMesh.Proofs.Compile.Consumers
import ProxyMesh.Proofs.Traffic.Intake

/-!
# A period that is over stays over

Time passes, totals grow, and the first use of a period moves back but never into the future.  Each of
these can only end a period: what is left of it shrinks, and the time at which it is over comes no
later than it would have come.

* `Period.Aged`               later in all of these ways at once;
* `isConnectable_of_aged`     a period that is connectable later was so before;
* `Moment`, `Moment.Step`     store, series and time, and what may happen to them;
* `aged_of_steps`             every period ages along a run;
* `never_connectable_again`   **a period that is not connectable never is again**, and so it is among
                              the consumers of no rule.
-/

namespace ProxyMesh

/-! ## one period -/

theorem isConnectable_iff {p : Period} {profile : Profile} {plan : Plan} {now : Nat} :
    isConnectable p profile plan now = true ↔ (p.isCurrent = true ∧ profile.isActive = true) ∧
      ∃ provider limits, Provider.ofKey? plan.providerKey = some provider ∧
        provider.limits? plan p = some limits ∧ now < expiresAt limits p now ∧
          0 < (remaining? limits p).getD 0 := by
  unfold isConnectable
  rw [Bool.and_eq_true, Bool.and_eq_true]
  refine and_congr_right fun _ => ?_
  cases Provider.ofKey? plan.providerKey with
  | none => simp
  | some provider =>
    dsimp only
    cases hlimits : provider.limits? plan p with
    | none => simp [hlimits]
    | some limits => simp [hlimits]

/-- the time has come from `t` to `t'`, and the period from `p` to `q` -/
structure Period.Aged (t t' : Nat) (p q : Period) : Prop where
  time : t ≤ t'
  rest : q = { p with usage := q.usage, counter := q.counter, claim := q.claim }
  current : p.counter.current ≤ q.counter.current
  used : ∀ first, p.usage.first = some first → ∃ first' ≤ first, q.usage.first = some first'
  unused : p.usage.first = none → ∀ first, q.usage.first = some first → first ≤ t'

namespace Period

variable {t t' t'' : Nat} {p q r : Period}

theorem Aged.of_grown (h : p.Grown q) : Aged t t p q := by
  have hrest := h.rest
  have husage : q.usage = p.usage := by rw [hrest]
  refine ⟨Nat.le_refl _, ?_, h.counter.current, fun first hfirst => ?_, fun hnone first hfirst => ?_⟩
  · rw [husage]
    exact hrest
  · exact ⟨first, Nat.le_refl _, husage ▸ hfirst⟩
  · rw [husage, hnone] at hfirst
    cases hfirst

theorem Aged.refl (t : Nat) (p : Period) : Aged t t p p := .of_grown (.refl p)

theorem Aged.of_wait (h : t ≤ t') (p : Period) : Aged t t' p p :=
  ⟨h, rfl, ⟨Nat.le_refl _, Nat.le_refl _⟩, fun first hfirst => ⟨first, Nat.le_refl _, hfirst⟩,
    fun hnone _ hfirst => nomatch hnone.symm.trans hfirst⟩

theorem Aged.of_touch {time : Nat} (h : time ≤ t) (p : Period) : Aged t t p (p.touch time) := by
  refine ⟨Nat.le_refl _, rfl, ⟨Nat.le_refl _, Nat.le_refl _⟩, fun first hfirst => ?_,
    fun hnone first hfirst => ?_⟩
  · refine ⟨min first time, Nat.min_le_left _ _, ?_⟩
    simp [touch, Window.touch, hfirst]
  · simp only [touch, Window.touch, hnone, Option.elim_none, Option.some.injEq] at hfirst
    omega

theorem Aged.trans (h₁ : Aged t t' p q) (h₂ : Aged t' t'' q r) : Aged t t'' p r := by
  refine ⟨Nat.le_trans h₁.time h₂.time, ?_, Traffic.le_trans h₁.current h₂.current,
    fun first hfirst => ?_, fun hnone last hlast => ?_⟩
  · have hq := h₁.rest
    generalize q.usage = usage at hq
    generalize q.counter = counter at hq
    generalize q.claim = claim at hq
    subst hq
    exact h₂.rest
  · obtain ⟨first', hle, hfirst'⟩ := h₁.used first hfirst
    obtain ⟨first'', hle', hfirst''⟩ := h₂.used first' hfirst'
    exact ⟨first'', Nat.le_trans hle' hle, hfirst''⟩
  · cases hq : q.usage.first with
    | none => exact h₂.unused hq last hlast
    | some first =>
      obtain ⟨first', hle, hfirst'⟩ := h₂.used first hq
      obtain rfl := Option.some.inj (hfirst'.symm.trans hlast)
      exact Nat.le_trans hle (Nat.le_trans (h₁.unused hnone first hq) h₂.time)

end Period

section
variable {t t' : Nat} {p q : Period} {limits : Limits}

theorem limits?_of_aged (h : p.Aged t t' q) (provider : Provider) (plan : Plan) :
    provider.limits? plan q = provider.limits? plan p := by
  have hargs : q.planArgs = p.planArgs := by rw [h.rest]
  unfold Provider.limits?
  cases provider with
  | strict => rfl
  | dynamic => exact congrArg (Json.decodeValue Limits.decoder) hargs

theorem lt_expiresAt_of_aged (h : p.Aged t t' q)
    (hfits : p.usage.first.getD t + limits.expirySeconds < wordBound)
    (hlater : t' < expiresAt limits q t') : t < expiresAt limits p t := by
  have htime := h.time
  unfold expiresAt at *
  -- a sum that wraps around only ends the period sooner
  replace hlater := Nat.lt_of_lt_of_le hlater (wrapWord_le _)
  rw [wrapWord_of_lt hfits]
  cases hp : p.usage.first with
  | some first =>
    obtain ⟨first', hle, hq⟩ := h.used first hp
    rw [hq, Option.getD_some] at hlater
    rw [Option.getD_some]
    omega
  | none =>
    rw [Option.getD_none]
    cases hq : q.usage.first with
    | none =>
      rw [hq, Option.getD_none] at hlater
      omega
    | some first =>
      have hle := h.unused hp first hq
      rw [hq, Option.getD_some] at hlater
      omega

theorem remaining_of_aged (h : p.Aged t t' q) (hlimit : limits.totalBytes < signedBound)
    (hlater : 0 < (remaining? limits q).getD 0) : 0 < (remaining? limits p).getD 0 := by
  obtain ⟨hdown, hup⟩ := h.current
  unfold remaining? at *
  dsimp only at *
  split at hlater
  next hq =>
    rw [Option.getD_some] at hlater
    have hsigned : isSigned ((limits.totalBytes : Int) -
        (p.counter.current.download + p.counter.current.upload)) = true := by
      unfold isSigned at *
      rw [Bool.and_eq_true, decide_eq_true_iff, decide_eq_true_iff] at *
      omega
    rw [if_pos hsigned, Option.getD_some]
    omega
  · simp at hlater

theorem isConnectable_of_aged (h : p.Aged t t' q) {profile : Profile} {plan : Plan}
    (hlimit : ∀ provider limits, Provider.ofKey? plan.providerKey = some provider →
      provider.limits? plan p = some limits → limits.totalBytes < signedBound ∧
        p.usage.first.getD t + limits.expirySeconds < wordBound)
    (hlater : isConnectable q profile plan t' = true) : isConnectable p profile plan t = true := by
  obtain ⟨⟨hcurrent, hactive⟩, provider, limits, hprovider, hlimits, hexpiry, hleft⟩ :=
    isConnectable_iff.1 hlater
  have hsame : p.isCurrent = q.isCurrent := by rw [h.rest]
  rw [limits?_of_aged h] at hlimits
  obtain ⟨htotal, hfits⟩ := hlimit provider limits hprovider hlimits
  exact isConnectable_iff.2 ⟨⟨hsame.trans hcurrent, hactive⟩, provider, limits, hprovider, hlimits,
    lt_expiresAt_of_aged h hfits hexpiry, remaining_of_aged h htotal hleft⟩

end

/-! ## what may happen -/

/-- a store and a series at a time -/
structure Moment where
  metering : Metering
  clock : Nat

namespace Moment

open Store (ClaimRequest)

def store (m : Moment) : Store := m.metering.store

def withStore (m : Moment) (s : Store) : Moment :=
  { m with metering := { m.metering with store := s } }

/-- time passes, or something happens; traffic is never seen before it was there -/
inductive Step : Moment → Moment → Prop
  | wait {m : Moment} (now : Nat) (h : m.clock ≤ now) : Step m { m with clock := now }
  /-- a sync or a forward, whatever its settings and its series -/
  | perform {m : Moment} (a : Accountant) (op : ClaimOp) (ha : a.Contended) :
      Step m (m.withStore (a.perform op m.store m.clock).2)
  | claim {m : Moment} (r : ClaimRequest) : Step m (m.withStore (m.store.claimPeriods r).2)
  | release {m : Moment} (id : Id) (claim : Claim) :
      Step m (m.withStore (m.store.releaseClaim id claim).2)
  | touch {m : Moment} (id : Id) (time : Nat) (h : time ≤ m.clock) :
      Step m (m.withStore (m.store.touchPeriod id time).2)
  | touchUser {m : Moment} (rule node : Id) (time : Nat) (h : time ≤ m.clock) :
      Step m (m.withStore (m.store.touchInternalUser rule node time).2)
  | ingest {m : Moment} (w : SeriesWriter) (node : Id) (r : TrafficReport)
      (h : r.collectedAt ≤ m.clock) : Step m { m with metering := (m.metering.ingest w node r).2 }

abbrev Steps : Moment → Moment → Prop := Relation.ReflTransGen Step

/-- the period may be handed out as a user -/
def Connectable (m : Moment) (id : Id) : Prop :=
  ∃ p profile plan, m.store.periods.get? id = some p ∧
    m.store.profiles.get? p.profileId = some profile ∧ m.store.plans.get? p.planId = some plan ∧
      isConnectable p profile plan m.clock = true

/-- the total limit of the period's plan fits 63 bits, and the time at which it is over 64 -/
def Limited (m : Moment) (id : Id) : Prop :=
  ∀ p plan provider limits, m.store.periods.get? id = some p →
    m.store.plans.get? p.planId = some plan → Provider.ofKey? plan.providerKey = some provider →
      provider.limits? plan p = some limits → limits.totalBytes < signedBound ∧
        p.usage.first.getD m.clock + limits.expirySeconds < wordBound

instance (m : Moment) (id : Id) : Decidable (m.Connectable id) :=
  decidable_of_iff ((m.store.periods.get? id).any fun p =>
    (m.store.profiles.get? p.profileId).any fun profile =>
      (m.store.plans.get? p.planId).any fun plan => isConnectable p profile plan m.clock) <| by
    simp [Connectable, Option.any_eq_true]

instance (m : Moment) (id : Id) : Decidable (m.Limited id) :=
  decidable_of_iff ((m.store.periods.get? id).all fun p =>
    (m.store.plans.get? p.planId).all fun plan =>
      (Provider.ofKey? plan.providerKey).all fun provider =>
        (provider.limits? plan p).all fun limits => decide (limits.totalBytes < signedBound ∧
          p.usage.first.getD m.clock + limits.expirySeconds < wordBound)) <| by
    simp only [Limited, Option.all_eq_true, decide_eq_true_eq]
    exact ⟨fun h p plan provider limits hp hplan hprovider hlimits =>
        h p hp plan hplan provider hprovider limits hlimits,
      fun h p hp plan hplan provider hprovider limits hlimits =>
        h p plan provider limits hp hplan hprovider hlimits⟩

/-- the period has aged, and what it depends on is as it was -/
structure Aged (m m' : Moment) (id : Id) : Prop where
  plans : m'.store.plans = m.store.plans
  profiles : m'.store.profiles = m.store.profiles
  period : Option.Rel (Period.Aged m.clock m'.clock) (m.store.periods.get? id)
    (m'.store.periods.get? id)

variable {m m' m'' : Moment} {id : Id}

theorem Aged.trans (h₁ : m.Aged m' id) (h₂ : m'.Aged m'' id) : m.Aged m'' id :=
  ⟨h₂.plans.trans h₁.plans, h₂.profiles.trans h₁.profiles,
    optionRel_trans (fun _ _ _ hpq hqr => hpq.trans hqr) h₁.period h₂.period⟩

theorem aged_of_wait {now : Nat} (h : m.clock ≤ now) (id : Id) :
    m.Aged { m with clock := now } id :=
  ⟨rfl, rfl, optionRel_refl (fun p => .of_wait h p) _⟩

theorem aged_of_grown {s : Store} (h : m.store.Grown s) (id : Id) : m.Aged (m.withStore s) id := by
  refine ⟨?_, ?_, optionRel_mono (fun _ _ hpq => .of_grown hpq) (h.periods id)⟩
  · show s.plans = m.store.plans
    rw [h.rest]
  · show s.profiles = m.store.profiles
    rw [h.rest]

theorem aged_of_touched {metering : Metering} (h : m.store.Touched metering.store) {time : Nat}
    (htime : time ≤ m.clock)
    (hget : metering.store.periods.get? id = m.store.periods.get? id ∨
      metering.store.periods.get? id = (m.store.periods.get? id).map (·.touch time)) :
    m.Aged { m with metering := metering } id := by
  refine ⟨?_, ?_, ?_⟩
  · show metering.store.plans = m.store.plans
    rw [h.rest]
  · show metering.store.profiles = m.store.profiles
    rw [h.rest]
  · show Option.Rel _ (m.store.periods.get? id) (metering.store.periods.get? id)
    cases hp : m.store.periods.get? id with
    | none =>
      rw [hp, Option.map_none, or_self] at hget
      rw [hget]
      exact .none
    | some p =>
      rw [hp] at hget
      rcases hget with hget | hget
      · rw [hget]
        exact .some (.refl _ p)
      · rw [hget]
        exact .some (.of_touch htime p)

theorem aged_of_step (h : Step m m') (id : Id) : m.Aged m' id := by
  cases h with
  | wait now h => exact aged_of_wait h id
  | perform a op ha => exact aged_of_grown (Accountant.perform_grown ha op _ _) id
  | claim r => exact aged_of_grown (Store.grown_claimPeriods _ r) id
  | release id' claim => exact aged_of_grown (Store.grown_releaseClaim _ id' claim) id
  | touch id' time h =>
    refine aged_of_touched (Store.touched_touchPeriod _ id' time) h ?_
    show (m.store.touchPeriod id' time).2.periods.get? id = _ ∨
      (m.store.touchPeriod id' time).2.periods.get? id = _
    rw [Store.get?_touchPeriod]
    split
    · exact Or.inr rfl
    · exact Or.inl rfl
  | touchUser rule node time h =>
    obtain ⟨htouched, hsame⟩ := Store.touched_touchInternalUser m.store rule node time
    exact aged_of_touched htouched h (Or.inl (congrArg (Table.get? · id) hsame))
  | ingest w node r h =>
    rcases Metering.ingest_cases w node m.metering r with hsame | hnoted
    · rw [hsame]
      exact aged_of_wait (Nat.le_refl _) id
    · rw [hnoted]
      refine aged_of_touched (Store.touched_noted m.store _ _).1 h ?_
      show (m.store.noted (buildUsage node r) r.collectedAt).periods.get? id = _ ∨
        (m.store.noted (buildUsage node r) r.collectedAt).periods.get? id = _
      rw [Store.get?_noted]
      split
      · exact Or.inr rfl
      · exact Or.inl rfl

theorem aged_of_steps (h : Steps m m') (id : Id) : m.Aged m' id := by
  induction h with
  | refl => exact aged_of_wait (Nat.le_refl _) id
  | tail _ hstep ih => exact ih.trans (aged_of_step hstep id)

theorem connectable_of_aged (hlimit : m.Limited id) (h : m.Aged m' id)
    (hlater : m'.Connectable id) : m.Connectable id := by
  obtain ⟨q, profile, plan, hq, hprofile, hplan, hconnectable⟩ := hlater
  have hrel := h.period
  rw [hq] at hrel
  rw [h.plans] at hplan
  rw [h.profiles] at hprofile
  cases hp : m.store.periods.get? id with
  | none =>
    rw [hp] at hrel
    cases hrel
  | some p =>
    rw [hp] at hrel
    cases hrel with
    | some haged =>
      have hplanId : q.planId = p.planId := by rw [haged.rest]
      have hprofileId : q.profileId = p.profileId := by rw [haged.rest]
      rw [hplanId] at hplan
      rw [hprofileId] at hprofile
      exact ⟨p, profile, plan, hp, hprofile, hplan, isConnectable_of_aged haged
        (fun provider limits => hlimit p plan provider limits hp hplan) hconnectable⟩

theorem connectable_of_ruleConsumers {rule node profile : Id} {uuid : String}
    (h : .period id profile uuid ∈ m.store.ruleConsumers rule node m.clock) : m.Connectable id := by
  rcases mem_ruleConsumers.1 h with ⟨p, hp, huser⟩ | ⟨i, -, -, -, -, hinternal⟩
  · obtain ⟨profile, plan, hprofile, hplan, -, hconnectable, huser⟩ := periodUser_eq_some_iff.1 huser
    obtain ⟨rfl, -, -⟩ := User.period.inj huser
    exact ⟨p, profile, plan, Table.mem_records.1 hp, hprofile, hplan, hconnectable⟩
  · cases hinternal

/-- **A period that is not connectable never is again**, whatever syncs, forwards, claims, releases and
reports follow, and no rule has it among its consumers. -/
theorem never_connectable_again (hlimit : m.Limited id) (h : ¬m.Connectable id)
    (hs : Steps m m') : ¬m'.Connectable id ∧
      ∀ rule node profile uuid,
        User.period id profile uuid ∉ m'.store.ruleConsumers rule node m'.clock := by
  have hnever : ¬m'.Connectable id :=
    fun hlater => h (connectable_of_aged hlimit (aged_of_steps hs id) hlater)
  exact ⟨hnever, fun rule node profile uuid hmem => hnever (connectable_of_ruleConsumers hmem)⟩

/-! ## a period that is over -/

/-- a period with a minute to go from its first use at 10 -/
def spentAt (now : Nat) : Moment where
  metering := ⟨{ Store.ofPeriods [(Period.fresh 1).touch 10] with
    profiles := .ofList [⟨1, true, "profile"⟩], plans := .ofList [gatePlan] }, []⟩
  clock := now

/-- traffic collected after the period was over, and reported even later -/
def lateReport : TrafficReport :=
  ⟨90, [⟨"user>>>period1.profile1@d>>>traffic>>>downlink", 5⟩]⟩

/-- the report is taken in, and a sync finds that fewer bytes were used than before -/
def revived : Moment :=
  let m := { spentAt 1000 with
    metering := ((spentAt 1000).metering.ingest .reliable 2 lateReport).2 }
  m.withStore ((Store.answering (-9)).perform .sync m.store m.clock).2

theorem steps_revived : Steps (spentAt 70) revived :=
  ((Relation.ReflTransGen.single (.wait 1000 (by decide))).tail
    (.ingest .reliable 2 lateReport (by decide))).tail
      (.perform (Store.answering (-9)) .sync (Accountant.contended_of_store rfl))

theorem never_connectable_again_revived :
    (spentAt 69).Connectable 1 ∧ (spentAt 70).Limited 1 ∧ ¬(spentAt 70).Connectable 1 ∧
      Steps (spentAt 70) revived ∧ ¬revived.Connectable 1 ∧
      ∀ rule node profile uuid,
        User.period 1 profile uuid ∉ revived.store.ruleConsumers rule node revived.clock := by
  have hlimit : (spentAt 70).Limited 1 := by decide +kernel
  have hover : ¬(spentAt 70).Connectable 1 := by decide +kernel
  obtain ⟨hnever, hconsumers⟩ := never_connectable_again hlimit hover steps_revived
  exact ⟨by decide +kernel, hlimit, hover, steps_revived, hnever, hconsumers⟩

end Moment

end ProxyMesh
