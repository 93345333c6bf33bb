import ProxyMesh.Traffic.Ingest
import ProxyMesh.Proofs.Store.Periods

/-!
# What a report does

A report adds its points to the series, and widens the windows of the periods whose traffic it tells
of; a series that does not take the points leaves everything as it was.

* `TrafficStat.usage?`        the period and the direction that a statistic counts for;
* `TrafficReport.Uses`        a statistic of the report is traffic of the period;
* `Store.noted`               the store when the times of a batch are noted;
* `mem_periods_buildUsage`    the periods of a batch are those that the report uses;
* `get?_noted`                their windows are widened, no other one is;
* `Metering.Refuses`          the series does not take the points of a report;
* `ingest_outcomes`, `ingest_cases`   **a report is taken in completely or not at all**;
* `ingestLines_keeps`         what every report keeps, a text of many reports keeps.
-/

namespace ProxyMesh

/-! ## statistics and samples -/

/-- the period and the direction that a statistic counts for -/
def TrafficStat.usage? (st : TrafficStat) : Option (Id × Direction) :=
  match classify? st.name with
  | some (.user period _ _, direction) => some (period, direction)
  | _ => none

/-- some traffic in the report is that of the period -/
def TrafficReport.Uses (r : TrafficReport) (period : Id) : Prop :=
  ∃ st ∈ r.stats, st.value ≠ 0 ∧ ∃ direction, st.usage? = some (period, direction)

instance (r : TrafficReport) (period : Id) : Decidable (r.Uses period) :=
  decidable_of_iff (∃ st ∈ r.stats, st.value ≠ 0 ∧ (st.usage?.map (·.1)) = some period) <| by
    simp [TrafficReport.Uses]

/-- the statistics that count, with their subjects -/
def TrafficReport.samples (r : TrafficReport) : List Sample :=
  (r.stats.filter TrafficStat.counts).filterMap TrafficStat.sample?

/-- the period whose usage a sample is, and the direction -/
def Sample.usage? (x : Sample) : Option (Id × Direction) :=
  x.period?.map (·, x.direction)

theorem classify?_empty : classify? "" = none := by decide +kernel

theorem TrafficStat.usage?_eq (st : TrafficStat) :
    st.usage? = st.sample?.bind Sample.usage? := by
  unfold usage? sample?
  cases classify? st.name with
  | none => rfl
  | some found =>
    obtain ⟨subject, direction⟩ := found
    cases subject <;> rfl

theorem TrafficStat.counts_of_sample {st : TrafficStat} {x : Sample} (h : st.sample? = some x) :
    st.counts = true ↔ st.value ≠ 0 := by
  have hname : st.name.isEmpty = false := by
    cases hempty : st.name.isEmpty with
    | false => rfl
    | true =>
      have hclassify : classify? st.name = none := by
        rw [String.isEmpty_iff.1 hempty]
        exact classify?_empty
      unfold sample? at h
      rw [hclassify] at h
      cases h
  unfold counts
  rw [hname]
  simp

theorem TrafficStat.value_of_sample {st : TrafficStat} {x : Sample} (h : st.sample? = some x) :
    x.value = st.value := by
  unfold sample? at h
  obtain ⟨found, -, rfl⟩ := Option.map_eq_some_iff.1 h
  rfl

theorem TrafficReport.mem_samples {r : TrafficReport} {x : Sample} :
    x ∈ r.samples ↔ ∃ st ∈ r.stats, st.value ≠ 0 ∧ st.sample? = some x := by
  unfold samples
  rw [List.mem_filterMap]
  constructor
  · rintro ⟨st, hst, hx⟩
    obtain ⟨hmem, hcounts⟩ := List.mem_filter.1 hst
    exact ⟨st, hmem, (TrafficStat.counts_of_sample hx).1 hcounts, hx⟩
  · rintro ⟨st, hmem, hvalue, hx⟩
    exact ⟨st, List.mem_filter.2 ⟨hmem, (TrafficStat.counts_of_sample hx).2 hvalue⟩, hx⟩

theorem TrafficReport.exists_sample_iff {r : TrafficReport} {u : Id × Direction} :
    (∃ x ∈ r.samples, x.usage? = some u) ↔ ∃ st ∈ r.stats, st.value ≠ 0 ∧ st.usage? = some u := by
  constructor
  · rintro ⟨x, hx, hxu⟩
    obtain ⟨st, hst, hvalue, hsample⟩ := mem_samples.1 hx
    have husage : st.usage? = some u := by
      rw [TrafficStat.usage?_eq, hsample]
      exact hxu
    exact ⟨st, hst, hvalue, husage⟩
  · rintro ⟨st, hst, hvalue, husage⟩
    rw [TrafficStat.usage?_eq] at husage
    obtain ⟨x, hx, hxu⟩ := Option.bind_eq_some_iff.1 husage
    exact ⟨x, mem_samples.2 ⟨st, hst, hvalue, hx⟩, hxu⟩

theorem TrafficReport.uses_iff {r : TrafficReport} {period : Id} :
    r.Uses period ↔ ∃ x ∈ r.samples, ∃ direction, x.usage? = some (period, direction) := by
  constructor
  · rintro ⟨st, hst, hvalue, direction, husage⟩
    obtain ⟨x, hx, hxu⟩ := exists_sample_iff.2 ⟨st, hst, hvalue, husage⟩
    exact ⟨x, hx, direction, hxu⟩
  · rintro ⟨x, hx, direction, hxu⟩
    obtain ⟨st, hst, hvalue, husage⟩ := exists_sample_iff.1 ⟨x, hx, hxu⟩
    exact ⟨st, hst, hvalue, direction, husage⟩

theorem mem_distinctKeys {κ : Type} [Key κ] {keys : List κ} {k : κ} :
    k ∈ distinctKeys keys ↔ k ∈ keys := by
  have hagree : ∀ a ∈ keys.map (·, ()), ∀ b ∈ keys.map (·, ()), key a = key b → a = b :=
    fun a _ b _ h => Prod.ext h rfl
  unfold distinctKeys Table.ofList
  rw [List.mem_map]
  constructor
  · rintro ⟨a, ha, rfl⟩
    obtain ⟨k, hk, rfl⟩ := List.mem_map.1 ((Table.mem_putAll_empty hagree).1 ha)
    exact hk
  · intro hk
    exact ⟨(k, ()), (Table.mem_putAll_empty hagree).2 (List.mem_map.2 ⟨k, hk, rfl⟩), rfl⟩

theorem mem_periods_buildUsage {node period : Id} {r : TrafficReport} :
    period ∈ (buildUsage node r).periods ↔ r.Uses period := by
  show period ∈ distinctKeys (r.samples.filterMap Sample.period?) ↔ _
  rw [mem_distinctKeys, List.mem_filterMap, TrafficReport.uses_iff]
  constructor
  · rintro ⟨x, hx, hperiod⟩
    refine ⟨x, hx, x.direction, ?_⟩
    unfold Sample.usage?
    rw [hperiod]
    rfl
  · rintro ⟨x, hx, direction, husage⟩
    obtain ⟨p, hp, e⟩ := Option.map_eq_some_iff.1 husage
    obtain rfl : p = period := (Prod.mk.inj e).1
    exact ⟨x, hx, hp⟩

/-! ## windows widened -/

section
variable {s : Store} {id : Id} {time : Nat}

theorem touchAll_snd {ι : Type} (touch : Store → ι → Bool × Store) (s : Store) (items : List ι) :
    (touchAll touch s items).2 = items.foldl (fun s item => (touch s item).2) s :=
  (List.foldl_hom Prod.snd fun _ _ => rfl).symm

theorem Period.touch_touch (p : Period) (time : Nat) : (p.touch time).touch time = p.touch time := by
  have hfirst : min (p.usage.first.elim time (min · time)) time =
      p.usage.first.elim time (min · time) := by
    cases p.usage.first with
    | none => exact Nat.min_self time
    | some first =>
      show min (min first time) time = min first time
      omega
  have hlast : max (p.usage.last.elim time (max · time)) time =
      p.usage.last.elim time (max · time) := by
    cases p.usage.last with
    | none => exact Nat.max_self time
    | some last =>
      show max (max last time) time = max last time
      omega
  unfold Period.touch Window.touch
  simp only [Option.elim_some, hfirst, hlast]

theorem Store.get?_foldl_touchPeriod (ids : List Id) (s : Store) (id : Id) (time : Nat) :
    (ids.foldl (fun s id => (s.touchPeriod id time).2) s).periods.get? id =
      if id ∈ ids then (s.periods.get? id).map (·.touch time) else s.periods.get? id := by
  induction ids generalizing s with
  | nil => rfl
  | cons other rest ih =>
    rw [List.foldl_cons, ih, Store.get?_touchPeriod]
    by_cases hid : id = other
    · subst hid
      rw [if_pos rfl, if_pos List.mem_cons_self, Option.map_map]
      have htwice : (Period.touch · time) ∘ (Period.touch · time) = (Period.touch · time) :=
        funext fun p => Period.touch_touch p time
      rw [htwice, ite_self]
    · rw [if_neg hid]
      by_cases hrest : id ∈ rest
      · rw [if_pos hrest, if_pos (List.mem_cons_of_mem _ hrest)]
      · rw [if_neg hrest, if_neg (by simp [hid, hrest])]

/-- nothing but windows is changed -/
structure Store.Touched (s t : Store) : Prop where
  rest : t = { s with periods := t.periods, internalUsers := t.internalUsers }

theorem Store.Touched.refl (s : Store) : s.Touched s := ⟨rfl⟩

theorem Store.Touched.trans {t u : Store} (h₁ : s.Touched t) (h₂ : t.Touched u) : s.Touched u := by
  refine ⟨?_⟩
  have ht := h₁.rest
  generalize t.periods = periods at ht
  generalize t.internalUsers = users at ht
  subst ht
  exact h₂.rest

theorem Store.touched_touchPeriod (s : Store) (id : Id) (time : Nat) :
    s.Touched (s.touchPeriod id time).2 := by
  unfold touchPeriod
  split
  · exact ⟨rfl⟩
  · exact .refl s

theorem Store.touched_touchInternalUser (s : Store) (rule node : Id) (time : Nat) :
    s.Touched (s.touchInternalUser rule node time).2 ∧
      (s.touchInternalUser rule node time).2.periods = s.periods := by
  unfold touchInternalUser
  split
  · exact ⟨⟨rfl⟩, rfl⟩
  · exact ⟨.refl s, rfl⟩

/-- the store when the times of a batch are noted -/
def Store.noted (s : Store) (batch : UsageBatch) (time : Nat) : Store :=
  batch.internalUsers.foldl (fun s user => (s.touchInternalUser user.1 user.2 time).2)
    (batch.periods.foldl (fun s id => (s.touchPeriod id time).2) s)

theorem Store.touched_noted (s : Store) (batch : UsageBatch) (time : Nat) :
    s.Touched (s.noted batch time) ∧ (s.noted batch time).periods =
      (batch.periods.foldl (fun s id => (s.touchPeriod id time).2) s).periods := by
  have hperiods : ∀ (ids : List Id) (s : Store),
      s.Touched (ids.foldl (fun s id => (s.touchPeriod id time).2) s) := by
    intro ids
    induction ids with
    | nil => exact Touched.refl
    | cons id rest ih => exact fun s => (touched_touchPeriod s id time).trans (ih _)
  have husers : ∀ (users : List (Id × Id)) (s : Store),
      s.Touched (users.foldl (fun s user => (s.touchInternalUser user.1 user.2 time).2) s) ∧
        (users.foldl (fun s user => (s.touchInternalUser user.1 user.2 time).2) s).periods =
          s.periods := by
    intro users
    induction users with
    | nil => exact fun s => ⟨.refl s, rfl⟩
    | cons user rest ih =>
      intro s
      obtain ⟨hone, hsame⟩ := touched_touchInternalUser s user.1 user.2 time
      obtain ⟨hrest, hsame'⟩ := ih (s.touchInternalUser user.1 user.2 time).2
      exact ⟨hone.trans hrest, hsame'.trans hsame⟩
  obtain ⟨hlast, hsame⟩ := husers batch.internalUsers
    (batch.periods.foldl (fun s id => (s.touchPeriod id time).2) s)
  exact ⟨(hperiods batch.periods s).trans hlast, hsame⟩

theorem Store.get?_noted (s : Store) (node : Id) (r : TrafficReport) (id : Id) (time : Nat) :
    (s.noted (buildUsage node r) time).periods.get? id =
      if r.Uses id then (s.periods.get? id).map (·.touch time) else s.periods.get? id := by
  rw [(Store.touched_noted s (buildUsage node r) time).2, get?_foldl_touchPeriod]
  simp only [mem_periods_buildUsage]

end

/-! ## a report taken in -/

namespace Metering

variable {m : Metering} {node : Id} {r : TrafficReport}

/-- points that are taken; an empty batch is as good as taken -/
theorem write_accepted {w : SeriesWriter} {points : List Point}
    (h : points.isEmpty = true ∨ w m.points points = .ok ()) :
    m.write w points = (.ok (), { m with points := m.points ++ points }) := by
  unfold write
  cases hempty : points.isEmpty with
  | true =>
    rw [List.isEmpty_iff.1 hempty, List.append_nil]
    rfl
  | false =>
    rw [h.resolve_left (by simp [hempty])]
    rfl

theorem ingest_written {w : SeriesWriter}
    (h : (buildUsage node r).points.isEmpty = true ∨
      w m.points (buildUsage node r).points = .ok ()) :
    ∃ summary, m.ingest w node r = (.ok summary,
      ⟨m.store.noted (buildUsage node r) r.collectedAt, m.points ++ (buildUsage node r).points⟩) := by
  unfold ingest Store.noted
  dsimp only
  rw [write_accepted h]
  dsimp only
  rw [touchAll_snd, touchAll_snd]
  exact ⟨_, rfl⟩

theorem ingest_accepted {w : SeriesWriter}
    (h : (buildUsage node r).points.isEmpty = true ∨
      w m.points (buildUsage node r).points = .ok ()) :
    (m.ingest w node r).2 =
      ⟨m.store.noted (buildUsage node r) r.collectedAt, m.points ++ (buildUsage node r).points⟩ := by
  obtain ⟨summary, hingest⟩ := ingest_written h
  rw [hingest]

/-- the series does not take the points of a report -/
def Refuses (w : SeriesWriter) (node : Id) (m : Metering) (r : TrafficReport) (e : SeriesError) :
    Prop :=
  (buildUsage node r).points ≠ [] ∧ w m.points (buildUsage node r).points = .error e

/-- points that are not taken: nothing is noted either -/
theorem ingest_refused {w : SeriesWriter} {e : SeriesError} (h : m.Refuses w node r e) :
    m.ingest w node r = (.error e, m) := by
  have hwrite : m.write w (buildUsage node r).points = (.error e, m) := by
    unfold write
    rw [List.isEmpty_eq_false_iff.2 h.1, h.2]
    rfl
  unfold ingest
  dsimp only
  rw [hwrite]

theorem ingest_outcomes (w : SeriesWriter) (node : Id) (m : Metering) (r : TrafficReport) :
    (∃ summary, m.ingest w node r = (.ok summary,
      ⟨m.store.noted (buildUsage node r) r.collectedAt, m.points ++ (buildUsage node r).points⟩)) ∨
    ∃ e, m.ingest w node r = (.error e, m) ∧ m.Refuses w node r e := by
  cases hempty : (buildUsage node r).points.isEmpty with
  | true => exact Or.inl (ingest_written (Or.inl hempty))
  | false =>
    cases hw : w m.points (buildUsage node r).points with
    | ok _ => exact Or.inl (ingest_written (Or.inr hw))
    | error e =>
      have hrefused : m.Refuses w node r e := ⟨List.isEmpty_eq_false_iff.1 hempty, hw⟩
      exact Or.inr ⟨e, ingest_refused hrefused, hrefused⟩

/-- **a report is taken in completely or not at all** -/
theorem ingest_cases (w : SeriesWriter) (node : Id) (m : Metering) (r : TrafficReport) :
    (m.ingest w node r).2 = m ∨ (m.ingest w node r).2 =
      ⟨m.store.noted (buildUsage node r) r.collectedAt, m.points ++ (buildUsage node r).points⟩ := by
  rcases m.ingest_outcomes w node r with ⟨summary, htaken⟩ | ⟨e, hsame, -⟩
  · rw [htaken]
    exact Or.inr rfl
  · rw [hsame]
    exact Or.inl rfl

theorem ingestLines_keeps {w : SeriesWriter} {P : Metering → Prop}
    (hreport : ∀ m r, P m → P (m.ingest w node r).2) (lines : List String) (h : P m) :
    P (m.ingestLines w node lines).2 := by
  have hline : ∀ (m : Metering) (line : String), P m → P (m.ingestLine w node line).2 := by
    intro m line hm
    unfold ingestLine
    split
    · exact hreport m _ hm
    · exact hm
    · exact hm
  induction lines generalizing m with
  | nil => exact h
  | cons line rest ih =>
    have hfirst := hline m line h
    unfold ingestLines
    rcases hread : m.ingestLine w node line with ⟨e | summary, m'⟩
    · rw [hread] at hfirst
      exact hfirst
    · rw [hread] at hfirst
      exact ih hfirst

end Metering

end ProxyMesh
