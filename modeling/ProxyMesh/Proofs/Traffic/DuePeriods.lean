import ProxyMesh.Proofs.Accounting.Growth
import ProxyMesh.Proofs.Json.Spelling
import ProxyMesh.Proofs.Traffic.Chunks
import ProxyMesh.Proofs.Traffic.Totals

/-!
# A period that is due has its data

Points are written before the time of their traffic is noted.  A series may refuse points at any time:
then nothing is noted, and a text is taken in up to the report that was refused.  So a window never ends
where the series has no point, whatever accountants do in between.

* `reportsIn`                  the reports of a text, in the order of its lines;
* `ingestEntries_outcomes`, `ingestText_outcomes`   all reports are taken in, or those before the first
                                                    that is refused;
* `HasUsage`, `Covered`        the invariant: windows end where the series has points;
* `Act`, `run`                 reports, texts and runs of accountants, one after the other;
* `Covered.ingestAll`, `Covered.grown`, `Covered.run`   the invariant is kept by reports, by accountants
                                                        and so by every run;
* `due_periods_have_data`      **a window ends where there is a point, and what is refused leaves no
                               trace**.
-/

namespace ProxyMesh

/-- the reports of a text, in the order of its lines -/
def reportsIn (text : String) : List TrafficReport :=
  ((Text.lines text).filterMap entryOf?).filterMap Except.toOption

namespace Metering

/-! ## how far reports are taken in -/

section
variable (w : SeriesWriter) (node : Id)

theorem ingestEntry_outcomes (m : Metering) (x : Except ReportError TrafficReport) :
    (∃ summary, m.ingestEntry w node x =
      (.ok summary, m.ingestAll (x.toOption.toList.map (node, ·)))) ∨
      ∃ r e, x = .ok r ∧ m.ingestEntry w node x = (.error e, m) ∧ m.Refuses w node r e := by
  cases x with
  | error bad => exact Or.inl ⟨_, rfl⟩
  | ok r =>
    rcases m.ingest_outcomes w node r with ⟨summary, htaken⟩ | ⟨e, hsame, hrefused⟩
    · rw [← ingest_reliable] at htaken
      exact Or.inl ⟨summary, htaken⟩
    · exact Or.inr ⟨r, e, rfl, hsame, hrefused⟩

theorem ingestEntries_outcomes (m : Metering) (entries : List (Except ReportError TrafficReport)) :
    (∃ summary, m.ingestEntries w node entries =
      (.ok summary, m.ingestAll ((entries.filterMap Except.toOption).map (node, ·)))) ∨
    ∃ before r after e, entries.filterMap Except.toOption = before ++ r :: after ∧
      m.ingestEntries w node entries = (.error e, m.ingestAll (before.map (node, ·))) ∧
      (m.ingestAll (before.map (node, ·))).Refuses w node r e := by
  induction entries generalizing m with
  | nil => exact Or.inl ⟨.none, rfl⟩
  | cons x rest ih =>
    have hcons : m.ingestEntries w node (x :: rest) =
        inTurn (m.ingestEntry w node x) fun m => m.ingestEntries w node rest := rfl
    have hreports : (x :: rest).filterMap Except.toOption =
        x.toOption.toList ++ rest.filterMap Except.toOption := by
      cases x <;> rfl
    rcases m.ingestEntry_outcomes w node x with ⟨summary, hx⟩ | ⟨r, e, rfl, hx, hrefused⟩
    · -- what comes next is taken in where this entry has left off
      rcases ih (m.ingestAll (x.toOption.toList.map (node, ·))) with
        ⟨summary', hrest⟩ | ⟨before, r, after, e, hsplit, hrest, hrefused⟩
      · refine Or.inl ⟨summary.plus summary', ?_⟩
        rw [hcons, hx, inTurn_ok, hrest, hreports, List.map_append, ingestAll_append]
        rfl
      · rw [← ingestAll_append, ← List.map_append] at hrest hrefused
        refine Or.inr ⟨x.toOption.toList ++ before, r, after, e, ?_, ?_, hrefused⟩
        · rw [hreports, hsplit, List.append_assoc]
        · rw [hcons, hx, inTurn_ok, hrest]
          rfl
    · refine Or.inr ⟨[], r, rest.filterMap Except.toOption, e, rfl, ?_, hrefused⟩
      rw [hcons, hx]
      rfl

theorem ingestText_outcomes (m : Metering) (text : String) :
    (∃ summary, m.ingestText w node text =
      (.ok summary, m.ingestAll ((reportsIn text).map (node, ·)))) ∨
    ∃ before r after e, reportsIn text = before ++ r :: after ∧
      m.ingestText w node text = (.error e, m.ingestAll (before.map (node, ·))) ∧
      (m.ingestAll (before.map (node, ·))).Refuses w node r e := by
  rw [ingestText_eq]
  exact ingestEntries_outcomes w node m _

end

end Metering

/-! ## windows and points -/

/-- a point of the period's usage at the time, with a count in it -/
def HasUsage (points : List Point) (id : Id) (time : Nat) : Prop :=
  ∃ pt ∈ points, pt.isUsageOf id = true ∧ pt.time = time ∧
    ∃ d : Direction, pt.whole? d.field ≠ none

theorem HasUsage.mono {points more : List Point} {id : Id} {time : Nat} (h : HasUsage points id time)
    (hsub : points ⊆ more) : HasUsage more id time := by
  obtain ⟨pt, hpt, husage⟩ := h
  exact ⟨pt, hsub hpt, husage⟩

/-- a period that a report uses has a point in its batch -/
theorem hasUsage_buildUsage {r : TrafficReport} {id : Id} (h : r.Uses id) (node : Id) :
    HasUsage (buildUsage node r).points id r.collectedAt := by
  obtain ⟨st, hst, hvalue, d, husage⟩ := h
  have hin : st ∈ r.usage id r.collectedAt (r.collectedAt + 1) d := by
    unfold TrafficReport.usage
    rw [if_pos ⟨Nat.le_refl _, Nat.lt_succ_self _⟩]
    exact List.mem_filter.2 ⟨hst, decide_eq_true husage⟩
  obtain ⟨pt, hpt, hwindow, hfield⟩ :=
    (r.reports_present node id r.collectedAt (r.collectedAt + 1) d).2 ⟨st, hin, hvalue⟩
  unfold Point.isUsageIn at hwindow
  rw [Bool.and_eq_true, Bool.and_eq_true, decide_eq_true_eq, decide_eq_true_eq] at hwindow
  obtain ⟨hof, hstart, hstop⟩ := hwindow
  refine ⟨pt, hpt, hof, ?_, d, hfield⟩
  omega

namespace Metering

/-- where the window of a period ends, the series has a point of it -/
def Covered (m : Metering) : Prop :=
  ∀ id p t, m.store.periods.get? id = some p → p.usage.last = some t → HasUsage m.points id t

variable {m : Metering}

theorem Covered.of_unused (h : ∀ id p, m.store.periods.get? id = some p → p.usage.last = none) :
    m.Covered := by
  intro id p t hp ht
  rw [h id p hp] at ht
  cases ht

/-! ## the invariant -/

theorem Covered.ingest (h : m.Covered) (node : Id) (r : TrafficReport) :
    (m.ingestAll [(node, r)]).Covered := by
  intro id q t hq ht
  have htaken : m.ingestAll [(node, r)] = _ := m.ingest_reliable node r
  rw [htaken] at hq ⊢
  change (m.store.noted (buildUsage node r) r.collectedAt).periods.get? id = some q at hq
  rw [Store.get?_noted] at hq
  have hold : ∀ p, m.store.periods.get? id = some p → p.usage.last = some t →
      HasUsage (m.points ++ (buildUsage node r).points) id t :=
    fun p hp hlast => (h id p t hp hlast).mono (List.subset_append_left _ _)
  have hnew : r.Uses id → HasUsage (m.points ++ (buildUsage node r).points) id r.collectedAt :=
    fun huses => (hasUsage_buildUsage huses node).mono (List.subset_append_right _ _)
  split at hq
  next huses =>
    obtain ⟨p, hp, rfl⟩ := Option.map_eq_some_iff.1 hq
    change some (p.usage.last.elim r.collectedAt (max · r.collectedAt)) = some t at ht
    obtain rfl := Option.some.inj ht
    cases hlast : p.usage.last with
    | none => exact hnew huses
    | some last =>
      rw [hlast] at hold
      rcases Nat.le_total last r.collectedAt with hle | hle
      · rw [show (some last).elim r.collectedAt (max · r.collectedAt) = r.collectedAt from
          Nat.max_eq_right hle]
        exact hnew huses
      · rw [show (some last).elim r.collectedAt (max · r.collectedAt) = last from
          Nat.max_eq_left hle] at hold ⊢
        exact hold p hp hlast
  next => exact hold q hq ht

theorem Covered.ingestAll (h : m.Covered) (feed : Feed) : (m.ingestAll feed).Covered := by
  induction feed generalizing m with
  | nil => exact h
  | cons e rest ih => exact ih (h.ingest e.1 e.2)

theorem Covered.grown {s : Store} (h : m.Covered) (hs : m.store.Grown s) :
    Covered { m with store := s } := by
  intro id q t hq ht
  have hrel := hs.periods id
  change s.periods.get? id = some q at hq
  rw [hq] at hrel
  generalize hp : m.store.periods.get? id = before at hrel
  cases hrel with
  | @some p _ hgrown =>
    rw [hgrown.rest] at ht
    exact h id p t hp ht

/-! ## runs -/

/-- what is done to a store and its series.  Each call brings its own series writer, and one that looks
at the points held so far may fail at any report of a text. -/
inductive Act where
  | report (w : SeriesWriter) (node : Id) (r : TrafficReport)
  | text (w : SeriesWriter) (node : Id) (text : String)
  | account (settings : AccountingSettings) (reader : SeriesReader) (contention : Contention)
      (op : ClaimOp) (now : Nat)

def act (m : Metering) : Act → Metering
  | .report w node r => (m.ingest w node r).2
  | .text w node text => (m.ingestText w node text).2
  | .account settings reader contention op now =>
    { m with store :=
        ((Accountant.mk settings reader contention.commit).perform op m.store now).2 }

def run (m : Metering) (acts : List Act) : Metering := acts.foldl act m

theorem Covered.act (h : m.Covered) (a : Act) : (m.act a).Covered := by
  cases a with
  | report w node r =>
    change (m.ingest w node r).2.Covered
    rcases m.ingest_outcomes w node r with ⟨summary, htaken⟩ | ⟨e, hsame, -⟩
    · rw [htaken, ← ingest_reliable]
      exact h.ingest node r
    · rw [hsame]
      exact h
  | text w node text =>
    change (m.ingestText w node text).2.Covered
    rcases m.ingestText_outcomes w node text with
      ⟨summary, htaken⟩ | ⟨before, r, after, e, -, hpart, -⟩
    · rw [htaken]
      exact h.ingestAll _
    · rw [hpart]
      exact h.ingestAll _
  | account settings reader contention op now =>
    exact h.grown (Accountant.perform_grown ⟨contention, rfl⟩ op m.store now)

theorem Covered.run (h : m.Covered) (acts : List Act) : (m.run acts).Covered := by
  induction acts generalizing m with
  | nil => exact h
  | cons a rest ih => exact ih (h.act a)

/-- **Wherever the window of a period ends there is a point of it.**  A report whose points are refused
changes nothing, and a text is taken in up to the first such report. -/
theorem due_periods_have_data
    (hunused : ∀ id p, m.store.periods.get? id = some p → p.usage.last = none) (acts : List Act) :
    (∀ id p t, (m.run acts).store.periods.get? id = some p → p.usage.last = some t →
      HasUsage (m.run acts).points id t) ∧
    (∀ w node r e, (m.run acts).Refuses w node r e →
      (m.run acts).ingest w node r = (.error e, m.run acts)) ∧
    ∀ w node text e, ((m.run acts).ingestText w node text).1 = .error e →
      ∃ before r after, reportsIn text = before ++ r :: after ∧
        ((m.run acts).ingestText w node text).2 = (m.run acts).ingestAll (before.map (node, ·)) ∧
        ((m.run acts).ingestAll (before.map (node, ·))).Refuses w node r e := by
  refine ⟨(Covered.of_unused hunused).run acts, ?_, ?_⟩
  · intro w node r e h
    exact ingest_refused h
  · intro w node text e h
    rcases (m.run acts).ingestText_outcomes w node text with
      ⟨summary, htaken⟩ | ⟨before, r, after, e', hsplit, hpart, hrefused⟩
    · rw [htaken] at h
      cases h
    · rw [hpart] at h ⊢
      obtain rfl := Except.error.inj h
      exact ⟨before, r, after, hsplit, rfl, hrefused⟩

/-! ## a series that fails in the middle of a text -/

/-- a series that takes no more points when it holds `n` -/
def fullAt (n : Nat) : SeriesWriter := fun held _ =>
  if held.length < n then .ok () else .error (.timeout 10)

def fiveDown : TrafficReport :=
  ⟨1700000000, [⟨"user>>>period1.profile2@d>>>traffic>>>downlink", 5⟩]⟩

def fiveStats : Json :=
  .obj [("stats", .arr [.obj [("name", .str "user>>>period1.profile2@d>>>traffic>>>downlink"),
    ("value", .int 5)]])]

def fiveRecord : Json :=
  .obj [("result_type", .str rawTrafficResult), ("timestamp", .str "2023-11-14T22:13:20Z"),
    ("msg", .str fiveStats.compact)]

/-- the line of `fiveDown` -/
def fiveLine : String := fiveRecord.compact

theorem lines_fiveLine : Text.lines fiveLine = [fiveLine] := by
  unfold Text.lines fiveLine Json.compact
  rw [String.toList_ofList]
  have hone : Text.closeLines (Text.splitChars '\n' fiveRecord.compactChars) =
      [fiveRecord.compactChars] := by decide +kernel
  rw [hone]
  rfl

theorem entryOf?_fiveLine : entryOf? fiveLine = some (.ok fiveDown) := by
  have htrim : Text.trim fiveLine = fiveLine := by
    unfold Text.trim fiveLine Json.compact
    rw [String.toList_ofList]
    exact congrArg String.ofList (by decide +kernel)
  have hresult : Json.decode ResultLine.decoder fiveLine =
      some ⟨rawTrafficResult, "2023-11-14T22:13:20Z", fiveStats.compact⟩ := by
    unfold Json.decode fiveLine
    rw [Json.read_compact (by simp [fiveRecord, Json.InRange, Json.InRangeFields])]
    rfl
  have hrange : fiveStats.InRange := by
    simp only [fiveStats, Json.InRange, Json.InRangeFields, Json.InRangeItems, and_true, true_and]
    decide
  have hstats : Json.decode statsDecoder fiveStats.compact = some fiveDown.stats := by
    unfold Json.decode
    rw [Json.read_compact hrange]
    decide +kernel
  have hsome : fiveLine.isEmpty = false :=
    String.isEmpty_eq_false_iff.2 (mt String.ofList_eq_empty_iff.1 (List.cons_ne_nil _ _))
  exact entryOf?_of_record htrim hsome hresult rfl (by decide +kernel) hstats

/-- the line, twice -/
def twoLines : String := fiveLine ++ Text.LineEnd.lf.text ++ fiveLine

theorem entries_twoLines :
    (Text.lines twoLines).filterMap entryOf? = [.ok fiveDown, .ok fiveDown] := by
  unfold twoLines
  rw [Text.filterMap_lines_append ignoresEnds_entryOf?, lines_fiveLine, List.filterMap_cons,
    entryOf?_fiveLine]
  rfl

def unused : Metering := ⟨.ofPeriods [.fresh 1], []⟩

/-- a report that is refused, the same again, and a sync that finds nothing -/
def secondTry : List Act :=
  [.report (fullAt 0) 7 fiveDown, .report (fullAt 1) 7 fiveDown,
    .account {} (fun _ => .ok none) ⟨[], []⟩ .sync 1700000100]

/-- the second of two reports is refused: the first one is taken in -/
theorem due_periods_have_data_secondTry :
    (∀ id p, unused.store.periods.get? id = some p → p.usage.last = none) ∧
      (∃ p, (unused.run secondTry).store.periods.get? 1 = some p ∧
        p.usage.last = some 1700000000 ∧ HasUsage (unused.run secondTry).points 1 1700000000) ∧
      (unused.run secondTry).ingest (fullAt 1) 7 fiveDown =
        (.error (.timeout 10), unused.run secondTry) ∧
      ((unused.run secondTry).ingestText (fullAt 2) 7 twoLines).1 = .error (.timeout 10) ∧
      ((unused.run secondTry).ingestText (fullAt 2) 7 twoLines).2 =
        (unused.run secondTry).ingestAll [(7, fiveDown)] := by
  have hunused : ∀ id p, unused.store.periods.get? id = some p → p.usage.last = none := by
    intro id p hp
    have hmem : p ∈ [Period.fresh 1] := Table.mem_of_get? hp
    obtain rfl := List.mem_singleton.1 hmem
    rfl
  obtain ⟨hcovered, hrefused, htext⟩ := due_periods_have_data hunused secondTry
  have hlast : ((unused.run secondTry).store.periods.get? 1).map (·.usage.last) =
      some (some 1700000000) := by decide +kernel
  obtain ⟨p, hp, husage⟩ := Option.map_eq_some_iff.1 hlast
  have herror : ((unused.run secondTry).ingestText (fullAt 2) 7 twoLines).1 =
      .error (.timeout 10) := by
    rw [ingestText_eq, entries_twoLines]
    decide +kernel
  refine ⟨hunused, ⟨p, hp, husage, hcovered 1 p _ hp husage⟩, ?_, herror, ?_⟩
  · exact hrefused (fullAt 1) 7 fiveDown (.timeout 10) ⟨by decide +kernel, by decide +kernel⟩
  · obtain ⟨before, r, after, hsplit, hstate, -, hfull⟩ := htext (fullAt 2) 7 twoLines _ herror
    rw [reportsIn, entries_twoLines] at hsplit
    match before, hsplit with
    | [], hsplit =>
      obtain ⟨rfl, -⟩ := List.cons.inj hsplit
      exact absurd hfull (by decide +kernel)
    | [x], hsplit =>
      obtain ⟨rfl, -⟩ := List.cons.inj hsplit
      exact hstate
    | x :: y :: more, hsplit =>
      obtain ⟨-, hsplit⟩ := List.cons.inj hsplit
      obtain ⟨-, hsplit⟩ := List.cons.inj hsplit
      exact absurd hsplit.symm (List.append_ne_nil_of_right_ne_nil _ (List.cons_ne_nil _ _))

end Metering

end ProxyMesh
