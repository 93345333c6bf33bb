import ProxyMesh.Traffic.Ingest
import ProxyMesh.Proofs.Health.Lines

/-!
# Output in chunks

Agents hand over what they have written so far, and a chunk may end at any line.  Taking a text in chunk
by chunk does what taking it in at once does, as long as chunks are cut at the ends of lines.

* `entryOf?`                    what a line of an agent's output holds, if it holds anything;
* `ignoresEnds_entryOf?`        it is read without looking at the end of the line;
* `Metering.inTurn`           one part after another, up to the first that fails;
* `Metering.ingestEntries`    the entries of a text taken in, and `ingestText_eq` says that this is what
                              happens to a text;
* `ingestEntries_append`      entries are taken in part by part;
* `chunks_in_turn`            **a text may be cut at the end of any line**, for traffic and for probes.
-/

namespace ProxyMesh

/-! ## entries -/

/-- a report, or a record that cannot be read; blank lines and other results hold nothing -/
def entryOf? (line : String) : Option (Except ReportError TrafficReport) :=
  match readReport line with
  | .ok none => none
  | .ok (some r) => some (.ok r)
  | .error e => some (.error e)

theorem entryOf?_of_record {line : String} {result : ResultLine} {time : Nat}
    {stats : List TrafficStat} (htrim : Text.trim line = line) (hsome : line.isEmpty = false)
    (hresult : Json.decode ResultLine.decoder line = some result)
    (htype : result.resultType = rawTrafficResult) (htime : reportTime? result.timestamp = some time)
    (hstats : Json.decode statsDecoder result.message = some stats) :
    entryOf? line = some (.ok ⟨time, stats⟩) := by
  have hraw : (result.resultType != rawTrafficResult) = false := by
    rw [htype]
    exact bne_self_eq_false _
  have hread : readReport line = .ok (some ⟨time, stats⟩) := by
    unfold readReport
    simp only [htrim, hsome, hresult, hraw, htime, hstats, Bool.false_eq_true, if_false]
  unfold entryOf?
  rw [hread]

theorem ignoresEnds_entryOf? : Text.IgnoresEnds entryOf? := by
  constructor
  · decide +kernel
  · intro line
    have htrim : Text.trim (String.ofList (line ++ ['\r'])) = Text.trim (String.ofList line) := by
      unfold Text.trim
      rw [String.toList_ofList, String.toList_ofList, Text.trimChars_concat (by decide +kernel)]
    unfold entryOf? readReport
    rw [htrim]

/-! ## summaries -/

namespace IngestSummary

theorem none_plus (a : IngestSummary) : none.plus a = a := by
  unfold none plus
  simp only [Nat.zero_add]

theorem plus_assoc (a b c : IngestSummary) : (a.plus b).plus c = a.plus (b.plus c) := by
  unfold plus
  simp only [Nat.add_assoc]

end IngestSummary

namespace Metering

/-! ## one part after another -/

/-- the next part, unless the first one fails; the summaries are added up -/
def inTurn (first : Except SeriesError IngestSummary × Metering)
    (next : Metering → Except SeriesError IngestSummary × Metering) :
    Except SeriesError IngestSummary × Metering :=
  match first with
  | (.error e, m) => (.error e, m)
  | (.ok summary, m) => ((next m).1.map summary.plus, (next m).2)

theorem inTurn_ok (summary : IngestSummary) (m : Metering)
    (next : Metering → Except SeriesError IngestSummary × Metering) :
    inTurn (.ok summary, m) next = ((next m).1.map summary.plus, (next m).2) := rfl

theorem inTurn_none (m : Metering) (next : Metering → Except SeriesError IngestSummary × Metering) :
    inTurn (.ok .none, m) next = next m := by
  have hmap : ∀ answer : Except SeriesError IngestSummary,
      answer.map IngestSummary.none.plus = answer := by
    intro answer
    cases answer with
    | error e => rfl
    | ok summary => exact congrArg Except.ok summary.none_plus
  exact Prod.ext (hmap _) rfl

theorem inTurn_assoc (first : Except SeriesError IngestSummary × Metering)
    (next last : Metering → Except SeriesError IngestSummary × Metering) :
    inTurn (inTurn first next) last = inTurn first fun m => inTurn (next m) last := by
  obtain ⟨answer, m⟩ := first
  cases answer with
  | error e => rfl
  | ok summary =>
    rw [inTurn_ok, inTurn_ok]
    rcases next m with ⟨e | summary', m'⟩
    · rfl
    · show inTurn (.ok (summary.plus summary'), m') last = _
      rw [inTurn_ok, inTurn_ok]
      cases (last m').1 with
      | error e => rfl
      | ok summary'' =>
        show (Except.ok ((summary.plus summary').plus summary''), _) = _
        rw [IngestSummary.plus_assoc]
        rfl

/-! ## the entries of a text -/

section
variable (w : SeriesWriter) (node : Id)

def ingestEntry (m : Metering) :
    Except ReportError TrafficReport → Except SeriesError IngestSummary × Metering
  | .ok r => m.ingest w node r
  | .error _ => (.ok { IngestSummary.none with badLines := 1 }, m)

/-- entries up to the first whose points are not taken -/
def ingestEntries (m : Metering) :
    List (Except ReportError TrafficReport) → Except SeriesError IngestSummary × Metering
  | [] => (.ok .none, m)
  | x :: rest => inTurn (m.ingestEntry w node x) fun m => ingestEntries m rest

theorem ingestLine_eq (m : Metering) (line : String) : m.ingestLine w node line =
    (entryOf? line).elim (.ok .none, m) (m.ingestEntry w node) := by
  unfold ingestLine entryOf?
  rcases readReport line with e | r
  · rfl
  · cases r with
    | none => rfl
    | some r => rfl

theorem ingestLines_eq (m : Metering) (lines : List String) :
    m.ingestLines w node lines = m.ingestEntries w node (lines.filterMap entryOf?) := by
  induction lines generalizing m with
  | nil => rfl
  | cons line rest ih =>
    have hcons : m.ingestLines w node (line :: rest) =
        inTurn (m.ingestLine w node line) fun m => m.ingestLines w node rest := by
      rw [ingestLines]
      rcases m.ingestLine w node line with ⟨e | summary, m'⟩
      · rfl
      · rfl
    rw [hcons, ingestLine_eq, funext ih, List.filterMap_cons]
    cases entryOf? line with
    | none => exact inTurn_none m _
    | some x => rfl

theorem ingestText_eq (m : Metering) (text : String) : m.ingestText w node text =
    m.ingestEntries w node ((Text.lines text).filterMap entryOf?) :=
  ingestLines_eq w node m _

theorem ingestEntries_append (m : Metering) (a b : List (Except ReportError TrafficReport)) :
    m.ingestEntries w node (a ++ b) =
      inTurn (m.ingestEntries w node a) fun m => m.ingestEntries w node b := by
  induction a generalizing m with
  | nil => exact (inTurn_none m fun m => m.ingestEntries w node b).symm
  | cons x rest ih =>
    show inTurn (m.ingestEntry w node x) (fun m => m.ingestEntries w node (rest ++ b)) =
      inTurn (inTurn (m.ingestEntry w node x) fun m => m.ingestEntries w node rest) _
    rw [inTurn_assoc, funext ih]

end

end Metering

/-- **a text may be cut at the end of any line**: traffic and probes are taken in chunk by chunk as they
are taken in at once, and what the chunks say is added up -/
theorem chunks_in_turn (e : Text.LineEnd) (a b : String) (node : Id) :
    (∀ (w : SeriesWriter) (m : Metering), m.ingestText w node (a ++ e.text ++ b) =
      Metering.inTurn (m.ingestText w node a) fun m => m.ingestText w node b) ∧
    (∀ (c : Correlator) (s : Store) (time : Nat),
      let first := c.correlate s node time a
      let second := first.2.correlate s node time b
      c.correlate s node time (a ++ e.text ++ b) = (first.1 ++ second.1, second.2)) := by
  constructor
  · intro w m
    have hpart : (fun m : Metering => m.ingestText w node b) = fun m =>
        m.ingestEntries w node ((Text.lines b).filterMap entryOf?) :=
      funext fun m => m.ingestText_eq w node b
    rw [hpart, Metering.ingestText_eq, Metering.ingestText_eq,
      Text.filterMap_lines_append ignoresEnds_entryOf?, Metering.ingestEntries_append]
  · intro c s time
    unfold Correlator.correlate
    dsimp only
    rw [Text.filterMap_lines_append ignoresEnds_readProbe?, Correlator.observeAll_append]

end ProxyMesh
