import ProxyMesh.Proofs.Tables
import ProxyMesh.Proofs.Time.Timestamps
import ProxyMesh.Series.Flux

/-!
# The literals of a query

A literal runs from a quote to the next one that no backslash stands in front of; a backslash takes the
next character as it is.

* `LiteralReader`       the literals of a text, read character by character, and what stands around them;
* `Reads`               a piece of a text is read so, wherever it stands outside of literals;
* `reads_fluxString`    a name is read as one literal with this name;
* `fluxShape`           what stands around the literals, the same for all names;
* `flux_literals`       **a query has its names as literals, in their order, and nothing else depends on
                        them**: no other query has its text.
-/

namespace ProxyMesh

/-! ## reading -/

/-- outside of the literals, in one that began with these characters, or there behind a backslash -/
inductive LiteralPlace where
  | outside
  | inside (content : List Char)
  | escaped (content : List Char)

/-- the literals that have been closed, and the text without what is in them -/
structure LiteralReader where
  literals : List String
  around : List Char
  place : LiteralPlace

namespace LiteralReader

def step (r : LiteralReader) (c : Char) : LiteralReader :=
  match r.place with
  | .outside => { r with around := r.around ++ [c], place := if c = '"' then .inside [] else .outside }
  | .inside content =>
    if c = '"' then ⟨r.literals ++ [String.ofList content], r.around ++ ['"'], .outside⟩
    else { r with place := if c = '\\' then .escaped content else .inside (content ++ [c]) }
  | .escaped content => { r with place := .inside (content ++ [c]) }

theorem step_outside (before : List String) (out : List Char) {c : Char} (h : c ≠ '"') :
    step ⟨before, out, .outside⟩ c = ⟨before, out ++ [c], .outside⟩ := by
  unfold step
  dsimp only
  rw [if_neg h]

theorem step_inside (before : List String) (out content : List Char) {c : Char} (hquote : c ≠ '"')
    (hbackslash : c ≠ '\\') :
    step ⟨before, out, .inside content⟩ c = ⟨before, out, .inside (content ++ [c])⟩ := by
  unfold step
  dsimp only
  rw [if_neg hquote, if_neg hbackslash]

/-- the literals of a text, and the text with nothing in them; `none` if the last one is not closed -/
def read (text : String) : Option (List String × String) :=
  let r := text.toList.foldl step ⟨[], [], .outside⟩
  match r.place with
  | .outside => some (r.literals, String.ofList r.around)
  | _ => none

end LiteralReader

/-- outside of literals, the text is read as these ones with this around them -/
def Reads (text : String) (literals : List String) (around : String) : Prop :=
  ∀ before out, text.toList.foldl LiteralReader.step ⟨before, out, .outside⟩ =
    ⟨before ++ literals, out ++ around.toList, .outside⟩

section
variable {s t around more : String} {literals others : List String}

theorem Reads.append (hs : Reads s literals around) (ht : Reads t others more) :
    Reads (s ++ t) (literals ++ others) (around ++ more) := by
  intro before out
  rw [String.toList_append, List.foldl_append, hs, ht, String.toList_append, List.append_assoc,
    List.append_assoc]

theorem Reads.read (h : Reads s literals around) :
    LiteralReader.read s = some (literals, around) := by
  unfold LiteralReader.read
  dsimp only
  rw [h [] []]
  exact congrArg (fun text => some (literals, text)) String.ofList_toList

theorem reads_plain (h : '"' ∉ s.toList) : Reads s [] s := by
  intro before out
  rw [List.append_nil]
  generalize s.toList = chars at h
  induction chars generalizing out with
  | nil => rw [List.append_nil]; rfl
  | cons c rest ih =>
    have hc : c ≠ '"' := fun hquote => h (hquote ▸ List.mem_cons_self)
    rw [List.foldl_cons, LiteralReader.step_outside before out hc,
      ih _ (mt (List.mem_cons_of_mem c) h), List.append_assoc, List.singleton_append]

/-- within a literal, a written character is read as itself -/
theorem foldl_fluxChar (before : List String) (out content : List Char) (c : Char) :
    (fluxChar c).foldl LiteralReader.step ⟨before, out, .inside content⟩ =
      ⟨before, out, .inside (content ++ [c])⟩ := by
  unfold fluxChar
  split
  next h => rfl
  next h =>
    rw [Bool.or_eq_true, decide_eq_true_eq, decide_eq_true_eq, not_or] at h
    exact LiteralReader.step_inside before out content h.2 h.1

theorem foldl_flatMap_fluxChar (before : List String) (out content s : List Char) :
    (s.flatMap fluxChar).foldl LiteralReader.step ⟨before, out, .inside content⟩ =
      ⟨before, out, .inside (content ++ s)⟩ := by
  induction s generalizing content with
  | nil => rw [List.append_nil]; rfl
  | cons c rest ih =>
    rw [List.flatMap_cons, List.foldl_append, foldl_fluxChar, ih, List.append_assoc,
      List.singleton_append]

theorem reads_fluxString (s : String) : Reads (fluxString s) [s] "\"\"" := by
  intro before out
  have hcontent := foldl_flatMap_fluxChar before (out ++ ['"']) [] s.toList
  unfold fluxString
  rw [String.toList_ofList, List.foldl_cons, List.foldl_append]
  show List.foldl LiteralReader.step ((s.toList.flatMap fluxChar).foldl LiteralReader.step
    ⟨before, out ++ ['"'], .inside []⟩) ['"'] = _
  rw [hcontent]
  show LiteralReader.mk (before ++ [String.ofList s.toList]) (out ++ ['"'] ++ ['"']) .outside = _
  rw [String.ofList_toList, List.append_assoc]
  rfl

theorem reads_behind {before : String} (hbefore : '"' ∉ before.toList)
    (haround : before ++ "\"\"" = around) (name : String) :
    Reads (before ++ fluxString name) [name] around :=
  haround ▸ (reads_plain hbefore).append (reads_fluxString name)

theorem reads_between {before after : String} (hbefore : '"' ∉ before.toList)
    (hafter : '"' ∉ after.toList) (haround : before ++ "\"\"" ++ after = around) (name : String) :
    Reads (before ++ fluxString name ++ after) [name] around :=
  haround ▸ (reads_behind hbefore rfl name).append (reads_plain hafter)

end

/-! ## lists of conditions -/

section
variable {α : Type} {connective around : String} {condition : α → String} {names : α → List String}

/-- conditions that look alike are read with as many of them around their literals -/
theorem Reads.intercalate (hconnective : '"' ∉ connective.toList)
    (h : ∀ a, Reads (condition a) (names a) around) (l : List α) :
    Reads (connective.intercalate (l.map condition)) (l.flatMap names)
      (connective.intercalate (List.replicate l.length around)) := by
  induction l with
  | nil => exact reads_plain List.not_mem_nil
  | cons a rest ih =>
    cases rest with
    | nil =>
      rw [List.map_singleton, List.flatMap_singleton, List.length_singleton, List.replicate_one,
        String.intercalate_singleton, String.intercalate_singleton]
      exact h a
    | cons b rest =>
      rw [List.map_cons, List.map_cons, String.intercalate_cons_cons, ← List.map_cons,
        List.flatMap_cons, List.length_cons, List.length_cons, List.replicate_succ,
        List.replicate_succ, String.intercalate_cons_cons, ← List.replicate_succ, ← List.length_cons]
      have hfirst := (h a).append (reads_plain hconnective)
      rw [List.append_nil] at hfirst
      exact hfirst.append ih

theorem Reads.fluxFilter (hconnective : '"' ∉ connective.toList)
    (h : ∀ a, Reads (condition a) (names a) around) (l : List α) :
    Reads (fluxFilter connective (l.map condition)) (l.flatMap names)
      (fluxFilter connective (List.replicate l.length around)) := by
  unfold ProxyMesh.fluxFilter
  cases l with
  | nil => exact reads_plain List.not_mem_nil
  | cons a rest =>
    have hconditions := Reads.intercalate hconnective h (a :: rest)
    have hopen : Reads "  |> filter(fn: (r) => " [] "  |> filter(fn: (r) => " := reads_plain (by decide)
    have hclose : Reads ")\n" [] ")\n" := reads_plain (by decide)
    have hline := (hopen.append hconditions).append hclose
    rw [List.nil_append, List.append_nil] at hline
    exact hline

end

/-! ## queries -/

/-- the names of a query, in their order -/
def fluxNames (bucket : String) (q : SumQuery) : List String :=
  bucket :: q.measurement :: (q.tags.records.flatMap fun (name, value) => [name, value]) ++ q.fields ++
    ["_field"]

/-- a query with these ends of its window, and so many tags and fields, without its names -/
def fluxShape (start stop : String) (tags fields : Nat) : String :=
  "from(bucket: \"\")\n  |> range(start: " ++ start ++ ", stop: " ++ stop ++ ")\n" ++
    fluxFilter "" ["r._measurement == \"\""] ++
    fluxFilter " and " (List.replicate tags "r[\"\"] == \"\"") ++
    fluxFilter " or " (List.replicate fields "r._field == \"\"") ++
    "  |> group(columns: [\"\"])\n  |> sum()\n"

/-- a query between these ends of its window -/
def fluxText (bucket : String) (q : SumQuery) (start stop : String) : String :=
  "from(bucket: " ++ fluxString bucket ++ ")\n  |> range(start: " ++ start ++ ", stop: " ++
    stop ++ ")\n" ++
    fluxFilter "" ["r._measurement == " ++ fluxString q.measurement] ++
    fluxFilter " and " (q.tags.records.map fun (name, value) =>
      "r[" ++ fluxString name ++ "] == " ++ fluxString value) ++
    fluxFilter " or " (q.fields.map fun field => "r._field == " ++ fluxString field) ++
    "  |> group(columns: [\"_field\"])\n  |> sum()\n"

theorem fluxTime_eq_ok_iff {seconds : Nat} {text : String} :
    fluxTime seconds = .ok text ↔ Time.timestampText seconds = some text := by
  unfold fluxTime
  cases Time.timestampText seconds with
  | none => exact ⟨nofun, nofun⟩
  | some t => exact ⟨fun h => congrArg some (Except.ok.inj h), fun h => congrArg _ (Option.some.inj h)⟩

theorem fluxSum_eq_ok_iff {bucket text : String} {q : SumQuery} :
    fluxSum bucket q = .ok text ↔ q.start < q.stop ∧ ∃ start stop,
      Time.timestampText q.start = some start ∧ Time.timestampText q.stop = some stop ∧
        fluxText bucket q start stop = text := by
  unfold fluxSum SumQuery.check
  by_cases hwindow : q.stop ≤ q.start
  · rw [if_pos hwindow]
    exact ⟨nofun, fun h => absurd h.1 (Nat.not_lt.2 hwindow)⟩
  · rw [if_neg hwindow, and_iff_right (Nat.lt_of_not_le hwindow)]
    constructor
    · intro h
      cases hstart : fluxTime q.start with
      | error e => rw [hstart] at h; cases h
      | ok start =>
        cases hstop : fluxTime q.stop with
        | error e => rw [hstart, hstop] at h; cases h
        | ok stop =>
          rw [hstart, hstop] at h
          exact ⟨start, stop, fluxTime_eq_ok_iff.1 hstart, fluxTime_eq_ok_iff.1 hstop, Except.ok.inj h⟩
    · rintro ⟨start, stop, hstart, hstop, rfl⟩
      rw [fluxTime_eq_ok_iff.2 hstart, fluxTime_eq_ok_iff.2 hstop]
      rfl

theorem reads_measurement (name : String) :
    Reads (fluxFilter "" ["r._measurement == " ++ fluxString name]) [name]
      (fluxFilter "" ["r._measurement == \"\""]) := by
  have hcondition : ∀ name, Reads ("r._measurement == " ++ fluxString name) [name]
      "r._measurement == \"\"" := reads_behind (by decide) (by decide)
  exact Reads.fluxFilter (by decide) hcondition [name]

theorem reads_tags (tags : List (String × String)) :
    Reads (fluxFilter " and " (tags.map fun (name, value) =>
        "r[" ++ fluxString name ++ "] == " ++ fluxString value))
      (tags.flatMap fun (name, value) => [name, value])
      (fluxFilter " and " (List.replicate tags.length "r[\"\"] == \"\"")) := by
  refine Reads.fluxFilter (by decide) (fun (name, value) => ?_) tags
  have hname : Reads ("r[" ++ fluxString name ++ "] == ") [name] "r[\"\"] == " :=
    reads_between (by decide) (by decide) (by decide) name
  have haround : "r[\"\"] == " ++ "\"\"" = "r[\"\"] == \"\"" := by decide
  have hcondition := hname.append (reads_fluxString value)
  rw [haround] at hcondition
  exact hcondition

theorem reads_fields (fields : List String) :
    Reads (fluxFilter " or " (fields.map fun field => "r._field == " ++ fluxString field)) fields
      (fluxFilter " or " (List.replicate fields.length "r._field == \"\"")) := by
  have hcondition : ∀ name, Reads ("r._field == " ++ fluxString name) [name] "r._field == \"\"" :=
    reads_behind (by decide) (by decide)
  have hfilter := Reads.fluxFilter (by decide : '"' ∉ " or ".toList) hcondition fields
  rw [List.flatMap_singleton'] at hfilter
  exact hfilter

theorem reads_group : Reads "  |> group(columns: [\"_field\"])\n  |> sum()\n" ["_field"]
    "  |> group(columns: [\"\"])\n  |> sum()\n" := by
  have htext : "  |> group(columns: [" ++ fluxString "_field" ++ "])\n  |> sum()\n" =
      "  |> group(columns: [\"_field\"])\n  |> sum()\n" := by decide
  exact htext ▸ reads_between (by decide) (by decide) (by decide) "_field"

theorem reads_fluxText {q : SumQuery} {start stop : String} (hstart : '"' ∉ start.toList)
    (hstop : '"' ∉ stop.toList) (bucket : String) : Reads (fluxText bucket q start stop)
      (fluxNames bucket q) (fluxShape start stop q.tags.records.length q.fields.length) := by
  have hbucket : Reads ("from(bucket: " ++ fluxString bucket ++ ")\n  |> range(start: ") [bucket]
      "from(bucket: \"\")\n  |> range(start: " :=
    reads_between (by decide) (by decide) (by decide) bucket
  have hwindow : Reads ", stop: " [] ", stop: " := reads_plain (by decide)
  have hclose : Reads ")\n" [] ")\n" := reads_plain (by decide)
  have hrange := ((hbucket.append (reads_plain hstart)).append hwindow).append (reads_plain hstop)
  have hfilters := ((hrange.append hclose).append (reads_measurement q.measurement)).append
    (reads_tags q.tags.records)
  have h := (hfilters.append (reads_fields q.fields)).append reads_group
  simp only [List.append_nil] at h
  exact h

/-! ## no two queries have the same text -/

theorem count_intercalate {c : Char} {connective : String} (h : c ∉ connective.toList) (text : String)
    (n : Nat) : (connective.intercalate (List.replicate n text)).toList.count c =
      n * text.toList.count c := by
  induction n with
  | zero => exact (Nat.zero_mul _).symm
  | succ n ih =>
    cases n with
    | zero => rw [List.replicate_one, String.intercalate_singleton, Nat.zero_add, Nat.one_mul]
    | succ n =>
      rw [List.replicate_succ, List.replicate_succ, String.intercalate_cons_cons, ← List.replicate_succ,
        String.toList_append, String.toList_append, List.count_append, List.count_append, ih,
        List.count_eq_zero.2 h, Nat.add_zero, Nat.succ_mul (n + 1), Nat.add_comm]

/-- how many conditions there are is told by a bracket that each of them has -/
theorem count_fluxFilter {connective : String} (h : '[' ∉ connective.toList) (text : String) (n : Nat) :
    (fluxFilter connective (List.replicate n text)).toList.count '[' = n * text.toList.count '[' := by
  cases n with
  | zero => exact (Nat.zero_mul _).symm
  | succ n =>
    have hopen : "  |> filter(fn: (r) => ".toList.count '[' = 0 := by decide
    have hclose : ")\n".toList.count '[' = 0 := by decide
    unfold fluxFilter
    rw [List.isEmpty_replicate, if_neg (by simp), String.toList_append, String.toList_append,
      List.count_append, List.count_append, count_intercalate h, hopen, hclose, Nat.zero_add, Nat.add_zero]

/-- what stands around the literals tells the window and the number of tags -/
theorem fluxShape_inj {start stop start' stop' : String} {tags tags' fields fields' : Nat}
    (hstart : ',' ∉ start.toList) (hstart' : ',' ∉ start'.toList) (hstop : ')' ∉ stop.toList)
    (hstop' : ')' ∉ stop'.toList)
    (h : fluxShape start stop tags fields = fluxShape start' stop' tags' fields') :
    start = start' ∧ stop = stop' ∧ tags = tags' := by
  unfold fluxShape at h
  simp only [String.append_assoc] at h
  obtain ⟨hs, h⟩ := Text.cut_inj rfl hstart hstart'
    ((String.append_right_inj _).1 h)
  obtain ⟨ht, h⟩ := Text.cut_inj rfl hstop hstop' h
  refine ⟨hs, ht, ?_⟩
  have hcount := congrArg (fun text => text.toList.count '[') h
  simp only [String.toList_append, List.count_append] at hcount
  rw [count_fluxFilter (by decide), count_fluxFilter (by decide), count_fluxFilter (by decide),
    count_fluxFilter (by decide)] at hcount
  have htag : "r[\"\"] == \"\"".toList.count '[' = 1 := by decide
  have hfield : "r._field == \"\"".toList.count '[' = 0 := by decide
  rw [htag, hfield] at hcount
  omega

theorem flatMap_pair_inj {l m : List (String × String)}
    (h : (l.flatMap fun (name, value) => [name, value]) = m.flatMap fun (name, value) => [name, value]) :
    l = m := by
  induction l generalizing m with
  | nil =>
    cases m with
    | nil => rfl
    | cons b rest => cases h
  | cons a rest ih =>
    cases m with
    | nil => cases h
    | cons b more =>
      obtain ⟨hname, h⟩ := List.cons.inj h
      obtain ⟨hvalue, h⟩ := List.cons.inj h
      rw [Prod.ext hname hvalue, ih h]

theorem fluxNames_inj {bucket bucket' : String} {q q' : SumQuery}
    (htags : q.tags.records.length = q'.tags.records.length)
    (h : fluxNames bucket q = fluxNames bucket' q') : bucket = bucket' ∧
      q.measurement = q'.measurement ∧ q.tags.records = q'.tags.records ∧ q.fields = q'.fields := by
  obtain ⟨hbucket, h⟩ := List.cons.inj ((List.append_left_inj _).1 h)
  obtain ⟨hmeasurement, h⟩ := List.cons.inj h
  have hlength : (q.tags.records.flatMap fun (name, value) => [name, value]).length =
      (q'.tags.records.flatMap fun (name, value) => [name, value]).length := by
    simp [List.length_flatMap, List.map_const', htags]
  obtain ⟨hpairs, hfields⟩ := List.append_inj h hlength
  exact ⟨hbucket, hmeasurement, flatMap_pair_inj hpairs, hfields⟩

/-- the date and time of an end of a window, empty beyond the range -/
def fluxEnd (seconds : Nat) : String := (Time.timestampText seconds).getD ""

/-- There is a text for every window that is not empty and not beyond the range, whatever the names are.
Its literals are the names, what stands around them depends on the window and on how many tags and fields
there are, and no other bucket and query have the same text. -/
theorem flux_literals (bucket : String) (q : SumQuery) :
    ((∃ text, fluxSum bucket q = .ok text) ↔ q.start < q.stop ∧ q.stop ≤ Time.secondsMax) ∧
    ∀ text, fluxSum bucket q = .ok text →
      LiteralReader.read text = some (fluxNames bucket q,
        fluxShape (fluxEnd q.start) (fluxEnd q.stop) q.tags.records.length q.fields.length) ∧
      ∀ bucket' q', fluxSum bucket' q' = .ok text → bucket' = bucket ∧ q' = q := by
  refine ⟨?_, fun text htext => ?_⟩
  · simp only [fluxSum_eq_ok_iff]
    constructor
    · rintro ⟨text, hwindow, start, stop, hstart, hstop, -⟩
      exact ⟨hwindow, (Time.timestampText_eq_some_iff.1 hstop).1⟩
    · rintro ⟨hwindow, hfits⟩
      have hstart : q.start ≤ Time.secondsMax := Nat.le_trans (Nat.le_of_lt hwindow) hfits
      exact ⟨_, hwindow, _, _, Time.timestampText_eq_some_iff.2 ⟨hstart, rfl⟩,
        Time.timestampText_eq_some_iff.2 ⟨hfits, rfl⟩, rfl⟩
  · obtain ⟨hwindow, start, stop, hstart, hstop, rfl⟩ := fluxSum_eq_ok_iff.1 htext
    have hends : fluxEnd q.start = start ∧ fluxEnd q.stop = stop := by
      unfold fluxEnd
      rw [hstart, hstop]
      exact ⟨rfl, rfl⟩
    have hread := (reads_fluxText (q := q) (Time.not_mem_timestampText hstart (by decide) (by decide))
      (Time.not_mem_timestampText hstop (by decide) (by decide)) bucket).read
    rw [hends.1, hends.2]
    refine ⟨hread, fun bucket' q' htext' => ?_⟩
    obtain ⟨hwindow', start', stop', hstart', hstop', htexts⟩ := fluxSum_eq_ok_iff.1 htext'
    have hread' := (reads_fluxText (q := q') (Time.not_mem_timestampText hstart' (by decide) (by decide))
      (Time.not_mem_timestampText hstop' (by decide) (by decide)) bucket').read
    rw [htexts, hread, Option.some_inj, Prod.mk.injEq] at hread'
    obtain ⟨hnames, hshape⟩ := hread'
    obtain ⟨rfl, rfl, htags⟩ := fluxShape_inj
      (Time.not_mem_timestampText hstart (by decide) (by decide))
      (Time.not_mem_timestampText hstart' (by decide) (by decide))
      (Time.not_mem_timestampText hstop (by decide) (by decide))
      (Time.not_mem_timestampText hstop' (by decide) (by decide)) hshape
    obtain ⟨hbucket, hmeasurement, hrecords, hfields⟩ := fluxNames_inj htags hnames
    have htables : q.tags = q'.tags := Table.ext_get? fun k => by unfold Table.get?; rw [hrecords]
    have hstarts := Time.timestampText_inj hstart hstart'
    have hstops := Time.timestampText_inj hstop hstop'
    obtain ⟨measurement, fields, tags, start, stop⟩ := q
    obtain ⟨measurement', fields', tags', start', stop'⟩ := q'
    rw [SumQuery.mk.injEq]
    exact ⟨hbucket.symm, hmeasurement.symm, hfields.symm, htables.symm, hstarts.symm, hstops.symm⟩

/-- a name that would close its literal, and one that would escape its end -/
theorem flux_literals_quotes : ∃ text,
    fluxSum "a\" or \"" ⟨"m\\", ["f"], .ofList [("k\"", "v")], 0, 60⟩ = .ok text ∧
      LiteralReader.read text = some (["a\" or \"", "m\\", "k\"", "v", "f", "_field"],
        fluxShape "1970-01-01T00:00:00Z" "1970-01-01T00:01:00Z" 1 1) := by
  have h := flux_literals "a\" or \"" ⟨"m\\", ["f"], .ofList [("k\"", "v")], 0, 60⟩
  obtain ⟨text, htext⟩ := h.1.2 (by decide)
  exact ⟨text, htext, (h.2 text htext).1.trans (by decide +kernel)⟩

end ProxyMesh
