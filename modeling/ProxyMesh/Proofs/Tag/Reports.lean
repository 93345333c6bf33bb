import ProxyMesh.Health.Probe
import ProxyMesh.Proofs.Number.Decimals
import ProxyMesh.Proofs.Tag.Codec
import ProxyMesh.Proofs.Traffic.Names

/-!
# Outbounds in what the runtime reports

The runtime names an outbound by its tag in two texts: the name that its traffic is counted under, and
the line about its probe.  In both a sign ends the tag, and a tag ends in free text.  A tag without that
sign is found again whole, whatever else is in it; a tag with it is found in no such text.

* `TagRef.tags`                the tags of the outbounds behind a reference;
* `TagRef.mem_tag_iff`         a sign that no tag begins with is in the allocation or not at all;
* `classify?_outboundName`     what a traffic name is read as;
* `readDelay_written`, `readAlive_aliveLine`   the parts of a line about a probe;
* `not_mem_of_readProbe?`      no tag that is read from a line holds the sign `]`;
* `TagRef.tags_reported`       **which tags are found in which report**.
-/

namespace ProxyMesh

/-! ## tags -/

namespace TagRef

/-- the free text of a reference; an outbound that is no reverse link has none -/
def allocation : TagRef → String
  | .outbound .. => ""
  | .reverse _ _ _ _ allocation => allocation

/-- the tags of the outbounds behind a reference -/
def tags (r : TagRef) : List String :=
  r.encode :: if r.isBridge then [interconnectTag r.encode] else []

/-- what may stand before the allocation -/
def isLead (c : Char) : Bool := Text.isDigit c || "ic-rbpto_".toList.contains c

section
variable {r : TagRef} {t : String} {c : Char}

theorem mem_tags : t ∈ r.tags ↔ t = r.encode ∨ r.isBridge = true ∧ t = interconnectTag r.encode := by
  unfold tags
  rw [List.mem_cons]
  cases r.isBridge <;> simp

theorem decode_tag (ht : t ∈ r.tags) : decode? t = some r := by
  rcases mem_tags.1 ht with rfl | ⟨hbridge, rfl⟩
  · exact decode_encode r
  · rw [decode_interconnectTag, if_pos hbridge]

theorem all_isLead_paddedNumeral (zeros : Nat) (n : Id) :
    (Text.paddedNumeral zeros n).all isLead = true := by
  refine List.all_eq_true.2 fun c hc => ?_
  unfold isLead
  rw [Text.isDigit_of_mem_paddedNumeral hc, Bool.true_or]

theorem all_isLead_outboundMark (scope : Scope) : (outboundMark scope).toList.all isLead = true := by
  cases scope <;> simp only [outboundMark] <;> decide

theorem all_isLead_reverseMark (scope : Scope) (side : ReverseSide) :
    (reverseMark scope side).toList.all isLead = true := by
  cases scope <;> cases side <;> simp only [reverseMark] <;> decide

/-- a tag is the allocation behind marks and numbers -/
theorem toList_encode (r : TagRef) :
    ∃ lead, lead ≠ [] ∧ lead.all isLead = true ∧ r.encode.toList = lead ++ r.allocation.toList := by
  have hunderscore : isLead '_' = true := by decide
  rw [← padded_none]
  cases r with
  | outbound scope b =>
    refine ⟨_, ?_, ?_, (toList_padded_outbound .none scope b).trans (List.append_nil _).symm⟩
    · simp
    · simp only [List.all_append, List.all_cons, all_isLead_outboundMark, all_isLead_paddedNumeral,
        hunderscore, Bool.and_self]
  | reverse scope side b peer allocation =>
    refine ⟨(reverseMark scope side).toList ++ '_' :: (Text.paddedNumeral 0 scope.id ++
      '_' :: (Text.paddedNumeral 0 b ++ '_' :: (Text.paddedNumeral 0 peer ++ ['_']))), ?_, ?_, ?_⟩
    · simp
    · simp only [List.all_append, List.all_cons, List.all_nil, all_isLead_reverseMark,
        all_isLead_paddedNumeral, hunderscore, Bool.and_self]
    · rw [toList_padded_reverse]
      simp [LeadingZeros.none, TagRef.allocation]

theorem toList_tag (ht : t ∈ r.tags) :
    ∃ lead, lead ≠ [] ∧ lead.all isLead = true ∧ t.toList = lead ++ r.allocation.toList := by
  obtain ⟨lead, hne, hlead, htext⟩ := toList_encode r
  rcases mem_tags.1 ht with rfl | ⟨-, rfl⟩
  · exact ⟨lead, hne, hlead, htext⟩
  · have hmark : interconnectMark.toList.all isLead = true := rfl
    refine ⟨interconnectMark.toList ++ lead, List.append_ne_nil_of_right_ne_nil _ hne, ?_, ?_⟩
    · rw [List.all_append, hmark, hlead, Bool.and_self]
    · rw [toList_interconnectTag, htext, List.append_assoc]

theorem tag_ne_empty (ht : t ∈ r.tags) : t ≠ "" := by
  obtain ⟨lead, hne, -, htext⟩ := toList_tag ht
  rintro rfl
  exact hne (List.append_eq_nil_iff.1 htext.symm).1

theorem mem_tag_iff (ht : t ∈ r.tags) (hc : isLead c = false) :
    c ∈ t.toList ↔ c ∈ r.allocation.toList := by
  obtain ⟨lead, -, hlead, htext⟩ := toList_tag ht
  rw [htext, List.mem_append]
  refine or_iff_right fun h => ?_
  have hc' := List.all_eq_true.1 hlead c h
  rw [hc] at hc'
  cases hc'

end

end TagRef

/-! ## traffic -/

/-- the name under which the runtime counts the traffic of an outbound -/
def outboundName (tag : String) (d : Direction) : String :=
  "outbound>>>" ++ tag ++ ">>>traffic>>>" ++ d.word

theorem classify?_outboundName {tag : String} (htag : tag ≠ "") (d : Direction) :
    classify? (outboundName tag d) = if '>' ∈ tag.toList then none else some (.outbound tag, d) := by
  have hname : (outboundName tag d).toList = "outbound>>>".toList ++ (tag.toList ++ tailOf d) := by
    unfold outboundName
    simp only [String.toList_append, List.append_assoc]
    rfl
  have huser : readUser (outboundName tag d).toList = none := by
    rw [hname]
    simp [readUser, Text.stripStart]
  have hinternal : readInternalUser (outboundName tag d).toList = none := by
    rw [hname]
    simp [readInternalUser, Text.stripStart]
  have hinbound : readEndpoint "inbound>>>".toList (outboundName tag d).toList = none := by
    rw [hname]
    simp [readEndpoint, Text.stripStart]
  have houtbound : readEndpoint "outbound>>>".toList (outboundName tag d).toList =
      if '>' ∈ tag.toList then none else some (tag, d) := by
    rw [hname]
    unfold readEndpoint
    rw [Text.stripStart_append]
    simp only [Option.bind_eq_bind, Option.bind_some, readTail_append]
    split
    · rfl
    · simp [htag]
  rw [classify?_of_endpoint huser hinternal, hinbound, houtbound]
  split <;> rfl

/-! ## probes -/

section
variable {α : Type} {f : List Char → Option α} {s rest whole fraction delay reason : List Char} {a : α}
  {tag : String}

theorem firstSuffix_of_start (h : f s = some a) : firstSuffix f s = some a := by
  cases s with
  | nil => exact h
  | cons c s =>
    unfold firstSuffix
    rw [h, Option.some_or]

theorem exists_of_firstSuffix (h : firstSuffix f s = some a) : ∃ suffix, f suffix = some a := by
  induction s with
  | nil => exact ⟨[], h⟩
  | cons c s ih =>
    unfold firstSuffix at h
    rcases Option.or_eq_some_iff.1 h with h | ⟨-, h⟩
    · exact ⟨c :: s, h⟩
    · exact ih h

theorem readProbeTag_eq_some_iff : readProbeTag s = some (tag, rest) ↔
    tag ≠ "" ∧ ']' ∉ tag.toList ∧ s = "outbound [".toList ++ (tag.toList ++ ']' :: rest) := by
  constructor
  · intro h
    obtain ⟨s', hs, h⟩ := Option.bind_eq_some_iff.1 h
    dsimp only at h
    split at h
    next => cases h
    next hne =>
      obtain ⟨rest', hrest, h⟩ := Option.bind_eq_some_iff.1 h
      obtain ⟨rfl, rfl⟩ := Prod.mk.inj (Option.some.inj h)
      rw [String.toList_ofList]
      refine ⟨by simpa using hne, Text.not_mem_takeWhile_ne ']' s', ?_⟩
      have hdrop : s'.dropWhile (· != ']') = ']' :: rest' := Text.stripStart_eq_some_iff.1 hrest
      rw [Text.stripStart_eq_some_iff.1 hs, ← hdrop, List.takeWhile_append_dropWhile]
  · rintro ⟨hne, hsign, rfl⟩
    have hempty : tag.toList.isEmpty = false := by simpa using hne
    unfold readProbeTag
    rw [Text.stripStart_append]
    simp only [Option.bind_eq_bind, Option.bind_some, Text.takeWhile_ne hsign, Text.dropWhile_ne hsign,
      hempty, String.ofList_toList]
    rfl

theorem isDecimalDigit_m : Text.isDecimalDigit 'm' = false := by decide +kernel

theorem readDelay_written (h : Decimal.Written whole fraction) (rest : List Char) :
    readDelay (whole ++ (Decimal.pointed fraction ++ 'm' :: rest)) =
      some (whole ++ Decimal.pointed fraction, 'm' :: rest) := by
  have hwhole : ∀ c ∈ whole, Text.isDecimalDigit c = true :=
    fun c hc => Text.isDecimalDigit_of_isDigit (h.isDigit_whole c hc)
  have hfraction : ∀ c ∈ fraction, Text.isDecimalDigit c = true :=
    fun c hc => Text.isDecimalDigit_of_isDigit (h.isDigit_fraction c hc)
  have hempty : whole.isEmpty = false := List.isEmpty_eq_false_iff.2 h.whole_ne
  cases fraction with
  | nil =>
    unfold readDelay
    rw [Decimal.pointed, List.nil_append, Text.takeWhile_stop hwhole isDecimalDigit_m,
      Text.dropWhile_stop hwhole isDecimalDigit_m]
    simp [hempty]
  | cons first more =>
    have hpointed : Decimal.pointed (first :: more) = '.' :: (first :: more) := rfl
    unfold readDelay
    rw [hpointed, List.cons_append, Text.takeWhile_stop hwhole isDecimalDigit_dot,
      Text.dropWhile_stop hwhole isDecimalDigit_dot]
    simp only [hempty, Text.takeWhile_stop hfraction isDecimalDigit_m,
      Text.dropWhile_stop hfraction isDecimalDigit_m]
    rfl

/-- what the runtime logs of a probe that took `delay` milliseconds -/
def aliveLine (tag : String) (delay : Decimal) : String :=
  "outbound [" ++ tag ++ "] is alive, delay " ++ Layout.spellPositional "" delay ++ "ms"

theorem toList_aliveLine (tag : String) (delay : Decimal) :
    (aliveLine tag delay).toList = "outbound [".toList ++ (tag.toList ++ ']' :: (" is alive".toList ++
      (", delay ".toList ++ ((Layout.spellPositional "" delay).toList ++ ['m', 's'])))) := by
  unfold aliveLine
  simp only [String.toList_append, List.append_assoc]
  rfl

theorem readAlive_aliveLine (hne : tag ≠ "") (hsign : ']' ∉ tag.toList) (delay : Decimal) :
    readAlive (aliveLine tag delay).toList =
      some (tag, (Layout.spellPositional "" delay).toList) := by
  obtain ⟨whole, fraction, h⟩ := Decimal.exists_spelling delay
  have htag := readProbeTag_eq_some_iff.2 ⟨hne, hsign, toList_aliveLine tag delay⟩
  have hdigits : (", delay ".toList ++ ((whole ++ Decimal.pointed fraction) ++ ['m', 's'])).dropWhile
      (!Text.isDecimalDigit ·) = whole ++ (Decimal.pointed fraction ++ ['m', 's']) := by
    have hdelay : ∀ c ∈ ", delay ".toList, (!Text.isDecimalDigit c) = true := by
      refine List.all_eq_true.1 ?_
      decide +kernel
    obtain ⟨first, more, rfl⟩ := List.exists_cons_of_ne_nil h.whole_ne
    have hfirst : Text.isDecimalDigit first = true :=
      Text.isDecimalDigit_of_isDigit (h.isDigit_whole first List.mem_cons_self)
    rw [List.append_assoc, List.cons_append, Text.dropWhile_stop hdelay (by rw [hfirst]; rfl)]
  unfold readAlive
  rw [htag, h.text]
  simp only [Option.bind_eq_bind, Option.bind_some, Text.stripStart_append]
  rw [hdigits, readDelay_written h.toWritten]
  rfl

theorem not_mem_of_readAlive (h : readAlive s = some (tag, delay)) : ']' ∉ tag.toList := by
  obtain ⟨⟨tag', rest⟩, htag, h⟩ := Option.bind_eq_some_iff.1 h
  obtain ⟨_, -, h⟩ := Option.bind_eq_some_iff.1 h
  obtain ⟨_, -, h⟩ := Option.bind_eq_some_iff.1 h
  obtain ⟨_, -, h⟩ := Option.bind_eq_some_iff.1 h
  obtain ⟨rfl, -⟩ := Prod.mk.inj (Option.some.inj h)
  exact (readProbeTag_eq_some_iff.1 htag).2.1

theorem not_mem_of_readDead (h : readDead s = some (tag, reason)) : ']' ∉ tag.toList := by
  obtain ⟨⟨tag', rest⟩, htag, h⟩ := Option.bind_eq_some_iff.1 h
  obtain ⟨s', -, h⟩ := Option.bind_eq_some_iff.1 h
  dsimp only at h
  split at h
  next => cases h
  next =>
    obtain ⟨rfl, -⟩ := Prod.mk.inj (Option.some.inj h)
    exact (readProbeTag_eq_some_iff.1 htag).2.1

end

theorem not_mem_of_readProbe? {line : String} {o : Observation} (h : readProbe? line = some o) :
    ']' ∉ o.tag.toList := by
  unfold readProbe? at h
  dsimp only at h
  split at h
  next tag delay halive =>
    obtain ⟨suffix, hread⟩ := exists_of_firstSuffix halive
    rw [← Option.some.inj h]
    exact not_mem_of_readAlive hread
  next =>
    obtain ⟨⟨tag, reason⟩, hdead, rfl⟩ := Option.map_eq_some_iff.1 h
    obtain ⟨suffix, hread⟩ := exists_of_firstSuffix hdead
    exact not_mem_of_readDead hread

/-- a line that begins with the word has no time in front of it -/
theorem probeTime?_aliveLine (tag : String) (delay : Decimal) :
    probeTime? (aliveLine tag delay).toList = none := by
  rw [toList_aliveLine]
  rfl

theorem readProbe?_aliveLine {tag : String} (hne : tag ≠ "") (delay : Decimal) :
    readProbe? (aliveLine tag delay) =
        some ⟨tag, true, some (.ofDecimal false delay.digits delay.exponent), none, none⟩ ↔
      ']' ∉ tag.toList := by
  constructor
  · exact not_mem_of_readProbe?
  · intro hsign
    unfold readProbe?
    dsimp only
    rw [firstSuffix_of_start (readAlive_aliveLine hne hsign delay), probeTime?_aliveLine]
    show some (⟨tag, true, Binary64.read? _, none, none⟩ : Observation) = _
    rw [Decimal.read_spellPositional]

/-- **Which tags are found in which report.**  The outbounds behind a reference are traced back to it by
their tags.  A tag is read from the name of its traffic unless the allocation holds `>`, and it is read,
with its delay, from the line about its probe exactly if the allocation does not hold `]`. -/
theorem TagRef.tags_reported (r : TagRef) (t : String) (ht : t ∈ r.tags) (d : Direction)
    (delay : Decimal) :
    TagRef.decode? t = some r ∧
      classify? (outboundName t d) =
        (if '>' ∈ r.allocation.toList then none else some (.outbound t, d)) ∧
      (readProbe? (aliveLine t delay) =
          some ⟨t, true, some (.ofDecimal false delay.digits delay.exponent), none, none⟩ ↔
        ']' ∉ r.allocation.toList) := by
  refine ⟨decode_tag ht, ?_, ?_⟩
  · rw [classify?_outboundName (tag_ne_empty ht)]
    simp only [mem_tag_iff ht (show isLead '>' = false by decide)]
  · rw [readProbe?_aliveLine (tag_ne_empty ht), mem_tag_iff ht (show isLead ']' = false by decide)]

/-- the interconnect of a bridge, whose allocation ends the tag in one of the two reports -/
theorem TagRef.tags_reported_interconnect :
    let r := TagRef.reverse (.rule 1) .bridge 20 7 "eu > us"
    let t := interconnectTag r.encode
    t ∈ r.tags ∧ TagRef.decode? t = some r ∧ classify? (outboundName t .downlink) = none ∧
      readProbe? (aliveLine t ⟨1235, -1⟩) =
        some ⟨t, true, some (.ofDecimal false 1235 (-1)), none, none⟩ := by
  intro r t
  have ht : t ∈ r.tags := TagRef.mem_tags.2 (.inr ⟨rfl, rfl⟩)
  obtain ⟨hdecode, htraffic, hprobe⟩ := TagRef.tags_reported r t ht .downlink ⟨1235, -1⟩
  refine ⟨ht, hdecode, ?_, hprobe.2 (by decide)⟩
  rw [htraffic]
  decide

/-- not every tag is found: each report loses the tags that hold the sign it ends them with -/
theorem TagRef.tags_lost :
    classify? (outboundName (TagRef.reverse (.rule 1) .portal 2 3 "a>b").encode .downlink) = none ∧
      readProbe? (aliveLine (TagRef.reverse (.rule 1) .portal 2 3 "a]b").encode ⟨5, 0⟩) = none := by
  decide +kernel

end ProxyMesh
