import ProxyMesh.Tag.Basic
import ProxyMesh.Proofs.Text.Numerals

/-!
# Tags are read back exactly

Six kinds of tags share the underscore between their fields, and the last field of a reverse tag is
free text that may look like further fields.  It is read correctly because every field before it is a
run of digits, which ends at the first underscore.

* `TagRef.padded`               a tag whose numbers have zeros in front of them;
* `readField_eq_some_iff`, `readOutbound_eq_some_iff`, `readReverse_eq_some_iff`   what each reader
  accepts;
* `decodeChars_eq_some_iff`     what is read as a tag without the mark of an interconnect;
* `decode_encode`, `decode_interconnectTag`   a reference is read back from its tags;
* `decode_exact`                **exactly the tags of a reference, up to zeros in front of its numbers,
                                are read as the reference**.
-/

namespace ProxyMesh
namespace TagRef

/-- how many zeros stand in front of the numbers of a tag -/
structure LeadingZeros where
  scope : Nat
  binding : Nat
  peer : Nat

def LeadingZeros.none : LeadingZeros := ⟨0, 0, 0⟩

/-- the tag of a reference, with zeros in front of its numbers -/
def padded (z : LeadingZeros) : TagRef → String
  | .outbound scope binding =>
    outboundMark scope ++ "_" ++ String.ofList (Text.paddedNumeral z.scope scope.id) ++ "_" ++
      String.ofList (Text.paddedNumeral z.binding binding)
  | .reverse scope side binding peer allocation =>
    reverseMark scope side ++ "_" ++ String.ofList (Text.paddedNumeral z.scope scope.id) ++ "_" ++
      String.ofList (Text.paddedNumeral z.binding binding) ++ "_" ++
      String.ofList (Text.paddedNumeral z.peer peer) ++ "_" ++ allocation

section
variable {s rest : List Char} {r : TagRef} {n b : Id} {scope : Id → Scope} {side : ReverseSide}

theorem ofList_numeral (n : Id) : String.ofList (Text.paddedNumeral 0 n) = toString n := by
  rw [Text.paddedNumeral_zero]
  exact String.ofList_toList

theorem padded_none (r : TagRef) : r.padded .none = r.encode := by
  cases r with
  | outbound scope binding =>
    unfold padded encode LeadingZeros.none
    simp only [ofList_numeral]
  | reverse scope side binding peer allocation =>
    unfold padded encode LeadingZeros.none
    simp only [ofList_numeral]

theorem toList_padded_outbound (z : LeadingZeros) (scope : Scope) (b : Id) :
    ((outbound scope b).padded z).toList =
      (outboundMark scope).toList ++ '_' :: (Text.paddedNumeral z.scope scope.id ++
        '_' :: Text.paddedNumeral z.binding b) := by
  unfold padded
  simp only [String.toList_append, String.toList_ofList, List.append_assoc]
  rfl

theorem toList_padded_reverse (z : LeadingZeros) (scope : Scope) (side : ReverseSide) (b peer : Id)
    (allocation : String) : ((reverse scope side b peer allocation).padded z).toList =
      (reverseMark scope side).toList ++ '_' :: (Text.paddedNumeral z.scope scope.id ++
        '_' :: (Text.paddedNumeral z.binding b ++ '_' :: (Text.paddedNumeral z.peer peer ++
          '_' :: allocation.toList))) := by
  unfold padded
  simp only [String.toList_append, String.toList_ofList, List.append_assoc]
  rfl

/-! ## the readers -/

theorem isDigit_underscore : Text.isDigit '_' = false := by decide

theorem readField_paddedNumeral (zeros : Nat) (n : Id) (rest : List Char) :
    readField (Text.paddedNumeral zeros n ++ '_' :: rest) = some (n, rest) := by
  have htake : Text.takeDigits (Text.paddedNumeral zeros n ++ '_' :: rest) =
      (Text.paddedNumeral zeros n, '_' :: rest) :=
    Text.takeDigits_append (fun _ => Text.isDigit_of_mem_paddedNumeral) isDigit_underscore
  unfold readField
  rw [htake]
  show (Text.readWord (Text.paddedNumeral zeros n)).map (·, rest) = some (n, rest)
  rw [Text.readWord_paddedNumeral]
  rfl

theorem readField_eq_some_iff :
    readField s = some (n, rest) ↔ ∃ zeros, s = Text.paddedNumeral zeros n ++ '_' :: rest := by
  constructor
  · intro h
    unfold readField at h
    split at h
    next digits rest' htake =>
      obtain ⟨m, hm, heq⟩ := Option.map_eq_some_iff.1 h
      obtain ⟨rfl, rfl⟩ := Prod.mk.inj heq
      obtain ⟨zeros, hdigits⟩ := Text.readWord_eq_some_iff.1 hm
      exact ⟨zeros, hdigits ▸ Text.takeDigits_eq htake⟩
    next => cases h
  · rintro ⟨zeros, rfl⟩
    exact readField_paddedNumeral zeros n rest

theorem readOutbound_eq_some_iff : readOutbound scope s = some r ↔
    ∃ n b zn zb, r = .outbound (scope n) b ∧
      s = Text.paddedNumeral zn n ++ '_' :: Text.paddedNumeral zb b := by
  constructor
  · intro h
    obtain ⟨⟨n, rest⟩, hn, h⟩ := Option.bind_eq_some_iff.1 h
    obtain ⟨b, hb, h⟩ := Option.bind_eq_some_iff.1 h
    obtain ⟨zn, hrest⟩ := readField_eq_some_iff.1 hn
    obtain ⟨zb, hword⟩ := Text.readWord_eq_some_iff.1 hb
    exact ⟨n, b, zn, zb, (Option.some.inj h).symm, hword ▸ hrest⟩
  · rintro ⟨n, b, zn, zb, rfl, rfl⟩
    refine Option.bind_eq_some_iff.2 ⟨_, readField_paddedNumeral zn n _, ?_⟩
    exact Option.bind_eq_some_iff.2 ⟨_, Text.readWord_paddedNumeral zb b, rfl⟩

theorem readReverse_eq_some_iff : readReverse scope side s = some r ↔
    ∃ n b peer allocation zn zb zp, r = .reverse (scope n) side b peer allocation ∧
      s = Text.paddedNumeral zn n ++ '_' :: (Text.paddedNumeral zb b ++ '_' ::
        (Text.paddedNumeral zp peer ++ '_' :: allocation.toList)) := by
  constructor
  · intro h
    obtain ⟨⟨n, rest⟩, hn, h⟩ := Option.bind_eq_some_iff.1 h
    obtain ⟨⟨b, rest'⟩, hb, h⟩ := Option.bind_eq_some_iff.1 h
    obtain ⟨⟨peer, text⟩, hp, h⟩ := Option.bind_eq_some_iff.1 h
    obtain ⟨zn, hs⟩ := readField_eq_some_iff.1 hn
    obtain ⟨zb, hrest⟩ := readField_eq_some_iff.1 hb
    obtain ⟨zp, hrest'⟩ := readField_eq_some_iff.1 hp
    refine ⟨n, b, peer, String.ofList text, zn, zb, zp, (Option.some.inj h).symm, ?_⟩
    rw [String.toList_ofList, hs, hrest, hrest']
  · rintro ⟨n, b, peer, allocation, zn, zb, zp, rfl, rfl⟩
    refine Option.bind_eq_some_iff.2 ⟨_, readField_paddedNumeral zn n _, ?_⟩
    refine Option.bind_eq_some_iff.2 ⟨_, readField_paddedNumeral zb b _, ?_⟩
    refine Option.bind_eq_some_iff.2 ⟨_, readField_paddedNumeral zp peer _, ?_⟩
    show some (reverse (scope n) side b peer (String.ofList allocation.toList)) = _
    rw [String.ofList_toList]

/-! ## tags -/

/-- rules or tunnels, whatever the number -/
def sameKind : Scope → Id → Scope
  | .rule _ => .rule
  | .tunnel _ => .tunnel

theorem sameKind_id (scope : Scope) : sameKind scope scope.id = scope := by cases scope <;> rfl

theorem id_sameKind (scope : Scope) (n : Id) : (sameKind scope n).id = n := by cases scope <;> rfl

theorem outboundMark_sameKind (scope : Scope) (n : Id) :
    outboundMark (sameKind scope n) = outboundMark scope := by cases scope <;> rfl

theorem reverseMark_sameKind (scope : Scope) (n : Id) (side : ReverseSide) :
    reverseMark (sameKind scope n) side = reverseMark scope side := by
  cases scope <;> cases side <;> rfl

theorem decodeChars_outboundMark (scope : Scope) (s : List Char) :
    decodeChars ((outboundMark scope).toList ++ '_' :: s) = readOutbound (sameKind scope) s := by
  cases scope <;> simp [outboundMark, decodeChars, sameKind]

theorem decodeChars_reverseMark (scope : Scope) (side : ReverseSide) (s : List Char) :
    decodeChars ((reverseMark scope side).toList ++ '_' :: s) =
      readReverse (sameKind scope) side s := by
  cases scope <;> cases side <;> simp [reverseMark, decodeChars, sameKind]

theorem decodeChars_cases (h : decodeChars s = some r) :
    (∃ scope rest, s = (outboundMark scope).toList ++ '_' :: rest ∧
      readOutbound (sameKind scope) rest = some r) ∨
      ∃ scope side rest, s = (reverseMark scope side).toList ++ '_' :: rest ∧
        readReverse (sameKind scope) side rest = some r := by
  unfold decodeChars at h
  split at h
  · exact Or.inl ⟨.rule 0, _, rfl, h⟩
  · exact Or.inl ⟨.tunnel 0, _, rfl, h⟩
  · exact Or.inr ⟨.rule 0, .bridge, _, rfl, h⟩
  · exact Or.inr ⟨.rule 0, .portal, _, rfl, h⟩
  · exact Or.inr ⟨.tunnel 0, .bridge, _, rfl, h⟩
  · exact Or.inr ⟨.tunnel 0, .portal, _, rfl, h⟩
  · cases h

theorem decodeChars_padded (z : LeadingZeros) (r : TagRef) :
    decodeChars (r.padded z).toList = some r := by
  cases r with
  | outbound scope b =>
    rw [toList_padded_outbound, decodeChars_outboundMark]
    refine readOutbound_eq_some_iff.2 ⟨scope.id, b, z.scope, z.binding, ?_, rfl⟩
    rw [sameKind_id]
  | reverse scope side b peer allocation =>
    rw [toList_padded_reverse, decodeChars_reverseMark]
    refine readReverse_eq_some_iff.2
      ⟨scope.id, b, peer, allocation, z.scope, z.binding, z.peer, ?_, rfl⟩
    rw [sameKind_id]

theorem decodeChars_eq_some_iff : decodeChars s = some r ↔ ∃ z, s = (r.padded z).toList := by
  constructor
  · intro h
    rcases decodeChars_cases h with ⟨scope, rest, rfl, hread⟩ | ⟨scope, side, rest, rfl, hread⟩
    · obtain ⟨n, b, zn, zb, rfl, rfl⟩ := readOutbound_eq_some_iff.1 hread
      refine ⟨⟨zn, zb, 0⟩, ?_⟩
      rw [toList_padded_outbound, id_sameKind, outboundMark_sameKind]
    · obtain ⟨n, b, peer, allocation, zn, zb, zp, rfl, rfl⟩ := readReverse_eq_some_iff.1 hread
      refine ⟨⟨zn, zb, zp⟩, ?_⟩
      rw [toList_padded_reverse, id_sameKind, reverseMark_sameKind]
  · rintro ⟨z, rfl⟩
    exact decodeChars_padded z r

theorem stripStart_padded (z : LeadingZeros) (r : TagRef) :
    Text.stripStart interconnectMark.toList (r.padded z).toList = none := by
  cases r with
  | outbound scope b =>
    rw [toList_padded_outbound]
    cases scope <;> simp [outboundMark, interconnectMark, Text.stripStart]
  | reverse scope side b peer allocation =>
    rw [toList_padded_reverse]
    cases scope <;> cases side <;> simp [reverseMark, interconnectMark, Text.stripStart]

theorem toList_interconnectTag (tag : String) :
    (interconnectTag tag).toList = interconnectMark.toList ++ tag.toList :=
  String.toList_append

end

theorem decode_padded (z : LeadingZeros) (r : TagRef) : decode? (r.padded z) = some r := by
  unfold decode?
  rw [stripStart_padded]
  exact decodeChars_padded z r

theorem decode_encode (r : TagRef) : decode? r.encode = some r := by
  rw [← padded_none]
  exact decode_padded .none r

theorem decode_interconnectTag_padded (z : LeadingZeros) (r : TagRef) :
    decode? (interconnectTag (r.padded z)) = if r.isBridge then some r else none := by
  have hstrip : Text.stripStart interconnectMark.toList (interconnectTag (r.padded z)).toList =
      some (r.padded z).toList :=
    Text.stripStart_eq_some_iff.2 (toList_interconnectTag _)
  unfold decode?
  rw [hstrip]
  show (decodeChars (r.padded z).toList).filter isBridge = _
  rw [decodeChars_padded]
  rfl

theorem decode_interconnectTag (r : TagRef) :
    decode? (interconnectTag r.encode) = if r.isBridge then some r else none := by
  rw [← padded_none]
  exact decode_interconnectTag_padded .none r

theorem decode_eq_some_iff {t : String} {r : TagRef} : decode? t = some r ↔
    ∃ z, t = r.padded z ∨ r.isBridge = true ∧ t = interconnectTag (r.padded z) := by
  constructor
  · intro h
    unfold decode? at h
    split at h
    next rest hstrip =>
      obtain ⟨hrest, hbridge⟩ := Option.filter_eq_some_iff.1 h
      obtain ⟨z, rfl⟩ := decodeChars_eq_some_iff.1 hrest
      refine ⟨z, Or.inr ⟨hbridge, String.toList_inj.1 ?_⟩⟩
      rw [toList_interconnectTag]
      exact Text.stripStart_eq_some_iff.1 hstrip
    next =>
      obtain ⟨z, hz⟩ := decodeChars_eq_some_iff.1 h
      exact ⟨z, Or.inl (String.toList_inj.1 hz)⟩
  · rintro ⟨z, rfl | ⟨hbridge, rfl⟩⟩
    · exact decode_padded z r
    · rw [decode_interconnectTag_padded, if_pos hbridge]

theorem encode_injective : Function.Injective encode := by
  intro r r' h
  have hr := decode_encode r
  rw [h, decode_encode r'] at hr
  exact (Option.some.inj hr).symm

/-- **Tags are read back exactly.**  A reference is read from its tag, and from the interconnect of
its tag if it is a bridge; nothing else is read as the reference, apart from zeros in front of its
numbers.  So no two references share a tag. -/
theorem decode_exact :
    (∀ r : TagRef, decode? r.encode = some r) ∧
      (∀ r : TagRef, decode? (interconnectTag r.encode) = if r.isBridge then some r else none) ∧
      (∀ (t : String) (r : TagRef), decode? t = some r ↔
        ∃ z, t = r.padded z ∨ r.isBridge = true ∧ t = interconnectTag (r.padded z)) ∧
      (∀ r : TagRef, r.padded .none = r.encode) ∧
      ∀ r r' : TagRef, r.encode = r'.encode ↔ r = r' :=
  ⟨decode_encode, decode_interconnectTag, fun _ _ => decode_eq_some_iff, padded_none,
    fun _ _ => encode_injective.eq_iff⟩

end TagRef
end ProxyMesh
