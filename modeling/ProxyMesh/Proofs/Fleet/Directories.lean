import ProxyMesh.Compile.Fleet
import ProxyMesh.Proofs.Compile.Outcomes

/-!
# What the directories of the nodes hold

A directory is written only if it does not hold the artifacts yet.  What is looked at is the digest
of the document, so a directory that seems to hold it may do so by a collision only; the other two
files are compared as texts.

* `Directory.Holds`        the files have the texts of the artifacts, the line of the time aside;
* `compile_built`          a compile states the digest of its document;
* `isCurrent_of_holds`, `holds_of_isCurrent`   a directory that is left alone is one that holds the
                           artifacts, unless two documents have one digest;
* `holds_write`            **after a write the directory holds the artifacts**;
* `write_of_holds`         **what a directory holds is not written again**;
* `directory_write`        a write changes one directory of the fleet;
* `nodeDirectory_inj`      every node has a directory of its own.
-/

namespace ProxyMesh

/-- the artifacts are there; the first line of the stanza is of no account -/
structure Directory.Holds (d : Directory) (a : Artifacts) : Prop where
  config : d.bytes? configFile = some a.configText.toUTF8
  supervisor : (d.text? supervisorFile).map withoutFirstLine = some a.supervisorBody
  files : d.text? filesFile = some a.filesText

/-- the bytes are those of the artifacts' document if they have its digest -/
def Artifacts.Told (a : Artifacts) (bytes : ByteArray) : Prop :=
  Sha256.hexOfBytes bytes = Sha256.hex a.configText → bytes = a.configText.toUTF8

/-! ## texts and lines -/

theorem fromUTF8?_toUTF8 (s : String) : String.fromUTF8? s.toUTF8 = some s :=
  dif_pos s.isValidUTF8

theorem cutAt_cons (c b : Char) (rest : List Char) :
    Text.cutAt [c] (b :: rest) = if c = b then some ([], rest)
      else (Text.cutAt [c] rest).map fun (before, after) => (b :: before, after) := by
  by_cases h : c = b
  · rw [if_pos h]
    simp [Text.cutAt, Text.stripStart, h]
  · rw [if_neg h]
    simp [Text.cutAt, Text.stripStart, h]

theorem count_cutAt {c : Char} {l before after : List Char}
    (h : Text.cutAt [c] l = some (before, after)) : l.count c = after.count c + 1 := by
  induction l generalizing before with
  | nil => cases h
  | cons b rest ih =>
    rw [cutAt_cons] at h
    by_cases hb : c = b
    · rw [if_pos hb] at h
      obtain ⟨-, rfl⟩ := Prod.mk.inj (Option.some.inj h)
      rw [hb, List.count_cons_self]
    · rw [if_neg hb] at h
      obtain ⟨⟨before', after'⟩, hcut, heq⟩ := Option.map_eq_some_iff.1 h
      obtain ⟨-, rfl⟩ := Prod.mk.inj heq
      rw [List.count_cons_of_ne (Ne.symm hb), ih hcut]

/-- a text of two lines or more has something after its first line -/
theorem withoutFirstLine_ne_empty {text : String} (h : 2 ≤ text.toList.count '\n') :
    withoutFirstLine text ≠ "" := by
  unfold withoutFirstLine
  intro hempty
  split at hempty
  next before after hcut =>
    have hafter : after = [] := by simpa using congrArg String.toList hempty
    have hcount := count_cutAt hcut
    rw [hafter, List.count_nil] at hcount
    omega
  · rw [hempty] at h
    simp at h

theorem count_supervisorStanza (binary config : String) (assetsDir : Option String) (now : Nat) :
    2 ≤ (supervisorStanza binary config assetsDir now).toList.count '\n' := by
  have htail : ("autostart=true\nautorestart=true\npriority=10\n" : String).toList.count '\n' = 3 := by
    decide
  unfold supervisorStanza
  rw [String.toList_append, List.count_append, htail]
  omega

/-! ## what a compile states of its artifacts -/

/-- the digest is that of the document, and the stanza has a body -/
structure Artifacts.Built (a : Artifacts) : Prop where
  hash : a.configHash = Sha256.hex a.configText
  body : a.supervisorBody ≠ ""

theorem buildArtifacts_built (c : Context) (s : Store) (path : String) (file : Option FileSpec) :
    (buildArtifacts c s path file).1.Built :=
  ⟨rfl, withoutFirstLine_ne_empty (count_supervisorStanza _ _ _ _)⟩

theorem compile_built {s s' : Store} {o : Options} {id : Id} {now : Nat} {a : Artifacts}
    (h : compile s o id now = (.ok a, s')) : a.Built := by
  obtain ⟨node, path, file, -, hb⟩ := compile_ok h
  rw [← show (buildArtifacts _ _ _ _).1 = a from congrArg Prod.fst hb]
  exact buildArtifacts_built _ _ _ _

/-! ## one directory -/

namespace Directory

variable {d : Directory} {a : Artifacts}

theorem bytes?_putTexts {texts : List (String × String)} (hnodup : (texts.map (·.1)).Nodup)
    {name text : String} (h : (name, text) ∈ texts) (d : Directory) :
    (d.putTexts texts).bytes? name = some text.toUTF8 := by
  have hkeys : ((texts.map fun entry => (entry.1, entry.2.toUTF8)).map key).Nodup := by
    rw [List.map_map]
    exact hnodup
  have hget : (d.putTexts texts).get? name = some (name, text.toUTF8) :=
    Table.get?_putAll_mem hkeys (List.mem_map.2 ⟨_, h, rfl⟩) d
  unfold bytes?
  rw [hget]
  rfl

theorem text?_of_bytes? {name text : String} (h : d.bytes? name = some text.toUTF8) :
    d.text? name = some text := by
  unfold text?
  rw [h]
  exact fromUTF8?_toUTF8 text

theorem holds_putTexts (d : Directory) (a : Artifacts) : (d.putTexts a.writes).Holds a := by
  have hnodup : (a.writes.map (·.1)).Nodup :=
    show [supervisorFile, filesFile, configFile].Nodup by decide
  have hfile : ∀ {name text}, (name, text) ∈ a.writes →
      (d.putTexts a.writes).bytes? name = some text.toUTF8 := fun h => bytes?_putTexts hnodup h d
  refine ⟨hfile (by simp [Artifacts.writes]), ?_, text?_of_bytes? (hfile (by simp [Artifacts.writes]))⟩
  have hstanza : (supervisorFile, a.supervisor) ∈ a.writes := by simp [Artifacts.writes]
  rw [text?_of_bytes? (hfile hstanza)]
  rfl

theorem isCurrent_of_holds (hb : a.Built) (h : d.Holds a) : a.isCurrent d = true := by
  unfold Artifacts.isCurrent
  obtain ⟨text, htext, hbody⟩ := Option.map_eq_some_iff.1 h.supervisor
  rw [h.config, htext, h.files, hb.hash]
  simp [hbody, Sha256.hex]

theorem holds_of_isCurrent (hb : a.Built) (ht : ∀ bytes, d.bytes? configFile = some bytes → a.Told bytes)
    (h : a.isCurrent d = true) : d.Holds a := by
  unfold Artifacts.isCurrent at h
  rw [Bool.and_eq_true, Bool.and_eq_true, beq_iff_eq, beq_iff_eq, beq_iff_eq, hb.hash] at h
  obtain ⟨⟨hconfig, hbody⟩, hfiles⟩ := h
  refine ⟨?_, ?_, hfiles⟩
  · obtain ⟨bytes, hbytes, hdigest⟩ := Option.map_eq_some_iff.1 hconfig
    rw [hbytes, ht bytes hbytes hdigest]
  · cases htext : d.text? supervisorFile with
    | some text =>
      rw [htext] at hbody
      exact congrArg some hbody
    | none =>
      rw [htext] at hbody
      exact absurd hbody.symm hb.body

/-- **after a write the directory holds the artifacts** -/
theorem holds_write (hb : a.Built) (ht : ∀ bytes, d.bytes? configFile = some bytes → a.Told bytes) :
    (d.write a).2.Holds a := by
  unfold write
  split
  next h => exact holds_of_isCurrent hb ht h
  · exact holds_putTexts d a

/-- **what a directory holds is not written again** -/
theorem write_of_holds (hb : a.Built) (h : d.Holds a) : d.write a = (false, d) := by
  unfold write
  rw [if_pos (isCurrent_of_holds hb h)]

/-- the document of a directory is the one that was there or the one that was written -/
theorem bytes?_write (d : Directory) (a : Artifacts) :
    (d.write a).2.bytes? configFile = d.bytes? configFile ∨
      (d.write a).2.bytes? configFile = some a.configText.toUTF8 := by
  unfold write
  split
  · exact Or.inl rfl
  · exact Or.inr (holds_putTexts d a).config

end Directory

/-! ## all directories -/

namespace Fleet

theorem directory_write (f : Fleet) (name : String) (a : Artifacts) (name' : String) :
    (f.write name a).2.directory name' =
      if name' = name then ((f.directory name).write a).2 else f.directory name' := by
  unfold write Directory.write
  cases h : a.isCurrent (f.directory name) with
  | true =>
    by_cases hn : name' = name
    · rw [if_pos hn, hn]
      rfl
    · rw [if_neg hn]
      rfl
  | false =>
    show (((f.directories.put (name, (f.directory name).putTexts a.writes)).get? name').map
      (·.2)).getD Table.empty = _
    by_cases hn : name' = name
    · have hput : (f.directories.put (name, (f.directory name).putTexts a.writes)).get? name =
          some (name, (f.directory name).putTexts a.writes) := Table.get?_put_some rfl
      rw [if_pos hn, hn, hput]
      rfl
    · have hput : (f.directories.put (name, (f.directory name).putTexts a.writes)).get? name' =
          f.directories.get? name' := Table.get?_put_ne _ hn
      rw [if_neg hn, hput]
      rfl

theorem nodeDirectory_inj {a b : Id} (h : nodeDirectory a = nodeDirectory b) : a = b := by
  unfold nodeDirectory at h
  have hlist := congrArg String.toList h
  rw [String.toList_append, String.toList_append] at hlist
  have hdigits : (toString a).toList = (toString b).toList := List.append_cancel_left hlist
  have hnat : Nat.toDigits 10 a.toNat = Nat.toDigits 10 b.toNat := by
    rw [← Nat.toList_repr, ← Nat.toList_repr]
    exact hdigits
  have hval := congrArg (Nat.ofDigitChars 10 · 0) hnat
  simp only [Nat.ofDigitChars_ten_toDigits] at hval
  exact UInt64.toNat_inj.1 hval

end Fleet
end ProxyMesh
