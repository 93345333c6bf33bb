import ProxyMesh.Proofs.Fleet.Directories
import ProxyMesh.Proofs.Json.Records

/-!
# Directories are complete or written again

The artifacts are written file by file, and a write may stop between two of them.  Nothing on the disk
says so: the next write looks at all three files again, whatever they hold, and leaves the directory
alone only if it holds everything.

* `FileSpec.decoder`        a file of the list as it is read back;
* `Directory.Matches`       the three files are those of the artifacts, the first line of the stanza aside;
* `Artifacts.Stated`        the digest is that of the document, and the stanza has lines below its first;
* `isCurrent_iff_matches`   a directory is left alone exactly if it matches;
* `Directory.writeSome`, `writesCut`   a write that stops after some of its files, and such writes one
                            after the other;
* `document_writesCut`      the document that they leave is the one before or one of theirs;
* `write_completes`         **after any writes that stopped, a write of compiled artifacts that does not
                            stop finds the directory complete or completes it**.
-/

namespace ProxyMesh

def modeDecoder : Json.Decoder UInt32 := (Json.Decoder.natBelow halfWordBound).map UInt32.ofNat

/-- a file of the list as it is read back -/
def FileSpec.decoder : Json.Decoder FileSpec :=
  Json.Decoder.record ["dest", "url", "content", "hash", "mode"] fun r => do
    pure {
      dest := ← r.required "dest" Json.Decoder.text
      url := ← r.optional "url" Json.Decoder.text
      content := ← r.optional "content" Json.Decoder.text
      hash := ← r.optional "hash" Json.Decoder.text
      mode := ← r.required "mode" modeDecoder }

/-- the three files are those of the artifacts; the stanza may have another first line -/
structure Directory.Matches (d : Directory) (a : Artifacts) : Prop where
  config : d.bytes? configFile = some a.configText.toUTF8
  files : d.bytes? filesFile = some (Json.pretty (.ofList FileSpec.toJson a.files)).toUTF8
  supervisor : ∃ line : String, '\n' ∉ line.toList ∧
    d.bytes? supervisorFile = some (line ++ "\n" ++ a.supervisorBody).toUTF8

/-- what a compile states of its artifacts: the digest of the document, and a stanza with lines below
the one of its time -/
structure Artifacts.Stated (a : Artifacts) : Prop where
  hash : a.configHash = Sha256.hex a.configText
  lines : 2 ≤ a.supervisor.toList.count '\n'

/-! ## the list of files -/

open Json (Documented) in
theorem mode_documented (n : UInt32) : Documented modeDecoder 0 (.ofNat n.toNat) n := by
  have hnat : Documented (.natBelow halfWordBound) 0 (.ofNat n.toNat) n.toNat :=
    .ofNat (by decide) n.toNat_lt
  refine ⟨hnat.inRange, fun depth hdepth => ?_⟩
  show (Json.Decoder.natBelow halfWordBound depth (Json.ofNat n.toNat).printedTree).map UInt32.ofNat = some n
  rw [hnat.read depth hdepth, Option.map_some, UInt32.ofNat_toNat]

open Json (Documented) in
theorem FileSpec.documented (f : FileSpec) : Documented decoder 1 f.toJson f := by
  have hdest := Documented.str f.dest
  have hurl := Documented.ofText f.url
  have hcontent := Documented.ofText f.content
  have hhash := Documented.ofText f.hash
  have hmode := mode_documented f.mode
  refine .record rfl (by decide) ⟨hdest.inRange, hurl.inRange, hcontent.inRange, hhash.inRange, hmode.inRange,
    trivial⟩ fun r hdepth hsees => ?_
  simp only [hdest.required (by omega) (hsees 0 _ _ rfl), hurl.optional (by omega) (hsees 1 _ _ rfl),
    hcontent.optional (by omega) (hsees 2 _ _ rfl), hhash.optional (by omega) (hsees 3 _ _ rfl),
    hmode.required (by omega) (hsees 4 _ _ rfl)]
  rfl

theorem decode_files (files : List FileSpec) :
    Json.decode (.list FileSpec.decoder) (Json.pretty (.ofList FileSpec.toJson files)) = some files :=
  (Json.Documented.ofList fun f _ => f.documented).decode_pretty (by decide)

/-! ## texts and lines -/

/-- a text is cut at the first place where the character stands -/
theorem cutAt_eq_some_iff {c : Char} {l before after : List Char} :
    Text.cutAt [c] l = some (before, after) ↔ l = before ++ c :: after ∧ c ∉ before := by
  induction l generalizing before with
  | nil => simp [Text.cutAt]
  | cons b rest ih =>
    rw [cutAt_cons]
    by_cases hb : c = b
    · subst hb
      cases before with
      | nil => simp [eq_comm]
      | cons d more => simp +contextual [eq_comm]
    · rw [if_neg hb, Option.map_eq_some_iff]
      cases before with
      | nil => simp [Ne.symm hb]
      | cons d more =>
        rw [List.cons_append, List.cons.injEq, List.mem_cons, not_or]
        constructor
        · rintro ⟨⟨before, after⟩, hcut, heq⟩
          obtain ⟨hcons, rfl⟩ := Prod.mk.inj heq
          obtain ⟨rfl, rfl⟩ := List.cons.inj hcons
          exact ⟨⟨rfl, (ih.1 hcut).1⟩, hb, (ih.1 hcut).2⟩
        · rintro ⟨⟨rfl, hrest⟩, -, hmore⟩
          exact ⟨(more, after), ih.2 ⟨hrest, hmore⟩, rfl⟩

theorem cutAt_eq_none_iff {c : Char} {l : List Char} : Text.cutAt [c] l = none ↔ c ∉ l := by
  induction l with
  | nil => simp [Text.cutAt]
  | cons b rest ih =>
    rw [cutAt_cons, List.mem_cons, not_or, ← ih]
    by_cases hb : c = b <;> simp [hb]

theorem withoutFirstLine_line {line : String} (h : '\n' ∉ line.toList) (body : String) :
    withoutFirstLine (line ++ "\n" ++ body) = body := by
  have hcut : Text.cutAt ['\n'] (line ++ "\n" ++ body).toList = some (line.toList, body.toList) := by
    rw [cutAt_eq_some_iff, and_iff_left h, String.toList_append, String.toList_append,
      List.append_assoc]
    rfl
  unfold withoutFirstLine
  rw [hcut]
  exact String.ofList_toList

/-- a text is its first line and the rest, or has one line only -/
theorem eq_line_or_withoutFirstLine (text : String) :
    (∃ line : String, '\n' ∉ line.toList ∧ text = line ++ "\n" ++ withoutFirstLine text) ∨
      ('\n' ∉ text.toList ∧ withoutFirstLine text = text) := by
  unfold withoutFirstLine
  cases hcut : Text.cutAt ['\n'] text.toList with
  | none => exact Or.inr ⟨cutAt_eq_none_iff.1 hcut, rfl⟩
  | some cut =>
    obtain ⟨before, after⟩ := cut
    obtain ⟨htext, hbefore⟩ := cutAt_eq_some_iff.1 hcut
    refine Or.inl ⟨String.ofList before, ?_, ?_⟩
    · rwa [String.toList_ofList]
    · apply String.toList_inj.1
      rw [htext]
      simp

/-- the bytes of a file that spell a text are those of the text -/
theorem bytes_of_fromUTF8? {bytes : ByteArray} {text : String}
    (h : String.fromUTF8? bytes = some text) : bytes = text.toUTF8 := by
  unfold String.fromUTF8? at h
  split at h
  · obtain rfl := Option.some.inj h
    rfl
  · cases h

/-! ## what is left alone -/

namespace Artifacts

theorem Stated.below {a : Artifacts} (h : a.Stated) : '\n' ∈ a.supervisorBody.toList := by
  have hcount := h.lines
  rcases eq_line_or_withoutFirstLine a.supervisor with ⟨line, hline, htext⟩ | ⟨hnone, -⟩
  · rw [htext, String.toList_append, String.toList_append, List.count_append, List.count_append,
      List.count_eq_zero_of_not_mem hline] at hcount
    have hone : "\n".toList.count '\n' = 1 := by decide
    have hbelow : 0 < (withoutFirstLine a.supervisor).toList.count '\n' := by omega
    exact List.count_pos_iff.1 hbelow
  · rw [List.count_eq_zero_of_not_mem hnone] at hcount
    omega

theorem Stated.built {a : Artifacts} (h : a.Stated) : a.Built :=
  ⟨h.hash, withoutFirstLine_ne_empty h.lines⟩

end Artifacts

theorem compile_stated {s s' : Store} {o : Options} {id : Id} {now : Nat} {a : Artifacts}
    (h : compile s o id now = (.ok a, s')) : a.Stated := by
  obtain ⟨node, path, file, -, hb⟩ := compile_ok h
  rw [← show (buildArtifacts _ _ _ _).1 = a from congrArg Prod.fst hb]
  exact ⟨rfl, count_supervisorStanza _ _ _ _⟩

namespace Directory

variable {d : Directory} {a : Artifacts} {name : String}

theorem text?_eq_some_iff {text : String} :
    d.text? name = some text ↔ d.bytes? name = some text.toUTF8 := by
  refine ⟨fun h => ?_, text?_of_bytes?⟩
  obtain ⟨bytes, hbytes, htext⟩ := Option.bind_eq_some_iff.1 h
  rw [hbytes, bytes_of_fromUTF8? htext]

/-- a stanza without line ends is no stanza of a compile -/
theorem matches_iff_holds (ha : a.Stated) : d.Matches a ↔ d.Holds a := by
  constructor
  · rintro ⟨hconfig, hfiles, line, hline, hstanza⟩
    refine ⟨hconfig, ?_, text?_of_bytes? hfiles⟩
    rw [text?_of_bytes? hstanza, Option.map_some, withoutFirstLine_line hline]
  · rintro ⟨hconfig, hstanza, hfiles⟩
    refine ⟨hconfig, text?_eq_some_iff.1 hfiles, ?_⟩
    obtain ⟨text, htext, hbody⟩ := Option.map_eq_some_iff.1 hstanza
    rcases eq_line_or_withoutFirstLine text with ⟨line, hline, hlines⟩ | ⟨hnone, hone⟩
    · refine ⟨line, hline, ?_⟩
      rw [← hbody, ← hlines]
      exact text?_eq_some_iff.1 htext
    · rw [← hone, hbody] at hnone
      exact absurd ha.below hnone

/-- **a directory is left alone exactly if it matches**, unless another document has the digest -/
theorem isCurrent_iff_matches (ha : a.Stated)
    (ht : ∀ bytes, d.bytes? configFile = some bytes → a.Told bytes) :
    a.isCurrent d = true ↔ d.Matches a := by
  rw [matches_iff_holds ha]
  exact ⟨holds_of_isCurrent ha.built ht, isCurrent_of_holds ha.built⟩

/-! ## what is written -/

/-- a file holds what it held before or one of the texts that are written -/
theorem bytes?_putTexts_cases {texts : List (String × String)} (hnodup : (texts.map (·.1)).Nodup)
    (d : Directory) (name : String) :
    (∃ text, (name, text) ∈ texts ∧ (d.putTexts texts).bytes? name = some text.toUTF8) ∨
      ((∀ text, (name, text) ∉ texts) ∧ (d.putTexts texts).bytes? name = d.bytes? name) := by
  by_cases h : ∃ text, (name, text) ∈ texts
  · obtain ⟨text, htext⟩ := h
    exact Or.inl ⟨text, htext, bytes?_putTexts hnodup htext d⟩
  · refine Or.inr ⟨fun text htext => h ⟨text, htext⟩, ?_⟩
    unfold putTexts bytes?
    rw [Table.get?_putAll_ne]
    rintro _ hfile rfl
    obtain ⟨⟨name, text⟩, htext, rfl⟩ := List.mem_map.1 hfile
    exact h ⟨text, htext⟩

theorem nodup_writes (a : Artifacts) : (a.writes.map (·.1)).Nodup :=
  show [supervisorFile, filesFile, configFile].Nodup by decide

/-- a write that stops after this many of its files -/
def writeSome (d : Directory) (a : Artifacts) (count : Nat) : Directory :=
  if a.isCurrent d then d else d.putTexts (a.writes.take count)

/-- one write after the other, each of which stops after some of its files -/
def writesCut (d : Directory) (cut : List (Artifacts × Nat)) : Directory :=
  cut.foldl (fun d w => d.writeSome w.1 w.2) d

/-- the documents that are compared when these artifacts are written -/
def documents (d : Directory) (l : List Artifacts) : List ByteArray :=
  (d.bytes? configFile).toList ++ l.map (·.configText.toUTF8)

/-- no two documents have one digest -/
def NoCollision (documents : List ByteArray) : Prop :=
  ∀ x ∈ documents, ∀ y ∈ documents, Sha256.hexOfBytes x = Sha256.hexOfBytes y → x = y

theorem document_writeSome (d : Directory) (a : Artifacts) (count : Nat) :
    (d.writeSome a count).bytes? configFile = d.bytes? configFile ∨
      (d.writeSome a count).bytes? configFile = some a.configText.toUTF8 := by
  unfold writeSome
  split
  · exact Or.inl rfl
  · have hnodup : ((a.writes.take count).map (·.1)).Nodup :=
      (nodup_writes a).sublist ((List.take_sublist _ _).map _)
    rcases bytes?_putTexts_cases hnodup d configFile with ⟨text, htext, h⟩ | ⟨-, h⟩
    · -- the one text that is written under this name is the document
      have hname : text = a.configText := by
        have hmem : (configFile, text) ∈ a.writes := List.mem_of_mem_take htext
        simpa [Artifacts.writes, configFile, supervisorFile, filesFile] using hmem
      exact Or.inr (hname ▸ h)
    · exact Or.inl h

theorem document_writesCut {cut : List (Artifacts × Nat)} {bytes : ByteArray}
    (h : (d.writesCut cut).bytes? configFile = some bytes) :
    bytes ∈ d.documents (cut.map (·.1)) := by
  induction cut generalizing d with
  | nil => exact List.mem_append_left _ (Option.mem_toList.2 h)
  | cons w rest ih =>
    rcases List.mem_append.1 (ih h) with hbefore | hlater
    · rcases document_writeSome d w.1 w.2 with hkept | hnew
      · rw [hkept] at hbefore
        exact List.mem_append_left _ hbefore
      · rw [hnew, Option.toList_some, List.mem_singleton] at hbefore
        rw [hbefore]
        exact List.mem_append_right _ List.mem_cons_self
    · exact List.mem_append_right _ (List.mem_cons_of_mem _ hlater)

/-- **Directories are complete or written again.**  Whatever the three files held, and whatever
artifacts were on their way when writes stopped: a write that does not stop changes nothing exactly if
the directory matches its artifacts, and else puts all three files there; so the directory matches, the
files to install are read back from it, and the same write again finds it so. -/
theorem write_completes {s s' : Store} {o : Options} {id : Id} {now : Nat}
    (hok : compile s o id now = (.ok a, s')) (d : Directory) (cut : List (Artifacts × Nat))
    (hsha : NoCollision (d.documents (a :: cut.map (·.1)))) :
    let left := d.writesCut cut
    let done := (left.write a).2
    (left.write a = (false, left) ↔ left.Matches a) ∧
      (¬ left.Matches a → (left.write a).1 = true ∧
        done.bytes? configFile = some a.configText.toUTF8 ∧
        done.bytes? filesFile = some (Json.pretty (.ofList FileSpec.toJson a.files)).toUTF8 ∧
        done.bytes? supervisorFile = some a.supervisor.toUTF8 ∧
        ∀ name, name ∉ [supervisorFile, filesFile, configFile] → done.bytes? name = left.bytes? name) ∧
      done.Matches a ∧
      (done.text? filesFile).bind (Json.decode (.list FileSpec.decoder)) = some a.files ∧
      done.write a = (false, done) := by
  intro left done
  have ha : a.Stated := compile_stated hok
  have htold : ∀ bytes, left.bytes? configFile = some bytes → a.Told bytes := by
    intro bytes hbytes
    have hmem : bytes ∈ d.documents (a :: cut.map (·.1)) := by
      rcases List.mem_append.1 (document_writesCut hbytes) with h | h
      · exact List.mem_append_left _ h
      · exact List.mem_append_right _ (List.mem_cons_of_mem _ h)
    exact hsha bytes hmem _ (List.mem_append_right _ List.mem_cons_self)
  have hdone : done.Holds a := holds_write ha.built htold
  refine ⟨⟨fun h => ?_, fun h => write_of_holds ha.built ((matches_iff_holds ha).1 h)⟩, fun h => ?_,
    (matches_iff_holds ha).2 hdone, ?_, write_of_holds ha.built hdone⟩
  · rw [matches_iff_holds ha]
    have hsame : done = left := congrArg Prod.snd h
    exact hsame ▸ hdone
  · have hwrite : left.write a = (true, left.putTexts a.writes) :=
      if_neg fun hcurrent => h ((isCurrent_iff_matches ha htold).1 hcurrent)
    have hput : done = left.putTexts a.writes := congrArg Prod.snd hwrite
    have hfile : ∀ {name text}, (name, text) ∈ a.writes → done.bytes? name = some text.toUTF8 :=
      fun hmem => hput ▸ bytes?_putTexts (nodup_writes a) hmem left
    refine ⟨congrArg Prod.fst hwrite, hfile (by simp [Artifacts.writes]),
      hfile (by simp [Artifacts.writes, Artifacts.filesText]), hfile (by simp [Artifacts.writes]),
      fun name hname => ?_⟩
    rcases bytes?_putTexts_cases (nodup_writes a) left name with ⟨text, htext, -⟩ | ⟨-, hkept⟩
    · have hwritten : name ∈ a.writes.map (·.1) := List.mem_map.2 ⟨_, htext, rfl⟩
      exact absurd hwritten hname
    · exact hput ▸ hkept
  · rw [hdone.files, Option.bind_some]
    exact decode_files a.files

/-! ## an update that stops

What is on the disk comes from an older write, and an update to artifacts without files to install stops
before its document.  The node is compiled anew. -/

section

/-- a stanza of one line, a list of files that is no text, and no document -/
def leftovers : Directory :=
  .ofList [(supervisorFile, "autostart=true".toUTF8), (filesFile, ⟨#[255]⟩)]

def runtimeStore : Store := { Store.empty with
  site := some { Site.default with runtimeProgram := some "xray" }
  nodes := .ofList [⟨1, "edge-1", "amd64", none, true, .empty⟩]
  programs := .ofList [⟨"xray", [], [⟨1, "/usr/bin/xray"⟩]⟩] }

/-- the stanza and the list of files get there, the document would have been next -/
def stoppedUpdate (a : Artifacts) : List (Artifacts × Nat) := [({ a with files := [] }, 2)]

theorem isCurrent_leftovers (a : Artifacts) : a.isCurrent leftovers = false := by
  have hdocument : leftovers.bytes? configFile = none := by decide +kernel
  unfold Artifacts.isCurrent
  rw [hdocument]
  rfl

/-- the document itself is among the files to install -/
theorem files_ne_nil {s s' : Store} {o : Options} {id : Id} {now : Nat}
    (hok : compile s o id now = (.ok a, s')) : a.files ≠ [] := by
  obtain ⟨node, path, file, -, hb⟩ := compile_ok hok
  rw [← show (buildArtifacts _ _ _ _).1 = a from congrArg Prod.fst hb]
  simp [buildArtifacts]

theorem write_completes_stoppedUpdate :
    ∃ a s', compile runtimeStore ⟨"/srv", ""⟩ 1 0 = (.ok a, s') ∧
      NoCollision (leftovers.documents (a :: (stoppedUpdate a).map (·.1))) ∧
      ¬ (leftovers.writesCut (stoppedUpdate a)).Matches a ∧
      ((leftovers.writesCut (stoppedUpdate a)).write a).2.Matches a := by
  have hstarts : runtimeStore.refusal? ⟨"/srv", ""⟩ 1 = none := by decide +kernel
  obtain ⟨a, s', hok⟩ := compile_of_refusal hstarts 0
  have hdocuments : leftovers.documents (a :: (stoppedUpdate a).map (·.1)) =
      [a.configText.toUTF8, a.configText.toUTF8] := by
    have hdocument : leftovers.bytes? configFile = none := by decide +kernel
    unfold documents
    rw [hdocument]
    rfl
  have hsha : NoCollision (leftovers.documents (a :: (stoppedUpdate a).map (·.1))) := by
    intro x hx y hy _
    rw [hdocuments] at hx hy
    simp only [List.mem_cons, List.not_mem_nil, or_false, or_self] at hx hy
    rw [hx, hy]
  have hleft : leftovers.writesCut (stoppedUpdate a) =
      leftovers.putTexts ((Artifacts.writes { a with files := [] }).take 2) := by
    unfold stoppedUpdate writesCut writeSome
    rw [List.foldl_cons, isCurrent_leftovers, if_neg Bool.false_ne_true, List.foldl_nil]
  refine ⟨a, s', hok, hsha, fun h => ?_, (write_completes hok leftovers (stoppedUpdate a) hsha).2.2.1⟩
  have hnone : (leftovers.writesCut (stoppedUpdate a)).bytes? filesFile =
      some (Json.pretty (.ofList FileSpec.toJson [])).toUTF8 := by
    have hnodup := (nodup_writes { a with files := [] }).sublist ((List.take_sublist 2 _).map _)
    rw [hleft]
    exact bytes?_putTexts hnodup (List.mem_cons_of_mem _ List.mem_cons_self) _
  have hsame := String.toByteArray_inj.1 (Option.some.inj (hnone.symm.trans h.files))
  have hread := decode_files a.files
  rw [← hsame, decode_files] at hread
  exact files_ne_nil hok (Option.some.inj hread).symm

end

end Directory

end ProxyMesh
