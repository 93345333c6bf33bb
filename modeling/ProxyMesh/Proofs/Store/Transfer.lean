import ProxyMesh.Proofs.Tables
import ProxyMesh.Proofs.Topology.Documents
import ProxyMesh.Store.Basic

/-!
# A store carried to another one

A store is exported, printed, read and imported.  Nothing is lost on the way: the records of the one
store take the places of those with their keys, and all other records of the other store stay.

* `Store.Fits`            what a store has to keep to for its document to be read back;
* `Store.Overlays`        a store holds the records of one store, and beside them those of another;
* `overlays_import`       the import of an export;
* `Overlays.unique`       there is one such store;
* `transfer_lossless`     **the printed export of a store, imported into another one, loses nothing**.
-/

namespace ProxyMesh
namespace Store

/-- The numbers have the widths that records are read with, and the free arguments of plans and periods
hold no binary64 number and nest at most 124 containers. -/
def Fits (s : Store) : Prop := s.exportSnapshot.Fits

/-- every key of `s` holds the record of `s`, every other one that of `t` -/
structure Overlays (s t u : Store) : Prop where
  site : u.site = s.site.or t.site
  nodes : ∀ k, u.nodes.get? k = (s.nodes.get? k).or (t.nodes.get? k)
  programs : ∀ k, u.programs.get? k = (s.programs.get? k).or (t.programs.get? k)
  rules : ∀ k, u.rules.get? k = (s.rules.get? k).or (t.rules.get? k)
  balancers : ∀ k, u.balancers.get? k = (s.balancers.get? k).or (t.balancers.get? k)
  bindings : ∀ k, u.bindings.get? k = (s.bindings.get? k).or (t.bindings.get? k)
  tunnels : ∀ k, u.tunnels.get? k = (s.tunnels.get? k).or (t.tunnels.get? k)
  inboundTypes : ∀ k, u.inboundTypes.get? k = (s.inboundTypes.get? k).or (t.inboundTypes.get? k)
  fixedInbounds : ∀ k, u.fixedInbounds.get? k = (s.fixedInbounds.get? k).or (t.fixedInbounds.get? k)
  profiles : ∀ k, u.profiles.get? k = (s.profiles.get? k).or (t.profiles.get? k)
  plans : ∀ k, u.plans.get? k = (s.plans.get? k).or (t.plans.get? k)
  periods : ∀ k, u.periods.get? k = (s.periods.get? k).or (t.periods.get? k)
  internalUsers : ∀ k, u.internalUsers.get? k = (s.internalUsers.get? k).or (t.internalUsers.get? k)

section
variable {s t u u' : Store}

theorem overlays_import (s t : Store) : Overlays s t (t.importSnapshot s.exportSnapshot) where
  site := by
    unfold importSnapshot exportSnapshot
    cases s.site <;> rfl
  nodes := t.nodes.get?_putAll_records s.nodes
  programs := t.programs.get?_putAll_records s.programs
  rules := t.rules.get?_putAll_records s.rules
  balancers := t.balancers.get?_putAll_records s.balancers
  bindings := t.bindings.get?_putAll_records s.bindings
  tunnels := t.tunnels.get?_putAll_records s.tunnels
  inboundTypes := t.inboundTypes.get?_putAll_records s.inboundTypes
  fixedInbounds := t.fixedInbounds.get?_putAll_records s.fixedInbounds
  profiles := t.profiles.get?_putAll_records s.profiles
  plans := t.plans.get?_putAll_records s.plans
  periods := t.periods.get?_putAll_records s.periods
  internalUsers := t.internalUsers.get?_putAll_records s.internalUsers

theorem Overlays.unique (h : Overlays s t u) (h' : Overlays s t u') : u = u' := by
  have hsite : u.site = u'.site := h.site.trans h'.site.symm
  have hnodes : u.nodes = u'.nodes := Table.ext_get? fun k => (h.nodes k).trans (h'.nodes k).symm
  have hprograms : u.programs = u'.programs :=
    Table.ext_get? fun k => (h.programs k).trans (h'.programs k).symm
  have hrules : u.rules = u'.rules := Table.ext_get? fun k => (h.rules k).trans (h'.rules k).symm
  have hbalancers : u.balancers = u'.balancers :=
    Table.ext_get? fun k => (h.balancers k).trans (h'.balancers k).symm
  have hbindings : u.bindings = u'.bindings :=
    Table.ext_get? fun k => (h.bindings k).trans (h'.bindings k).symm
  have htunnels : u.tunnels = u'.tunnels :=
    Table.ext_get? fun k => (h.tunnels k).trans (h'.tunnels k).symm
  have htypes : u.inboundTypes = u'.inboundTypes :=
    Table.ext_get? fun k => (h.inboundTypes k).trans (h'.inboundTypes k).symm
  have hfixed : u.fixedInbounds = u'.fixedInbounds :=
    Table.ext_get? fun k => (h.fixedInbounds k).trans (h'.fixedInbounds k).symm
  have hprofiles : u.profiles = u'.profiles :=
    Table.ext_get? fun k => (h.profiles k).trans (h'.profiles k).symm
  have hplans : u.plans = u'.plans := Table.ext_get? fun k => (h.plans k).trans (h'.plans k).symm
  have hperiods : u.periods = u'.periods :=
    Table.ext_get? fun k => (h.periods k).trans (h'.periods k).symm
  have husers : u.internalUsers = u'.internalUsers :=
    Table.ext_get? fun k => (h.internalUsers k).trans (h'.internalUsers k).symm
  cases u
  cases u'
  congr

theorem overlays_empty (s : Store) : Overlays s empty s := by
  constructor <;> first | exact fun k => Option.or_none.symm | exact Option.or_none.symm

theorem overlays_self (s : Store) : Overlays s s s := by
  constructor <;> first | exact fun k => Option.or_self.symm | exact Option.or_self.symm

/-- **The printed export of a store, imported into another one, loses nothing.**  Both ways to print it
are read as the snapshot that was exported. -/
theorem transfer_lossless (h : s.Fits) (t : Store) :
    ∃ d, (∀ text ∈ [s.exportSnapshot.toJson.pretty, s.exportSnapshot.toJson.compact],
        Json.decode Snapshot.decoder text = some d) ∧
      Overlays s t (t.importSnapshot d) ∧ empty.importSnapshot d = s ∧ s.importSnapshot d = s := by
  have hdocument := Snapshot.documented h
  refine ⟨s.exportSnapshot, fun text htext => ?_, overlays_import s t,
    (overlays_import s empty).unique (overlays_empty s),
    (overlays_import s s).unique (overlays_self s)⟩
  rcases List.mem_cons.1 htext with rfl | htext
  · exact hdocument.decode_pretty (Nat.le_refl _)
  · obtain rfl := List.mem_singleton.1 htext
    exact hdocument.decode_compact (Nat.le_refl _)

end

/-! ## a record of every kind -/

/-- texts with escapes, the largest numbers, and every choice that a record leaves -/
def everyKind : Store where
  site := some ⟨some "xray", none, some "geoip", some "\x7b\x7d", "seed \"1\"", "relay.local",
    .ofList [("a\\b", "line\nline")]⟩
  nodes := .ofList [⟨18446744073709551615, "ünïcode", "amd64", some "192.0.2.1", true,
    .ofList [("key", "\x01"), ("cert", "")]⟩]
  programs := .ofList [⟨"xray", [⟨"amd64", "https://example.com/x", "é"⟩], [⟨2, "/usr/bin/xray"⟩]⟩]
  rules := .ofList [⟨7, "rule", "eu", "us", "\t"⟩]
  balancers := .ofList [⟨.rule 7, "main", none, [5, 18446744073709551615], some 250⟩,
    ⟨.tunnel 7, "main", some "\x7b\x7d", [], none⟩]
  bindings := .ofList [⟨1, "hop", .tunnel 7, 2, some 3,
    ⟨"out", some "vless", some 4, some ⟨"host", 65535, none, some "sni"⟩⟩, [⟨"main", 4294967295⟩]⟩]
  tunnels := .ofList [⟨7, 1, 2, 443, "127.0.0.1", 65535, "main", "seed"⟩]
  inboundTypes := .ofList [⟨"vless", true, false, "in", ""⟩]
  fixedInbounds := .ofList [⟨1, none, "all"⟩, ⟨2, some 2, "one"⟩]
  profiles := .ofList [⟨5, false, "uuid"⟩]
  plans := .ofList [⟨6, 7, "quota", .obj [("limit", .int (-1)), ("tags", .arr [.str "a", .null])]⟩]
  periods := .ofList [⟨8, 5, 6, .arr [.bool true, .obj []], true, ⟨some 1, some 2⟩,
    ⟨some 3, ⟨4, 5⟩, ⟨6, 18446744073709551615⟩, none⟩, some ⟨.forwardFlowPoint, 99⟩⟩]
  internalUsers := .ofList [⟨7, 2, true, "uuid", ⟨none, some 10⟩⟩]

/-- another node with one key, and a rule that the other store does not have -/
def older : Store := { empty with
  nodes := .ofList [⟨18446744073709551615, "before", "arm64", none, false, .empty⟩]
  rules := .ofList [⟨9, "kept", "", "", ""⟩] }

theorem fits_everyKind : everyKind.Fits where
  balancers b hb := by
    have hall : ∀ b ∈ everyKind.balancers.records,
        (∀ n ∈ b.baselinesMs, n < wordBound) ∧ ∀ n ∈ b.maxRttMs, n < wordBound := by decide +kernel
    exact ⟨(hall b hb).1, (hall b hb).2⟩
  bindings b hb := by
    have hall : ∀ b ∈ everyKind.bindings.records, (∀ e ∈ b.connector.endpoint, e.port < 0x10000) ∧
        ∀ a ∈ b.allocations, a.weight < halfWordBound := by decide +kernel
    exact ⟨(hall b hb).1, (hall b hb).2⟩
  tunnels t ht := by
    have hall : ∀ t ∈ everyKind.tunnels.records, t.listenPort < 0x10000 ∧ t.targetPort < 0x10000 := by
      decide +kernel
    exact ⟨(hall t ht).1, (hall t ht).2⟩
  plans p hp := by
    obtain rfl := List.mem_singleton.1 (Table.mem_of_mem_ofList hp)
    exact ⟨by simp [Json.Whole, Json.WholeFields, Json.WholeItems, signedBound, wordBound],
      ⟨by unfold Ascending; decide +kernel, trivial, ⟨trivial, trivial, trivial⟩, trivial⟩, by decide⟩
  periods p hp := by
    obtain rfl := List.mem_singleton.1 (Table.mem_of_mem_ofList hp)
    exact ⟨⟨⟨by decide, by decide⟩, ⟨by decide, by decide, by decide, by decide⟩, by decide⟩,
      ⟨trivial, trivial, trivial⟩, ⟨trivial, ⟨List.Pairwise.nil, trivial⟩, trivial⟩, by decide⟩
  internalUsers u hu := by
    obtain rfl := List.mem_singleton.1 (Table.mem_of_mem_ofList hu)
    exact ⟨by decide, by decide⟩

theorem transfer_lossless_everyKind :
    everyKind.Fits ∧ ∃ d, Json.decode Snapshot.decoder everyKind.exportSnapshot.toJson.pretty = some d ∧
      Overlays everyKind older (older.importSnapshot d) ∧ everyKind ≠ older.importSnapshot d ∧
      empty.importSnapshot d = everyKind := by
  obtain ⟨d, hread, hover, hempty, -⟩ := transfer_lossless fits_everyKind older
  refine ⟨fits_everyKind, d, hread _ List.mem_cons_self, hover, fun hsame => ?_, hempty⟩
  have hkept : (older.importSnapshot d).rules.get? 9 = some ⟨9, "kept", "", "", ""⟩ := by
    rw [hover.rules]
    decide +kernel
  rw [← hsame] at hkept
  exact absurd hkept (by decide +kernel)

end Store
end ProxyMesh
