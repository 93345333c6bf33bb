import ProxyMesh.Proofs.Json.Records
import ProxyMesh.Topology.Documents

/-!
# The documents of the records read back

Every record is read back from its document, if its numbers have the widths that they are read with
and its free arguments hold no binary64 number and are not nested too deep.

* `Json.Within`, `Json.Portable`        arguments that are read back, and within a snapshot;
* `Json.Proper`, `Json.reread?`         any arguments, and what is read of them;
* `Balancer.Fits`, `Binding.Fits`, ...  the numbers of a record have their widths;
* `Node.documented`, `Binding.documented`, ...   a record is read back;
* `Plan.decode_compact`, `Period.decode_compact`   **what is read of a record with any arguments**;
* `Snapshot.documented`                 **so is a whole snapshot**.
-/

namespace ProxyMesh

open Json (Documented)

/-- no binary64 number, fields in order, and at most `limit` containers inside each other -/
structure Json.Within (limit : Nat) (v : Json) : Prop where
  whole : v.Whole
  ordered : v.Ordered
  nesting : v.nesting ≤ limit

/-- at most 124 containers: the snapshot, the list and the record around them are three more -/
abbrev Json.Portable (v : Json) : Prop := v.Within 124

theorem Json.Within.documented {limit : Nat} {v : Json} (h : v.Within limit) :
    Documented .value limit v v :=
  (Documented.value h.whole.inRange h.ordered h.whole.reprinted?).mono h.nesting

namespace Json

/-- numbers in the range, fields in order -/
structure Proper (v : Json) : Prop where
  inRange : v.InRange
  ordered : v.Ordered

/-- arguments of a record as they are read of its text, if they are not nested too deep -/
def reread? (v : Json) : Option Json := if v.nesting ≤ 126 then v.reprinted? else none

section
variable {v : Json} (h : v.Proper)
include h

theorem documented_of_reread {w : Json} (hread : v.reread? = some w) : Documented .value 126 v w := by
  obtain ⟨hnesting, hread⟩ := Option.ite_none_right_eq_some.1 hread
  exact (Documented.value h.inRange h.ordered hread).mono hnesting

/-- arguments that are not read are a field that is not read -/
theorem withDefault_of_reread {r : Decoder.Found} {name : String} (hread : v.reread? = none)
    (hdepth : r.depth = 126) (hfield : r.field? name = some v.printedTree) :
    r.withDefault name .null Decoder.value = none := by
  unfold Decoder.Found.withDefault
  rw [hfield]
  show Tree.value? r.depth v.printedTree = none
  rw [hdepth, value?_printed h.ordered]
  exact hread

end
end Json

/-! ## nodes and programs -/

theorem Node.documented (n : Node) : Documented decoder 2 n.toJson n := by
  have hid := Documented.ofWord n.id
  have hname := Documented.str n.name
  have harchitecture := Documented.str n.architecture
  have haddress := Documented.ofText n.address
  have henabled := Documented.bool n.runtimeEnabled
  have hfiles := Documented.ofTexts n.files
  refine .record rfl (by decide) ⟨hid.inRange, hname.inRange, harchitecture.inRange, haddress.inRange,
    henabled.inRange, hfiles.inRange, trivial⟩ fun r hdepth hsees => ?_
  simp only [hid.required (by omega) (hsees 0 _ _ rfl), hname.required (by omega) (hsees 1 _ _ rfl),
    harchitecture.required (by omega) (hsees 2 _ _ rfl),
    haddress.optional (by omega) (hsees 3 _ _ rfl),
    henabled.withDefault (by omega) (hsees 4 _ _ rfl),
    hfiles.withDefault (by omega) (hsees 5 _ _ rfl)]
  rfl

theorem Binary.documented (b : Binary) : Documented decoder 1 b.toJson b := by
  have harchitecture := Documented.str b.architecture
  have hsource := Documented.str b.source
  have hhash := Documented.str b.hash
  refine .record rfl (by decide) ⟨harchitecture.inRange, hsource.inRange, hhash.inRange, trivial⟩
    fun r hdepth hsees => ?_
  simp only [harchitecture.required (by omega) (hsees 0 _ _ rfl),
    hsource.required (by omega) (hsees 1 _ _ rfl), hhash.required (by omega) (hsees 2 _ _ rfl)]
  rfl

theorem Installed.documented (c : Installed) : Documented decoder 1 c.toJson c := by
  have hnode := Documented.ofWord c.nodeId
  have hpath := Documented.str c.path
  refine .record rfl (by decide) ⟨hnode.inRange, hpath.inRange, trivial⟩ fun r hdepth hsees => ?_
  simp only [hnode.required (by omega) (hsees 0 _ _ rfl), hpath.required (by omega) (hsees 1 _ _ rfl)]
  rfl

theorem Program.documented (p : Program) : Documented decoder 3 p.toJson p := by
  have hname := Documented.str p.name
  have hbinaries := Documented.ofList (l := p.binaries) fun b _ => b.documented
  have hinstalled := Documented.ofList (l := p.installed) fun c _ => c.documented
  refine .record rfl (by decide) ⟨hname.inRange, hbinaries.inRange, hinstalled.inRange, trivial⟩
    fun r hdepth hsees => ?_
  simp only [hname.required (by omega) (hsees 0 _ _ rfl),
    hbinaries.withDefault (by omega) (hsees 1 _ _ rfl),
    hinstalled.withDefault (by omega) (hsees 2 _ _ rfl)]
  rfl

theorem Site.documented (s : Site) : Documented decoder 2 s.toJson s := by
  have hruntime := Documented.ofText s.runtimeProgram
  have hgeosite := Documented.ofText s.geositeProgram
  have hgeoip := Documented.ofText s.geoipProgram
  have hbase := Documented.ofText s.baseTemplate
  have hseed := Documented.str s.reverseSeed
  have hdomain := Documented.str s.userDomain
  have hfiles := Documented.ofTexts s.files
  refine .record rfl (by decide) ⟨hruntime.inRange, hgeosite.inRange, hgeoip.inRange, hbase.inRange,
    hseed.inRange, hdomain.inRange, hfiles.inRange, trivial⟩ fun r hdepth hsees => ?_
  simp only [hruntime.withDefault (by omega) (hsees 0 _ _ rfl),
    hgeosite.withDefault (by omega) (hsees 1 _ _ rfl),
    hgeoip.withDefault (by omega) (hsees 2 _ _ rfl), hbase.withDefault (by omega) (hsees 3 _ _ rfl),
    hseed.withDefault (by omega) (hsees 4 _ _ rfl), hdomain.withDefault (by omega) (hsees 5 _ _ rfl),
    hfiles.withDefault (by omega) (hsees 6 _ _ rfl)]
  rfl

/-! ## rules, tunnels and their hops -/

theorem Rule.documented (u : Rule) : Documented decoder 1 u.toJson u := by
  have hid := Documented.ofWord u.id
  have hname := Documented.str u.name
  have horigin := Documented.str u.originRegion
  have hdestination := Documented.str u.destinationRegion
  have hrules := Documented.str u.rulesTemplate
  refine .record rfl (by decide) ⟨hid.inRange, hname.inRange, horigin.inRange, hdestination.inRange,
    hrules.inRange, trivial⟩ fun r hdepth hsees => ?_
  simp only [hid.required (by omega) (hsees 0 _ _ rfl), hname.required (by omega) (hsees 1 _ _ rfl),
    horigin.withDefault (by omega) (hsees 2 _ _ rfl),
    hdestination.withDefault (by omega) (hsees 3 _ _ rfl),
    hrules.withDefault (by omega) (hsees 4 _ _ rfl)]
  rfl

namespace Scope

/-- the scope of this kind with some id -/
def make : Scope → Id → Scope
  | .rule _ => .rule
  | .tunnel _ => .tunnel

theorem kind_documented (s : Scope) :
    Documented (.oneOf [("rule", Scope.rule), ("tunnel", Scope.tunnel)]) 0 (.str s.kind) s.make := by
  cases s <;> exact ⟨trivial, fun _ _ => rfl⟩

theorem documented (s : Scope) : Documented decoder 1 s.toJson s := by
  have hkind := s.kind_documented
  have hid := Documented.ofWord s.id
  refine .record rfl (by decide) ⟨hkind.inRange, hid.inRange, trivial⟩ fun r hdepth hsees => ?_
  simp only [hkind.required (by omega) (hsees 0 _ _ rfl), hid.required (by omega) (hsees 1 _ _ rfl)]
  cases s <;> rfl

end Scope

namespace Balancer

structure Fits (b : Balancer) : Prop where
  baselines : ∀ n ∈ b.baselinesMs, n < wordBound
  maxRtt : ∀ n ∈ b.maxRttMs, n < wordBound

theorem documented {b : Balancer} (h : b.Fits) : Documented decoder 2 b.toJson b := by
  have hscope := b.scope.documented
  have hname := Documented.str b.name
  have hstrategy := Documented.ofText b.strategyTemplate
  have hbaselines := Documented.ofList fun n hn => .nat (h.baselines n hn)
  have hmaxRtt := Documented.ofTime h.maxRtt
  refine .record rfl (by decide) ⟨hscope.inRange, hname.inRange, hstrategy.inRange, hbaselines.inRange,
    hmaxRtt.inRange, trivial⟩ fun r hdepth hsees => ?_
  simp only [hscope.required (by omega) (hsees 0 _ _ rfl), hname.required (by omega) (hsees 1 _ _ rfl),
    hstrategy.optional (by omega) (hsees 2 _ _ rfl),
    hbaselines.withDefault (by omega) (hsees 3 _ _ rfl),
    hmaxRtt.optional (by omega) (hsees 4 _ _ rfl)]
  rfl

end Balancer

theorem port_documented {n : Nat} (h : n < 0x10000) : Documented portDecoder 0 (.ofNat n) n :=
  .ofNat (by decide) h

theorem weight_documented {n : Nat} (h : n < halfWordBound) : Documented weightDecoder 0 (.ofNat n) n :=
  .ofNat (by decide) h

theorem Endpoint.documented {e : Endpoint} (h : e.port < 0x10000) : Documented decoder 1 e.toJson e := by
  have haddress := Documented.str e.address
  have hport := port_documented h
  have hsni := Documented.ofText e.sni
  have hhost := Documented.ofText e.hostHeader
  refine .record rfl (by decide) ⟨haddress.inRange, hport.inRange, hsni.inRange, hhost.inRange, trivial⟩
    fun r hdepth hsees => ?_
  simp only [haddress.required (by omega) (hsees 0 _ _ rfl),
    hport.required (by omega) (hsees 1 _ _ rfl),
    hsni.optional (by omega) (hsees 2 _ _ rfl), hhost.optional (by omega) (hsees 3 _ _ rfl)]
  rfl

theorem Connector.documented {c : Connector} (h : ∀ e ∈ c.endpoint, e.port < 0x10000) :
    Documented decoder 2 c.toJson c := by
  have htemplate := Documented.str c.outboundTemplate
  have htype := Documented.ofText c.inboundType
  have hdest := Documented.ofWords c.destNodeId
  have hendpoint := Documented.ofOption (f := Endpoint.toJson) (fun _ => nofun) fun e he =>
    Endpoint.documented (h e he)
  refine .record rfl (by decide) ⟨htemplate.inRange, htype.inRange, hdest.inRange, hendpoint.inRange, trivial⟩
    fun r hdepth hsees => ?_
  simp only [htemplate.required (by omega) (hsees 0 _ _ rfl),
    htype.optional (by omega) (hsees 1 _ _ rfl), hdest.optional (by omega) (hsees 2 _ _ rfl),
    hendpoint.optional (by omega) (hsees 3 _ _ rfl)]
  rfl

theorem Allocation.documented {a : Allocation} (h : a.weight < halfWordBound) :
    Documented decoder 1 a.toJson a := by
  have hbalancer := Documented.str a.balancer
  have hweight := weight_documented h
  refine .record rfl (by decide) ⟨hbalancer.inRange, hweight.inRange, trivial⟩ fun r hdepth hsees => ?_
  simp only [hbalancer.required (by omega) (hsees 0 _ _ rfl),
    hweight.required (by omega) (hsees 1 _ _ rfl)]
  rfl

namespace Binding

structure Fits (b : Binding) : Prop where
  endpoint : ∀ e ∈ b.connector.endpoint, e.port < 0x10000
  weights : ∀ a ∈ b.allocations, a.weight < halfWordBound

theorem portal_documented (node : Id) : Documented portalDecoder 1 (portalToJson node) node := by
  have hnode := Documented.ofWord node
  refine .record rfl (by decide) ⟨hnode.inRange, trivial⟩ fun r hdepth hsees => ?_
  exact hnode.required (by omega) (hsees 0 _ _ rfl)

theorem documented {b : Binding} (h : b.Fits) : Documented decoder 3 b.toJson b := by
  have hid := Documented.ofWord b.id
  have hname := Documented.str b.name
  have hscope := b.scope.documented
  have hnode := Documented.ofWord b.nodeId
  have hreverse := Documented.ofOption (o := b.portalNodeId) (f := portalToJson) (fun _ => nofun)
    fun n _ => portal_documented n
  have hconnector := Connector.documented h.endpoint
  have hallocations := Documented.ofList fun a ha => Allocation.documented (h.weights a ha)
  refine .record rfl (by decide) ⟨hid.inRange, hname.inRange, hscope.inRange, hnode.inRange, hreverse.inRange,
    hconnector.inRange, hallocations.inRange, trivial⟩ fun r hdepth hsees => ?_
  simp only [hid.required (by omega) (hsees 0 _ _ rfl), hname.required (by omega) (hsees 1 _ _ rfl),
    hscope.required (by omega) (hsees 2 _ _ rfl), hnode.required (by omega) (hsees 3 _ _ rfl),
    hreverse.optional (by omega) (hsees 4 _ _ rfl),
    hconnector.required (by omega) (hsees 5 _ _ rfl),
    hallocations.withDefault (by omega) (hsees 6 _ _ rfl)]
  rfl

end Binding

namespace Tunnel

structure Fits (t : Tunnel) : Prop where
  listenPort : t.listenPort < 0x10000
  targetPort : t.targetPort < 0x10000

theorem documented {t : Tunnel} (h : t.Fits) : Documented decoder 1 t.toJson t := by
  have hid := Documented.ofWord t.id
  have hsource := Documented.ofWord t.sourceNodeId
  have hdest := Documented.ofWord t.destNodeId
  have hlisten := port_documented h.listenPort
  have haddress := Documented.str t.targetAddress
  have htarget := port_documented h.targetPort
  have hbalancer := Documented.str t.balancer
  have hseed := Documented.str t.seed
  refine .record rfl (by decide) ⟨hid.inRange, hsource.inRange, hdest.inRange, hlisten.inRange,
    haddress.inRange, htarget.inRange, hbalancer.inRange, hseed.inRange, trivial⟩ fun r hdepth hsees => ?_
  simp only [hid.required (by omega) (hsees 0 _ _ rfl), hsource.required (by omega) (hsees 1 _ _ rfl),
    hdest.required (by omega) (hsees 2 _ _ rfl),
    hlisten.required (by omega) (hsees 3 _ _ rfl),
    haddress.required (by omega) (hsees 4 _ _ rfl),
    htarget.required (by omega) (hsees 5 _ _ rfl),
    hbalancer.required (by omega) (hsees 6 _ _ rfl), hseed.required (by omega) (hsees 7 _ _ rfl)]
  rfl

end Tunnel

/-! ## endpoints -/

theorem InboundType.documented (i : InboundType) : Documented decoder 1 i.toJson i := by
  have hname := Documented.str i.name
  have hactive := Documented.bool i.isActive
  have htemplate := Documented.bool i.isTemplate
  have hinbound := Documented.str i.inboundTemplate
  have hconsumer := Documented.str i.consumerTemplate
  refine .record rfl (by decide) ⟨hname.inRange, hactive.inRange, htemplate.inRange, hinbound.inRange,
    hconsumer.inRange, trivial⟩ fun r hdepth hsees => ?_
  simp only [hname.required (by omega) (hsees 0 _ _ rfl), hactive.required (by omega) (hsees 1 _ _ rfl),
    htemplate.withDefault (by omega) (hsees 2 _ _ rfl),
    hinbound.required (by omega) (hsees 3 _ _ rfl),
    hconsumer.withDefault (by omega) (hsees 4 _ _ rfl)]
  rfl

theorem FixedInbound.documented (i : FixedInbound) : Documented decoder 1 i.toJson i := by
  have hid := Documented.ofWord i.id
  have hnode := Documented.ofWords i.nodeId
  have htemplate := Documented.str i.template
  refine .record rfl (by decide) ⟨hid.inRange, hnode.inRange, htemplate.inRange, trivial⟩
    fun r hdepth hsees => ?_
  simp only [hid.required (by omega) (hsees 0 _ _ rfl), hnode.optional (by omega) (hsees 1 _ _ rfl),
    htemplate.required (by omega) (hsees 2 _ _ rfl)]
  rfl

/-! ## subscriptions -/

theorem Profile.documented (p : Profile) : Documented decoder 1 p.toJson p := by
  have hid := Documented.ofWord p.id
  have hactive := Documented.bool p.isActive
  have huuid := Documented.str p.proxyUuid
  refine .record rfl (by decide) ⟨hid.inRange, hactive.inRange, huuid.inRange, trivial⟩
    fun r hdepth hsees => ?_
  simp only [hid.required (by omega) (hsees 0 _ _ rfl), hactive.required (by omega) (hsees 1 _ _ rfl),
    huuid.required (by omega) (hsees 2 _ _ rfl)]
  rfl

namespace Plan

theorem inRange {p : Plan} (h : p.providerArgs.InRange) : p.toJson.InRange :=
  ⟨(Documented.ofWord p.id).inRange, (Documented.ofWord p.ruleId).inRange, trivial, h, trivial⟩

theorem documented {limit : Nat} {p : Plan} {args : Json} (h : Documented .value limit p.providerArgs args) :
    Documented decoder (limit + 1) p.toJson { p with providerArgs := args } := by
  have hid := Documented.ofWord p.id
  have hrule := Documented.ofWord p.ruleId
  have hkey := Documented.str p.providerKey
  refine .record rfl (by decide) (inRange h.inRange) fun r hdepth hsees => ?_
  simp only [hid.required (by omega) (hsees 0 _ _ rfl), hrule.required (by omega) (hsees 1 _ _ rfl),
    hkey.required (by omega) (hsees 2 _ _ rfl), h.withDefault (by omega) (hsees 3 _ _ rfl)]
  rfl

theorem decode_compact {p : Plan} (h : p.providerArgs.Proper) :
    Json.decode decoder p.toJson.compact =
      p.providerArgs.reread?.map fun args => { p with providerArgs := args } := by
  cases hread : p.providerArgs.reread? with
  | some args => exact (documented (Json.documented_of_reread h hread)).decode_compact (Nat.le_refl _)
  | none =>
    refine Json.decode_record_eq_none rfl (by decide) (inRange h.inRange) fun r hdepth hsees => ?_
    rw [Json.withDefault_of_reread h hread hdepth (hsees 3 _ _ rfl)]
    simp

end Plan

namespace Counter

structure Fits (c : Counter) : Prop where
  flowPoint : ∀ n ∈ c.flowPointAt, n < wordBound
  flow : c.flow.download < wordBound ∧ c.flow.upload < wordBound
  current : c.current.download < wordBound ∧ c.current.upload < wordBound
  lastSync : ∀ n ∈ c.lastFlowSyncAt, n < wordBound

theorem documented {c : Counter} (h : c.Fits) : Documented decoder 1 c.toJson c := by
  have hpoint := Documented.ofTime h.flowPoint
  have hflowDown := Documented.nat h.flow.1
  have hflowUp := Documented.nat h.flow.2
  have hcurrentDown := Documented.nat h.current.1
  have hcurrentUp := Documented.nat h.current.2
  have hsync := Documented.ofTime h.lastSync
  refine .record rfl (by decide) ⟨hpoint.inRange, hflowDown.inRange, hflowUp.inRange, hcurrentDown.inRange,
    hcurrentUp.inRange, hsync.inRange, trivial⟩ fun r hdepth hsees => ?_
  simp only [hpoint.withDefault (by omega) (hsees 0 _ _ rfl),
    hflowDown.withDefault (by omega) (hsees 1 _ _ rfl),
    hflowUp.withDefault (by omega) (hsees 2 _ _ rfl),
    hcurrentDown.withDefault (by omega) (hsees 3 _ _ rfl),
    hcurrentUp.withDefault (by omega) (hsees 4 _ _ rfl),
    hsync.withDefault (by omega) (hsees 5 _ _ rfl)]
  rfl

end Counter

namespace Claim

theorem op_documented (op : ClaimOp) : Documented opDecoder 0 (.str (opWord op)) op := by
  cases op <;> exact ⟨trivial, fun _ _ => rfl⟩

theorem documented {c : Claim} (h : c.expiresAt < wordBound) : Documented decoder 1 c.toJson c := by
  have hop := op_documented c.op
  have huntil := Documented.nat h
  refine .record rfl (by decide) ⟨hop.inRange, huntil.inRange, trivial⟩ fun r hdepth hsees => ?_
  simp only [hop.required (by omega) (hsees 0 _ _ rfl), huntil.required (by omega) (hsees 1 _ _ rfl)]
  rfl

end Claim

structure Window.Fits (w : Window) : Prop where
  first : ∀ n ∈ w.first, n < wordBound
  last : ∀ n ∈ w.last, n < wordBound

namespace Period

/-- the numbers have their widths -/
structure Sized (p : Period) : Prop where
  usage : p.usage.Fits
  counter : p.counter.Fits
  claim : ∀ c ∈ p.claim, c.expiresAt < wordBound

/-- the numbers have their widths, and the arguments nest at most so deep -/
structure Within (limit : Nat) (p : Period) : Prop extends p.Sized where
  planArgs : p.planArgs.Within limit

abbrev Fits (p : Period) : Prop := p.Within 124

section
variable {p : Period} (h : p.Sized)
include h

theorem claim_documented :
    Documented (.optional Claim.decoder) 1 (Json.ofOption Claim.toJson p.claim) p.claim :=
  .ofOption (fun _ => nofun) fun c hc => Claim.documented (h.claim c hc)

theorem inRange (hargs : p.planArgs.InRange) : p.toJson.InRange :=
  ⟨(Documented.ofWord p.id).inRange, (Documented.ofWord p.profileId).inRange,
    (Documented.ofWord p.planId).inRange, hargs, trivial, (Documented.ofTime h.usage.first).inRange,
    (Documented.ofTime h.usage.last).inRange, (Counter.documented h.counter).inRange,
    (claim_documented h).inRange, trivial⟩

theorem documented {limit : Nat} {args : Json} (hlimit : 1 ≤ limit)
    (hargs : Documented .value limit p.planArgs args) :
    Documented decoder (limit + 1) p.toJson { p with planArgs := args } := by
  have hid := Documented.ofWord p.id
  have hprofile := Documented.ofWord p.profileId
  have hplan := Documented.ofWord p.planId
  have hcurrent := Documented.bool p.isCurrent
  have hfirst := Documented.ofTime h.usage.first
  have hlast := Documented.ofTime h.usage.last
  have hcounter := Counter.documented h.counter
  have hclaim := claim_documented h
  refine .record rfl (by decide) (inRange h hargs.inRange) fun r hdepth hsees => ?_
  simp only [hid.required (by omega) (hsees 0 _ _ rfl), hprofile.required (by omega) (hsees 1 _ _ rfl),
    hplan.required (by omega) (hsees 2 _ _ rfl), hargs.withDefault (by omega) (hsees 3 _ _ rfl),
    hcurrent.required (by omega) (hsees 4 _ _ rfl), hfirst.optional (by omega) (hsees 5 _ _ rfl),
    hlast.optional (by omega) (hsees 6 _ _ rfl), hcounter.withDefault (by omega) (hsees 7 _ _ rfl),
    hclaim.withDefault (by omega) (hsees 8 _ _ rfl)]
  rfl

theorem decode_compact (hargs : p.planArgs.Proper) :
    Json.decode decoder p.toJson.compact =
      p.planArgs.reread?.map fun args => { p with planArgs := args } := by
  cases hread : p.planArgs.reread? with
  | some args =>
    exact (documented h (by decide) (Json.documented_of_reread hargs hread)).decode_compact
      (Nat.le_refl _)
  | none =>
    refine Json.decode_record_eq_none rfl (by decide) (inRange h hargs.inRange) fun r hdepth hsees => ?_
    rw [Json.withDefault_of_reread hargs hread hdepth (hsees 3 _ _ rfl)]
    simp

end
end Period

theorem InternalUser.documented {u : InternalUser} (h : u.usage.Fits) :
    Documented decoder 1 u.toJson u := by
  have hrule := Documented.ofWord u.ruleId
  have hnode := Documented.ofWord u.nodeId
  have hactive := Documented.bool u.isActive
  have huuid := Documented.str u.proxyUuid
  have hfirst := Documented.ofTime h.first
  have hlast := Documented.ofTime h.last
  refine .record rfl (by decide) ⟨hrule.inRange, hnode.inRange, hactive.inRange, huuid.inRange, hfirst.inRange,
    hlast.inRange, trivial⟩ fun r hdepth hsees => ?_
  simp only [hrule.required (by omega) (hsees 0 _ _ rfl), hnode.required (by omega) (hsees 1 _ _ rfl),
    hactive.required (by omega) (hsees 2 _ _ rfl), huuid.required (by omega) (hsees 3 _ _ rfl),
    hfirst.optional (by omega) (hsees 4 _ _ rfl), hlast.optional (by omega) (hsees 5 _ _ rfl)]
  rfl

/-! ## the whole -/

namespace Snapshot

/-- all numbers have their widths, and the free arguments are portable -/
structure Fits (d : Snapshot) : Prop where
  balancers : ∀ b ∈ d.balancers, b.Fits
  bindings : ∀ b ∈ d.bindings, b.Fits
  tunnels : ∀ t ∈ d.tunnels, t.Fits
  plans : ∀ p ∈ d.plans, p.providerArgs.Portable
  periods : ∀ p ∈ d.periods, p.Fits
  internalUsers : ∀ u ∈ d.internalUsers, u.usage.Fits

/-- **a snapshot is read back from its document** -/
theorem documented {d : Snapshot} (h : d.Fits) : Documented decoder 127 d.toJson d := by
  have hsite := Documented.ofOption (o := d.site) (f := Site.toJson) (fun _ => nofun) fun s _ => s.documented
  have hnodes := Documented.ofList (l := d.nodes) fun n _ => n.documented
  have hprograms := Documented.ofList (l := d.programs) fun p _ => p.documented
  have hrules := Documented.ofList (l := d.rules) fun u _ => u.documented
  have hbalancers := Documented.ofList fun b hb => Balancer.documented (h.balancers b hb)
  have hbindings := Documented.ofList fun b hb => Binding.documented (h.bindings b hb)
  have htunnels := Documented.ofList fun t ht => Tunnel.documented (h.tunnels t ht)
  have htypes := Documented.ofList (l := d.inboundTypes) fun i _ => i.documented
  have hfixed := Documented.ofList (l := d.fixedInbounds) fun i _ => i.documented
  have hprofiles := Documented.ofList (l := d.profiles) fun p _ => p.documented
  have hplans := Documented.ofList fun p hp => Plan.documented (h.plans p hp).documented
  have hperiods := Documented.ofList fun p hp =>
    Period.documented (h.periods p hp).toSized (by decide) (h.periods p hp).planArgs.documented
  have husers := Documented.ofList fun u hu => InternalUser.documented (h.internalUsers u hu)
  refine .record rfl (by decide) ⟨hsite.inRange, hnodes.inRange, hprograms.inRange, hrules.inRange,
    hbalancers.inRange, hbindings.inRange, htunnels.inRange, htypes.inRange, hfixed.inRange, hprofiles.inRange,
    hplans.inRange, hperiods.inRange, husers.inRange, trivial⟩ fun r hdepth hsees => ?_
  simp only [hsite.withDefault (by omega) (hsees 0 _ _ rfl),
    hnodes.withDefault (by omega) (hsees 1 _ _ rfl), hprograms.withDefault (by omega) (hsees 2 _ _ rfl),
    hrules.withDefault (by omega) (hsees 3 _ _ rfl),
    hbalancers.withDefault (by omega) (hsees 4 _ _ rfl),
    hbindings.withDefault (by omega) (hsees 5 _ _ rfl),
    htunnels.withDefault (by omega) (hsees 6 _ _ rfl), htypes.withDefault (by omega) (hsees 7 _ _ rfl),
    hfixed.withDefault (by omega) (hsees 8 _ _ rfl),
    hprofiles.withDefault (by omega) (hsees 9 _ _ rfl),
    hplans.withDefault (by omega) (hsees 10 _ _ rfl),
    hperiods.withDefault (by omega) (hsees 11 _ _ rfl),
    husers.withDefault (by omega) (hsees 12 _ _ rfl)]
  rfl

end Snapshot
end ProxyMesh
