import ProxyMesh.Json.Basic
import ProxyMesh.Settings.Basic
import ProxyMesh.Toml.Fault
import ProxyMesh.Toml.Printer

/-!
# The document of settings

* `Settings.read`       the settings of a TOML document, or the place of its first fault; what it leaves
                        out has its usual value;
* `Settings.document`   the document that says all settings;
* `Settings.toJson`     the settings as JSON.
-/

namespace ProxyMesh

open Toml.Decoder (field)

/-- whole numbers of 64 bits, of which a document holds those of 63 -/
def Toml.Decoder.seconds : Toml.Decoder Nat := Toml.Decoder.natBelow wordBound

def StoreSettings.decoder : Toml.Decoder StoreSettings :=
  Toml.Decoder.record ["path"] fun r => do
    let usual : StoreSettings := {}
    pure { path := ← field r "path" usual.path Toml.Decoder.text }

def CompilerSettings.decoder : Toml.Decoder CompilerSettings :=
  Toml.Decoder.record ["work_dir", "base_url", "output_dir", "interval_secs"] fun r => do
    let usual : CompilerSettings := {}
    pure {
      workDir := ← field r "work_dir" usual.workDir Toml.Decoder.text
      baseUrl := ← field r "base_url" usual.baseUrl Toml.Decoder.text
      outputDir := ← field r "output_dir" usual.outputDir Toml.Decoder.text
      intervalSecs := ← field r "interval_secs" usual.intervalSecs Toml.Decoder.seconds }

def AccountingSettings.decoder : Toml.Decoder AccountingSettings :=
  Toml.Decoder.record ["batch_size", "regulate_seconds", "flow_point_retention_seconds",
      "min_activity_gap_secs", "claim_lease_secs", "correction_factor", "sync_interval_secs",
      "forward_interval_secs"] fun r => do
    let usual : AccountingSettings := {}
    pure {
      batchSize := ← field r "batch_size" usual.batchSize Toml.Decoder.seconds
      regulateSeconds := ← field r "regulate_seconds" usual.regulateSeconds Toml.Decoder.seconds
      retentionSeconds :=
        ← field r "flow_point_retention_seconds" usual.retentionSeconds Toml.Decoder.seconds
      activityGapSecs := ← field r "min_activity_gap_secs" usual.activityGapSecs Toml.Decoder.seconds
      claimLeaseSecs := ← field r "claim_lease_secs" usual.claimLeaseSecs Toml.Decoder.seconds
      correctionFactor := ← field r "correction_factor" usual.correctionFactor Toml.Decoder.float
      syncIntervalSecs := ← field r "sync_interval_secs" usual.syncIntervalSecs Toml.Decoder.seconds
      forwardIntervalSecs :=
        ← field r "forward_interval_secs" usual.forwardIntervalSecs Toml.Decoder.seconds }

def SeriesSettings.decoder : Toml.Decoder SeriesSettings :=
  Toml.Decoder.record ["address", "org", "bucket", "token", "query_timeout_secs"] fun r => do
    let usual : SeriesSettings := {}
    pure {
      address := ← field r "address" usual.address Toml.Decoder.text
      org := ← field r "org" usual.org Toml.Decoder.text
      bucket := ← field r "bucket" usual.bucket Toml.Decoder.text
      token := ← field r "token" usual.token fun v => (Toml.Decoder.text v).map some
      queryTimeoutSecs :=
        ← field r "query_timeout_secs" usual.queryTimeoutSecs Toml.Decoder.seconds }

def HealthSettings.decoder : Toml.Decoder HealthSettings :=
  Toml.Decoder.record ["dead_threshold"] fun r => do
    let usual : HealthSettings := {}
    pure {
      deadThreshold :=
        ← field r "dead_threshold" usual.deadThreshold (Toml.Decoder.natBelow halfWordBound) }

namespace Settings

def decoder : Toml.Decoder Settings :=
  Toml.Decoder.record ["store", "compiler", "accounting", "timeseries", "health"] fun r => do
    let usual : Settings := {}
    pure {
      store := ← field r "store" usual.store StoreSettings.decoder
      compiler := ← field r "compiler" usual.compiler CompilerSettings.decoder
      accounting := ← field r "accounting" usual.accounting AccountingSettings.decoder
      series := ← field r "timeseries" usual.series SeriesSettings.decoder
      health := ← field r "health" usual.health HealthSettings.decoder }

/-- the kinds of all values -/
def shape : Toml.Shape :=
  let seconds : Toml.Shape := .natBelow wordBound
  .record [
    ("store", .record [("path", .text)]),
    ("compiler", .record [
      ("work_dir", .text), ("base_url", .text), ("output_dir", .text), ("interval_secs", seconds)]),
    ("accounting", .record [
      ("batch_size", seconds), ("regulate_seconds", seconds),
      ("flow_point_retention_seconds", seconds), ("min_activity_gap_secs", seconds),
      ("claim_lease_secs", seconds), ("correction_factor", .float), ("sync_interval_secs", seconds),
      ("forward_interval_secs", seconds)]),
    ("timeseries", .record [
      ("address", .text), ("org", .text), ("bucket", .text), ("token", .text),
      ("query_timeout_secs", seconds)]),
    ("health", .record [("dead_threshold", .natBelow halfWordBound)])]

/-- where a document first goes wrong, as far as its notation is in order -/
def misfitPlace (text : String) (o : Toml.Outline) : Toml.Place :=
  Toml.Place.before text.toList
    (((shape.misfit? o.table).bind o.place?).getD text.toList)

/-- the settings of a document, or the place of its first fault -/
def read (text : String) : Except Toml.Place Settings :=
  match Toml.read text with
  | .error rest => .error (Toml.Place.before text.toList rest)
  | .ok o =>
    match decoder o.table with
    | some settings => .ok settings
    | none => .error (misfitPlace text o)

/-- a section of a document: its name and the text of each entry -/
def sectionText (name : String) (entries : List (String × String)) : String :=
  "[" ++ name ++ "]\n" ++ String.join (entries.map fun (key, value) => key ++ " = " ++ value ++ "\n")

/-- all settings; a token that there is none of is left out -/
def document (s : Settings) : String :=
  let text := Toml.quoteText
  let number (n : Nat) := toString n
  "\n".intercalate [
    sectionText "store" [("path", text s.store.path)],
    sectionText "compiler" [
      ("work_dir", text s.compiler.workDir), ("base_url", text s.compiler.baseUrl),
      ("output_dir", text s.compiler.outputDir), ("interval_secs", number s.compiler.intervalSecs)],
    sectionText "accounting" [
      ("batch_size", number s.accounting.batchSize),
      ("regulate_seconds", number s.accounting.regulateSeconds),
      ("flow_point_retention_seconds", number s.accounting.retentionSeconds),
      ("min_activity_gap_secs", number s.accounting.activityGapSecs),
      ("claim_lease_secs", number s.accounting.claimLeaseSecs),
      ("correction_factor", Toml.floatText s.accounting.correctionFactor),
      ("sync_interval_secs", number s.accounting.syncIntervalSecs),
      ("forward_interval_secs", number s.accounting.forwardIntervalSecs)],
    sectionText "timeseries" ([
      ("address", text s.series.address), ("org", text s.series.org),
      ("bucket", text s.series.bucket)] ++ (s.series.token.map fun t => ("token", text t)).toList ++
      [("query_timeout_secs", number s.series.queryTimeoutSecs)]),
    sectionText "health" [("dead_threshold", number s.health.deadThreshold)]]

/-- values that are no numbers are null -/
def realJson (x : Binary64) : Json := if x.isFinite then .real x else .null

def toJson (s : Settings) : Json := .obj [
  ("store", .obj [("path", .str s.store.path)]),
  ("compiler", .obj [
    ("work_dir", .str s.compiler.workDir), ("base_url", .str s.compiler.baseUrl),
    ("output_dir", .str s.compiler.outputDir), ("interval_secs", .ofNat s.compiler.intervalSecs)]),
  ("accounting", .obj [
    ("batch_size", .ofNat s.accounting.batchSize),
    ("regulate_seconds", .ofNat s.accounting.regulateSeconds),
    ("flow_point_retention_seconds", .ofNat s.accounting.retentionSeconds),
    ("min_activity_gap_secs", .ofNat s.accounting.activityGapSecs),
    ("claim_lease_secs", .ofNat s.accounting.claimLeaseSecs),
    ("correction_factor", realJson s.accounting.correctionFactor),
    ("sync_interval_secs", .ofNat s.accounting.syncIntervalSecs),
    ("forward_interval_secs", .ofNat s.accounting.forwardIntervalSecs)]),
  ("timeseries", .obj [
    ("address", .str s.series.address), ("org", .str s.series.org),
    ("bucket", .str s.series.bucket), ("token", .ofText s.series.token),
    ("query_timeout_secs", .ofNat s.series.queryTimeoutSecs)]),
  ("health", .obj [("dead_threshold", .ofNat s.health.deadThreshold)])]

end Settings

end ProxyMesh
