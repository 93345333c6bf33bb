import ProxyMesh.File.Path
import ProxyMesh.Number.Binary64

/-!
# Settings

* `Settings`            all sections, with their usual values;
* `Settings.rootedAt`   the usual settings with store and artifacts below a directory;
* `intervalOf`          the seconds between two runs of a job, at least one.
-/

namespace ProxyMesh

structure StoreSettings where
  path : String := "relaygrid.redb"
deriving DecidableEq, Repr

structure CompilerSettings where
  /-- where nodes keep binaries and documents -/
  workDir : String := "/opt/relaygrid"
  /-- where programs are downloaded from -/
  baseUrl : String := "http://127.0.0.1:8080"
  /-- where artifacts are written -/
  outputDir : String := "artifacts"
  intervalSecs : Nat := 300
deriving DecidableEq, Repr

structure AccountingSettings where
  /-- the most periods that one run claims -/
  batchSize : Nat := 10
  /-- the window of a period that has no flow point yet -/
  regulateSeconds : Nat := 3600
  /-- how far the flow point may trail behind -/
  retentionSeconds : Nat := 432000
  /-- how long after its last sync a period must have been used to be due -/
  activityGapSecs : Nat := 60
  claimLeaseSecs : Nat := 120
  /-- what traffic is multiplied with before it is billed -/
  correctionFactor : Binary64 := .one
  syncIntervalSecs : Nat := 60
  forwardIntervalSecs : Nat := 3600
deriving DecidableEq, Repr

structure SeriesSettings where
  address : String := "127.0.0.1:8086"
  org : String := "relaygrid"
  bucket : String := "relaygrid"
  token : Option String := none
  queryTimeoutSecs : Nat := 10
deriving DecidableEq, Repr

structure HealthSettings where
  /-- how many dead observations in a row take a link down -/
  deadThreshold : Nat := 3
deriving DecidableEq, Repr

structure Settings where
  store : StoreSettings := {}
  compiler : CompilerSettings := {}
  accounting : AccountingSettings := {}
  series : SeriesSettings := {}
  health : HealthSettings := {}
deriving DecidableEq, Repr

def intervalOf (seconds : Nat) : Nat := max seconds 1

def Settings.rootedAt (root : String) : Settings where
  store := { path := joinPath root "relaygrid.redb" }
  compiler := { outputDir := joinPath root "artifacts" }

end ProxyMesh
