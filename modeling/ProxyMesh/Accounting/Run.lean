import ProxyMesh.Accounting.Fold
import ProxyMesh.Settings.Basic
import ProxyMesh.Store.Basic

/-!
# Runs over the counters of periods

A run claims a batch of periods and settles them one after another.  The first error ends the run;
the claims of the failed period and of all after it are given back.

* `Accountant`            the settings, the series that is asked and how counters are committed;
* `Accountant.sync`       new traffic folded into the periods that were used since their last sync;
* `Accountant.forward`    the flow points moved up to where the retention ends;
* `BatchReport`           what became of the claimed periods.
-/

namespace ProxyMesh

/-- what does not fold normally -/
inductive Anomaly where
  /-- the window held less than before -/
  | counterRegressed (period : Id) (excess : Traffic)
  /-- more left the window than it held -/
  | negativeDelta (period : Id) (excess : Traffic)
deriving DecidableEq, Repr

inductive AccountingError where
  | queryTimeout (seconds : Nat)
  | series (error : SeriesError)
  /-- the store did not take a counter -/
  | store
deriving DecidableEq, Repr

namespace AccountingError

def ofSeries : SeriesError → AccountingError
  | .timeout seconds => .queryTimeout seconds
  | e => .series e

/-- a later run may succeed -/
def isRetryable : AccountingError → Bool
  | .queryTimeout _ => true
  | _ => false

def message : AccountingError → String
  | .queryTimeout seconds => "time-series query timed out after " ++ toString seconds ++ "s"
  | .series e => "time-series error: " ++ e.message
  | .store => "state store error"

end AccountingError

/-- what became of one claimed period -/
inductive Outcome where
  | updated (anomaly : Option Anomaly)
  /-- there was nothing to fold -/
  | skipped
  /-- the claim was no longer held at the commit -/
  | lost
deriving DecidableEq, Repr

structure BatchReport where
  claimed : Nat
  updated : Nat
  skipped : Nat
  lost : Nat
  anomalies : List Anomaly
deriving DecidableEq, Repr

namespace BatchReport

def ofClaimed (claimed : Nat) : BatchReport := ⟨claimed, 0, 0, 0, []⟩

def record (r : BatchReport) : Outcome → BatchReport
  | .updated anomaly =>
    { r with updated := r.updated + 1, anomalies := r.anomalies ++ anomaly.toList }
  | .skipped => { r with skipped := r.skipped + 1 }
  | .lost => { r with lost := r.lost + 1 }

end BatchReport

/-- how the counter of a claimed period is stored: done, or the claim is no longer held -/
abbrev CounterCommit := Store → Id → Claim → Counter → Except AccountingError Bool × Store

def Store.commit : CounterCommit := fun s id claim counter =>
  let (done, s) := s.commitCounter id claim counter
  (.ok done, s)

structure Accountant where
  settings : AccountingSettings
  reader : SeriesReader
  commit : CounterCommit := Store.commit

namespace Accountant

/-- the traffic of a period in a window -/
def traffic (a : Accountant) (period : Id) (start stop : Nat) : Except AccountingError Traffic :=
  match a.reader (usageQuery period start stop) with
  | .ok sums => .ok (windowTraffic sums)
  | .error e => .error (.ofSeries e)

/-- a period without its claim -/
def release (s : Store) (p : Period) : Store :=
  match p.claim with
  | some claim => (s.releaseClaim p.id claim).2
  | none => s

/-- a counter stored under the claim that the period was handed out with -/
def settle (a : Accountant) (s : Store) (p : Period) (c : Counter) (o : Outcome) :
    Except AccountingError Outcome × Store :=
  match p.claim with
  | none => (.ok .lost, s)
  | some claim =>
    let (answer, s) := a.commit s p.id claim c
    (answer.map fun done => if done then o else .lost, s)

/-- an excess to be reported -/
def anomaly? (report : Id → Traffic → Anomaly) (p : Period) (excess : Traffic) : Option Anomaly :=
  if excess.isZero then none else some (report p.id excess)

/-- the start of the window: the flow point, or as far back as the settings say -/
def syncFloor (a : Accountant) (now : Nat) (p : Period) : Nat :=
  p.counter.flowPointAt.getD (now - a.settings.regulateSeconds)

/-- one period synced; a sync that finds no traffic is stamped all the same -/
def syncOne (a : Accountant) (now : Nat) (s : Store) (p : Period) :
    Except AccountingError Outcome × Store :=
  let floor := a.syncFloor now p
  if now ≤ floor then (.ok .skipped, release s p)
  else match a.traffic p.id floor now with
    | .error e => (.error e, s)
    | .ok sum =>
      let c := { p.counter with flowPointAt := some floor, lastFlowSyncAt := some now }
      if sum.isZero then a.settle s p c .skipped
      else
        let (excess, c) := c.foldSync sum a.settings.correctionFactor
        a.settle s p c (.updated (anomaly? .counterRegressed p excess))

/-- the flow point of one period moved up to `newFloor` -/
def forwardOne (a : Accountant) (newFloor : Nat) (s : Store) (p : Period) :
    Except AccountingError Outcome × Store :=
  match p.counter.flowPointAt.filter (· < newFloor) with
  | none => (.ok .skipped, release s p)
  | some floor =>
    match a.traffic p.id floor newFloor with
    | .error e => (.error e, s)
    | .ok gone =>
      let (excess, c) := p.counter.foldForward gone newFloor a.settings.correctionFactor
      a.settle s p c (.updated (anomaly? .negativeDelta p excess))

/-- claimed periods settled in order; an error gives back the claims that are left -/
def runBatch (step : Store → Period → Except AccountingError Outcome × Store) :
    Store → List Period → BatchReport → Except AccountingError BatchReport × Store
  | s, [], report => (.ok report, s)
  | s, p :: rest, report =>
    match step s p with
    | (.ok o, s) => runBatch step s rest (report.record o)
    | (.error e, s) => (.error e, (p :: rest).foldl release s)

/-- a batch claimed and settled -/
def run (s : Store) (request : Store.ClaimRequest)
    (step : Store → Period → Except AccountingError Outcome × Store) :
    Except AccountingError BatchReport × Store :=
  let (claimed, s) := s.claimPeriods request
  runBatch step s claimed (.ofClaimed claimed.length)

def request (a : Accountant) (op : ClaimOp) (now : Nat) (due : Period → Bool)
    (order : Period → Option Nat) : Store.ClaimRequest :=
  ⟨op, now, a.settings.claimLeaseSecs, a.settings.batchSize, due, order⟩

def sync (a : Accountant) (s : Store) (now : Nat) : Except AccountingError BatchReport × Store :=
  run s (a.request .sync now (syncDue · a.settings.activityGapSecs) (·.counter.lastFlowSyncAt))
    (a.syncOne now)

/-- where the retention ends -/
def retentionFloor (a : Accountant) (now : Nat) : Nat := now - a.settings.retentionSeconds

def forward (a : Accountant) (s : Store) (now : Nat) :
    Except AccountingError BatchReport × Store :=
  let floor := a.retentionFloor now
  run s (a.request .forwardFlowPoint now (forwardDue · floor) (·.counter.flowPointAt))
    (a.forwardOne floor)

end Accountant

end ProxyMesh
