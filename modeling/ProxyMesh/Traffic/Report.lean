import ProxyMesh.Json.Decoder
import ProxyMesh.Text.Quoted
import ProxyMesh.Time.Reading

/-!
# Traffic reports

An agent writes one JSON record on a line.  A traffic report has a timestamp and a message that is
itself a JSON text with the statistics.

* `TrafficReport`     when statistics were collected, and the statistics;
* `readReport`        the report of a line, none for blank lines and other results.
-/

namespace ProxyMesh

structure TrafficStat where
  name : String
  value : Int
deriving DecidableEq, Repr

structure TrafficReport where
  /-- seconds since 1970 -/
  collectedAt : Nat
  stats : List TrafficStat
deriving DecidableEq, Repr

inductive ReportError where
  /-- the line or its message is no such record -/
  | malformed
  | badTimestamp (timestamp : String)
deriving DecidableEq, Repr

def ReportError.message : ReportError → String
  | .malformed => "malformed traffic report"
  | .badTimestamp timestamp =>
    "malformed traffic report: bad timestamp " ++ Text.quoted timestamp

def TrafficStat.decoder : Json.Decoder TrafficStat :=
  Json.Decoder.record ["name", "value"] fun r => do
    pure {
      name := ← r.withDefault "name" "" Json.Decoder.text
      value := ← r.withDefault "value" 0 Json.Decoder.int64 }

/-- the record of a line -/
structure ResultLine where
  resultType : String
  timestamp : String
  message : String

def ResultLine.decoder : Json.Decoder ResultLine :=
  Json.Decoder.record ["result_type", "timestamp", "msg"] fun r => do
    pure {
      resultType := ← r.required "result_type" Json.Decoder.text
      timestamp := ← r.required "timestamp" Json.Decoder.text
      message := ← r.required "msg" Json.Decoder.text }

def statsDecoder : Json.Decoder (List TrafficStat) :=
  Json.Decoder.record ["stats"] fun r =>
    r.withDefault "stats" [] (Json.Decoder.list TrafficStat.decoder)

/-- the result type of traffic reports -/
def rawTrafficResult : String := "xray_raw_traffic_v1"

/-- a time with an offset or in universal time, not before 1970 -/
def reportTime? (timestamp : String) : Option Nat :=
  ((Time.readTimestamp? timestamp).or (Time.readPlainTime? timestamp)).bind fun seconds =>
    if 0 ≤ seconds then some seconds.toNat else none

def readReport (line : String) : Except ReportError (Option TrafficReport) :=
  let line := Text.trim line
  if line.isEmpty then .ok none
  else match Json.decode ResultLine.decoder line with
    | none => .error .malformed
    | some result =>
      if result.resultType != rawTrafficResult then .ok none
      else match reportTime? result.timestamp with
        | none => .error (.badTimestamp result.timestamp)
        | some collectedAt =>
          match Json.decode statsDecoder result.message with
          | none => .error .malformed
          | some stats => .ok (some ⟨collectedAt, stats⟩)

end ProxyMesh
