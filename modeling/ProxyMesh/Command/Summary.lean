import ProxyMesh.Accounting.Run
import ProxyMesh.Compile.Artifacts
import ProxyMesh.Tag.Resolve
import ProxyMesh.Traffic.Ingest

/-!
# What commands say

The lines that a command prints when it succeeds.
-/

namespace ProxyMesh

/-- the mark of success -/
def doneMark : String := "✓ "

/-- counts with what they count -/
def countsText (counts : List (Nat × String)) : String :=
  ", ".intercalate (counts.map fun (n, what) => toString n ++ " " ++ what)

/-- numbers between square brackets -/
def wordsText (words : List Id) : String :=
  "[" ++ ", ".intercalate (words.map toString) ++ "]"

namespace Snapshot

def summary (d : Snapshot) : List String := [
  doneMark ++ "Imported " ++ countsText [
    (d.nodes.length, "nodes"), (d.rules.length, "rules"), (d.bindings.length, "bindings"),
    (d.tunnels.length, "tunnels"), (d.periods.length, "periods")]]

end Snapshot

def SkippedFragment.line (f : SkippedFragment) : String :=
  "  skipped " ++ f.kind.title ++ " " ++ f.owner ++ ": " ++ f.reason.message f.kind

/-- artifacts in a directory, newly written or there already -/
def Artifacts.summary (a : Artifacts) (written : Bool) (directory : String) : List String :=
  [doneMark ++ "Node " ++ toString a.nodeId ++ ": " ++ String.ofList (a.configHash.toList.take 6) ++
      " (" ++ (if written then "written" else "unchanged") ++ ")",
    "  Output: " ++ directory,
    "  " ++ countsText [(a.report.outbounds, "outbounds"), (a.report.balancers, "balancers"),
      (a.report.consumers, "consumers")]] ++
  a.report.skippedFragments.map SkippedFragment.line ++
  (if a.report.skippedRules.isEmpty then []
    else ["  rules without consumers: " ++ wordsText a.report.skippedRules])

namespace TagRef

def scopeLabel : Scope → String
  | .rule id => "rule " ++ toString id
  | .tunnel id => "tunnel " ++ toString id

def sideLabel : ReverseSide → String
  | .bridge => "bridge"
  | .portal => "portal"

def label : TagRef → String
  | .outbound scope binding =>
    "outbound of " ++ scopeLabel scope ++ ", binding " ++ toString binding
  | .reverse scope side binding peer allocation =>
    "reverse " ++ sideLabel side ++ " of " ++ scopeLabel scope ++ ", binding " ++ toString binding ++
      ", peer node " ++ toString peer ++ ", balancer " ++ allocation

end TagRef

/-- what a tag resolves to on a node -/
def resolvedLines (node : Id) : Option ResolvedTag → List String
  | none => ["  does not resolve on node " ++ toString node]
  | some r =>
    ["  role:   " ++ r.role.word, "  source: node " ++ toString r.source] ++
      (r.dest.map fun dest => "  dest:   node " ++ toString dest).toList

def Anomaly.line (a : Anomaly) : String :=
  let (kind, period, excess) := match a with
    | .counterRegressed period excess => ("CounterRegressed", period, excess)
    | .negativeDelta period excess => ("NegativeDelta", period, excess)
  "  " ++ kind ++ " \x7b period_id: " ++ toString period ++ ", download: " ++
    toString excess.download ++ ", upload: " ++ toString excess.upload ++ " \x7d"

def BatchReport.summary (r : BatchReport) (job : String) : List String :=
  (doneMark ++ job ++ ": " ++ countsText [(r.claimed, "claimed"), (r.updated, "updated"),
    (r.skipped, "skipped"), (r.lost, "lost")]) :: r.anomalies.map Anomaly.line

def IngestSummary.summary (s : IngestSummary) : List String :=
  (doneMark ++ countsText [(s.reports, "reports"), (s.points, "points"),
    (s.periodsTouched, "periods"), (s.internalUsersTouched, "internal users")]) ::
  if 0 < s.unmatched || 0 < s.badLines then
    ["  " ++ countsText [(s.unmatched, "unmatched stats"), (s.badLines, "bad lines")]]
  else []

end ProxyMesh
