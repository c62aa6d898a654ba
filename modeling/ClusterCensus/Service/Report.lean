import ClusterCensus.Cycle.Script
import ClusterCensus.Time.Calendar

/-!
# Reports

What the service tells about its last cycle: the counters with a status, and whether it is in
good health. A cycle with an error has failed, one without a finishing time is still running. The
service is degraded exactly when the last cycle has failed.
-/
namespace ClusterCensus

inductive CycleStatus where
  | failed
  | running
  | ok
deriving DecidableEq

def CycleStatus.name : CycleStatus → String
  | failed => "failed"
  | running => "running"
  | ok => "ok"

namespace CycleSummary

def status (s : CycleSummary) : CycleStatus :=
  if s.error.isSome then .failed
  else if s.finishedAt.isNone then .running
  else .ok

/-- Times and counters as fields. -/
def fields (writeTime : Moment → String) (s : CycleSummary) : Fields :=
  [("started_at", .text (writeTime s.startedAt)),
   ("finished_at", .ofText? (s.finishedAt.map writeTime)),
   ("pods_scanned", .int s.podsScanned), ("pods_skipped", .int s.podsSkipped),
   ("pod_records", .int s.podRecords), ("nodes_scanned", .int s.nodesScanned),
   ("node_records", .int s.nodeRecords),
   ("serialization_failures", .int s.serializationFailures), ("error", .ofText? s.error)]

/-- The summary with whether the cycle went well. -/
def resultFields (writeTime : Moment → String) (s : CycleSummary) : Fields :=
  s.fields writeTime ++ [("ok", .bool s.ok)]

/-- The summary with its status. -/
def reportFields (writeTime : Moment → String) (s : CycleSummary) : Fields :=
  ("status", .text s.status.name) :: s.fields writeTime

end CycleSummary

/-- The health of the service after its last cycle. -/
inductive Health where
  | good
  | degraded (detail : String)
deriving DecidableEq

namespace Health

/-- The health that a last cycle leaves. -/
def ofLast (last : Option CycleSummary) : Health :=
  match last.bind (·.error) with
  | some detail => degraded detail
  | none => good

def fields : Health → Fields
  | good => [("status", .text "ok")]
  | degraded detail => [("status", .text "degraded"), ("detail", .text detail)]

end Health

/-- The answer when there is no cycle to report. -/
def noCycleDetail : String := "no metrics cycle has run yet"

end ClusterCensus
