import ClusterCensus.Proofs.Cycle.Books
import ClusterCensus.Proofs.Cycle.Commands
import ClusterCensus.Proofs.Gateway.Fetches
import ClusterCensus.Service.Routes

/-!
# Reports are truthful

The service tells of the last cycle in two places: a report with all its counters, and the health of
the service. Both look at the same summary, so they agree on whether the cycle has failed. What the
collector goes through before, failures and clocks that refuse included, never leaves a summary
behind that reads as ok but is not that of a complete cycle.

## Main result

`ok_report_is_truthful`: what the two answers say after any commands.
-/
namespace ClusterCensus

variable {w : Surroundings} {gateway : Gateway}

/-! ### A cycle behind a report -/

/-- The cycle ran to completion. The report shows the numbers of pods and nodes that the cycle has
listed, and its records are as many as the lines that the cycle has written. -/
structure CycleRun.Bears (w : Surroundings) (gateway : Gateway) (run : CycleRun)
    (report : Fields) : Prop where
  completed : ∃ s, (run.result w gateway).1 = .ok s
  pods : ∃ pods, run.cluster.pods = .ok pods ∧ report.get "pods_scanned" = .int pods.length
  nodes : ∃ nodes, run.cluster.nodes = .ok nodes ∧ report.get "nodes_scanned" = .int nodes.length
  lines : ∃ written podRecords nodeRecords,
    (run.result w gateway).2.lines = run.start.lines ++ written ∧
      report.get "pod_records" = .int podRecords ∧ report.get "node_records" = .int nodeRecords ∧
      podRecords + nodeRecords = written.length

/-- The report on a cycle that returned says what was counted in it. -/
theorem CycleRun.bears_of_returned {run : CycleRun} {s : CycleSummary}
    (returned : (run.result w gateway).1 = .ok s) (write : Moment → String) :
    run.Bears w gateway (s.reportFields write) := by
  obtain ⟨now, finished, snapshot, p, passes⟩ := Collector.passes_of_returned returned
  obtain ⟨-, pods, nodes, -, -⟩ := Gateway.snapshot_ok_iff.mp passes.fetched
  have same : { p.summary with finishedAt := some finished } = s := by
    rw [result, passes.cycle_eq] at returned
    exact Except.ok.inj returned
  have counted := passes.took.summary.trans (Script.count_of_ok passes.ended)
  have recorded := passes.took.summary.trans (CycleSummary.foldl_count _ _)
  subst same
  constructor
  · exact ⟨_, returned⟩
  · refine ⟨_, pods, ?_⟩
    have scanned : p.summary.podsScanned = snapshot.pods.length := by rw [counted]
    exact congrArg Value.int scanned
  · refine ⟨_, nodes, ?_⟩
    have scanned : p.summary.nodesScanned = snapshot.nodes.length := by rw [counted]
    exact congrArg Value.int scanned
  · refine ⟨_, p.summary.podRecords, p.summary.nodeRecords, passes.lines_eq, rfl, rfl, ?_⟩
    rw [recorded, length_lines]
    simp [CycleSummary.begin]

/-! ### The two answers -/

theorem respond_lastCycle (host query : String) (last : Option CycleSummary) :
    HttpRequest.respond host last ⟨"GET", "/cycles/last", query⟩ =
      Route.lastCycle.answer last := by
  have found : Route.find? "/cycles/last" = some .lastCycle := by decide
  simp only [HttpRequest.respond, found, if_true]

theorem respond_health (host query : String) (last : Option CycleSummary) :
    HttpRequest.respond host last ⟨"GET", "/healthz", query⟩ = Route.health.answer last := by
  have found : Route.find? "/healthz" = some .health := by decide
  simp only [HttpRequest.respond, found, if_true]

/-- A report and the health that is told beside it agree whether the cycle has failed, and why. -/
structure Fields.Agree (report health : Fields) : Prop where
  failed_iff : report.get "status" = .text "failed" ↔ health.get "status" = .text "degraded"
  error : report.get "status" = .text "failed" →
    ∃ error, report.get "error" = .text error ∧ health.get "detail" = .text error

/-- The two reports on one summary agree where they name the same thing. -/
theorem agree_of_summary (s : CycleSummary) (write : Moment → String) :
    Fields.Agree (s.reportFields write) (Health.ofLast (some s)).fields := by
  have status : (s.reportFields write).get "status" = .text s.status.name := rfl
  have error : (s.reportFields write).get "error" = .ofText? s.error := rfl
  cases failed : s.error with
  | some detail =>
    have health : Health.ofLast (some s) = .degraded detail := by simp [Health.ofLast, failed]
    have name : s.status = .failed := by simp [CycleSummary.status, failed]
    rw [name] at status
    rw [failed] at error
    rw [health]
    exact ⟨iff_of_true status rfl, fun _ => ⟨detail, error, rfl⟩⟩
  | none =>
    have health : Health.ofLast (some s) = .good := by simp [Health.ofLast, failed]
    -- Without an error the cycle is running or ok, and the health is good.
    have otherwise : (s.reportFields write).get "status" ≠ .text "failed" := by
      rw [status]
      cases finished : s.finishedAt with
      | none => simp [CycleSummary.status, failed, finished, CycleStatus.name]
      | some now => simp [CycleSummary.status, failed, finished, CycleStatus.name]
    rw [health]
    refine ⟨iff_of_false otherwise ?_, fun named => absurd named otherwise⟩
    simp [Health.fields, Fields.get]

theorem closed_of_ok {s : CycleSummary} {write : Moment → String}
    (named : (s.reportFields write).get "status" = .text "ok") :
    s.error = none ∧ s.finishedAt.isSome := by
  have status : (s.reportFields write).get "status" = .text s.status.name := rfl
  rw [status] at named
  cases failed : s.error with
  | some detail => simp [CycleSummary.status, failed, CycleStatus.name] at named
  | none =>
    cases finished : s.finishedAt with
    | none => simp [CycleSummary.status, failed, finished, CycleStatus.name] at named
    | some now => exact ⟨rfl, rfl⟩

/-! ## Main result -/

/-- After any commands to a fresh collector, whatever its clock, its sink and the clusters do, there
is no report exactly when no cycle has begun a summary. Otherwise the report agrees with the health
of the service, and a report that reads as ok is that of the last cycle that has begun a summary,
which bears it out. -/
theorem ok_report_is_truthful (w : Surroundings) (gateway : Gateway) (commands : List Command)
    (host query : String) :
    let reached := Collector.carryOutAll w gateway commands
    let report := HttpRequest.respond host reached.1.last ⟨"GET", "/cycles/last", query⟩
    let health := HttpRequest.respond host reached.1.last ⟨"GET", "/healthz", query⟩
    (report.status = 404 ↔ ∀ run ∈ reached.2, ¬run.Begins w) ∧
      (report.status ≠ 404 → ∃ shown told,
        report.status = 200 ∧ report.body = some shown ∧
        health.status = 200 ∧ health.body = some told ∧ Fields.Agree shown told ∧
        (shown.get "status" = .text "ok" →
          ∃ run : CycleRun, run.IsLastOf w reached.2 ∧ run.Bears w gateway shown)) := by
  intro reached report health
  have reports : report = Route.lastCycle.answer reached.1.last := respond_lastCycle _ _ _
  have tells : health = Route.health.answer reached.1.last := respond_health _ _ _
  rcases Collector.carryOutAll_keeps w gateway commands with
    ⟨nothing, none⟩ | ⟨run, s, isLast, kept, returned⟩
  · have missing : report.status = 404 := by
      rw [reports, nothing]
      rfl
    exact ⟨iff_of_true missing none, fun given => absurd missing given⟩
  · rw [kept] at reports tells
    have given : report.status = 200 := by
      rw [reports]
      rfl
    have begun : ¬∀ run ∈ reached.2, ¬run.Begins w := by
      obtain ⟨before, later, split, begins, -⟩ := isLast
      intro idle
      exact idle run (by rw [split]; simp) begins
    refine ⟨iff_of_false (by simp [given]) begun, fun _ => ?_⟩
    refine ⟨_, _, given, congrArg HttpResponse.body reports, by rw [tells]; rfl,
      congrArg HttpResponse.body tells, agree_of_summary s _, ?_⟩
    intro ok
    obtain ⟨faultless, finished⟩ := closed_of_ok ok
    exact ⟨run, isLast, run.bears_of_returned (returned faultless finished) _⟩

end ClusterCensus
