import ClusterCensus.Proofs.Cycle.Commands

/-!
# A completed cycle can be blamed

A cycle that returns has closed its summary without an error, and the collector keeps it. A later
cycle puts a summary of its own in its place as soon as it has read the clock, and whatever fails
from there on is told of that one. But a cycle that cannot read the clock has no summary, and then
the watch marks the one it finds. So the completed summary is given an error, and the time at which
it finished is replaced, by a failure that is not its own.

## Main result

`completed_summary_is_blamed`: what the last summary is, after any cycles that follow one that
returned.
-/
namespace ClusterCensus

/-- The summary when it has been closed, if the clock can be read. -/
def CycleSummary.closedBy (s : CycleSummary) : Except String Moment → CycleSummary
  | .ok now => { s with finishedAt := some now }
  | .error _ => s

/-- The summary behind the failure of a cycle that had none of its own: it is marked and closed
again, unless it was marked before. -/
def CycleSummary.blame (s : CycleSummary) (fault : Fault) (again : Except String Moment) :
    CycleSummary :=
  if s.error.isSome then s
  else { s with error := some ("cycle failed: " ++ fault.message) }.closedBy again

namespace CycleSummary

variable {s : CycleSummary} {fault : Fault} {again : Except String Moment}

theorem startedAt_closedBy : (s.closedBy again).startedAt = s.startedAt := by
  cases again <;> rfl

theorem error_closedBy : (s.closedBy again).error = s.error := by
  cases again <;> rfl

/-- What is marked once stays as it is. -/
theorem blame_of_error (failed : s.error.isSome) : s.blame fault again = s :=
  if_pos failed

theorem startedAt_blame : (s.blame fault again).startedAt = s.startedAt := by
  rw [blame]
  split
  · rfl
  · exact startedAt_closedBy

theorem error_blame : (s.blame fault again).error.isSome := by
  rw [blame]
  split
  next failed => exact failed
  next => rw [error_closedBy]; rfl

end CycleSummary

/-- What a cycle makes of the summary that it finds, unless it puts its own in its place. -/
def CycleRun.blames (w : Surroundings) (s : CycleSummary) (run : CycleRun) : CycleSummary :=
  match w.clock run.start.readings with
  | .ok _ => s
  | .error reason => s.blame (.clockRefused reason) (w.clock (run.start.readings + 1))

namespace CycleRun

variable {w : Surroundings} {s : CycleSummary} {run : CycleRun}

theorem startedAt_blames : (run.blames w s).startedAt = s.startedAt := by
  rw [blames]
  split
  · rfl
  · exact CycleSummary.startedAt_blame

theorem blames_of_error (failed : s.error.isSome) : run.blames w s = s := by
  rw [blames]
  split
  · rfl
  · exact CycleSummary.blame_of_error failed

/-- A cycle that begins nothing of its own leaves a mark, unless there is one already. -/
theorem error_blames (idle : ¬run.Begins w) : (run.blames w s).error.isSome := by
  rw [blames]
  split
  next now reading => exact absurd ⟨now, reading⟩ idle
  next => exact CycleSummary.error_blame

/-- A cycle begins nothing of its own only when the clock refuses, and it marks what it finds with
the reason. -/
theorem blames_of_idle (idle : ¬run.Begins w) (faultless : s.error = none) :
    ∃ reason, w.clock run.start.readings = .error reason ∧
      run.blames w s = { s with error := some ("cycle failed: " ++ reason) }.closedBy
        (w.clock (run.start.readings + 1)) := by
  cases reading : w.clock run.start.readings with
  | ok now => exact absurd ⟨now, reading⟩ idle
  | error reason =>
    -- The clock has refused, and the summary has no mark yet.
    have unmarked : ¬s.error.isSome := by simp [faultless]
    refine ⟨reason, rfl, ?_⟩
    simp only [blames, reading]
    exact if_neg unmarked

theorem startedAt_foldl_blames (runs : List CycleRun) :
    (runs.foldl (blames w) s).startedAt = s.startedAt := by
  induction runs generalizing s with
  | nil => rfl
  | cons run rest ih => rw [List.foldl_cons, ih, startedAt_blames]

/-- After a first mark no cycle changes anything. -/
theorem foldl_blames_of_error (failed : s.error.isSome) (runs : List CycleRun) :
    runs.foldl (blames w) s = s := by
  -- The guard of the mark: what is marked is left as it is by every later cycle.
  induction runs with
  | nil => rfl
  | cons run rest ih => rw [List.foldl_cons, blames_of_error failed, ih]

end CycleRun

namespace Collector

variable {w : Surroundings} {gateway : Gateway} {cluster : Cluster} {c : Collector}
  {s : CycleSummary} {now : Moment}

/-! ### One round -/

theorem last_close (w : Surroundings) (c : Collector) (s : CycleSummary) :
    (c.close w s).2.last = some (s.closedBy (w.clock c.readings)) := by
  simp only [close, readClock]
  cases w.clock c.readings <;> rfl

/-- A failure is put on the summary that is kept, whichever cycle it belongs to. -/
theorem last_markFailed (kept : c.last = some s) (fault : Fault) :
    (c.markFailed w fault).2.last = some (s.blame fault (w.clock c.readings)) := by
  unfold markFailed
  rw [kept, CycleSummary.blame]
  by_cases failed : s.error.isSome
  · simp only [failed, if_true, kept]
  · have closed := last_close w c { s with error := some ("cycle failed: " ++ fault.message) }
    simp only [failed]
    generalize c.close w _ = result at closed ⊢
    obtain ⟨_ | _, next⟩ := result <;> exact closed

/-- The collector keeps a summary begun at this moment. -/
def BeganAt (c : Collector) (now : Moment) : Prop :=
  ∃ own, c.last = some own ∧ own.startedAt = now

theorem beganAt_close (started : s.startedAt = now) : (c.close w s).2.BeganAt now :=
  ⟨_, last_close w c s, by rw [CycleSummary.startedAt_closedBy, started]⟩

theorem beganAt_abort (started : s.startedAt = now) (cause : Fault) :
    (c.abort w s cause).2.BeganAt now := by
  have closed : (c.close w { s with error := some (CycleFault.fetchFailed cause).message }).2.BeganAt
      now := beganAt_close started
  rw [abort]
  generalize c.close w _ = result at closed
  obtain ⟨_ | _, next⟩ := result <;> exact closed

theorem beganAt_complete (started : s.startedAt = now) : (c.complete w s).2.BeganAt now := by
  have closed := beganAt_close (w := w) (c := c) started
  rw [complete]
  generalize c.close w s = result at closed
  obtain ⟨_ | _, next⟩ := result <;> exact closed

theorem beganAt_follow (started : s.startedAt = now) (script : Script Unit) :
    (c.follow w s script).2.BeganAt now := by
  obtain ⟨taken, p, -, took, stages⟩ := follow_cases w c s script
  -- Counting events does not move the beginning.
  have counted : p.summary.startedAt = now := by
    rw [took.summary, CycleSummary.foldl_count]
    exact started
  rcases stages with ⟨fault, failed⟩ | completed
  · rw [failed]
    exact ⟨p.summary, rfl, counted⟩
  · rw [completed]
    exact beganAt_complete counted

/-- A cycle that has read the clock leaves a summary of its own, however it ends. -/
theorem beganAt_cycle (gateway : Gateway) (cluster : Cluster)
    (reading : w.clock c.readings = .ok now) :
    (c.cycle w gateway cluster).2.BeganAt now := by
  cases fetched : (gateway.snapshot cluster).outcome with
  | error cause =>
    rw [cycle_of_fetch_error reading fetched]
    exact beganAt_abort rfl cause
  | ok snapshot =>
    rw [cycle_of_snapshot reading fetched]
    exact beganAt_follow rfl _

/-- When the clock can be read, a round leaves the summary of its own cycle. -/
theorem beganAt_round (gateway : Gateway) (cluster : Cluster)
    (reading : w.clock c.readings = .ok now) :
    (c.round w gateway cluster).2.BeganAt now := by
  have ran := beganAt_cycle gateway cluster reading
  rw [round]
  generalize c.cycle w gateway cluster = result at ran
  obtain ⟨failure | returned, reached⟩ := result
  · cases failure with
    | fetchFailed cause => exact ran
    | workFailed cause =>
      -- The summary that is marked is the one that the cycle has begun.
      obtain ⟨own, kept, started⟩ := ran
      have marked := last_markFailed (w := w)
        (c := reached.enter (.note (.cycleFailed (.workFailed cause)))) kept cause
      exact ⟨_, marked, by rw [CycleSummary.startedAt_blame, started]⟩
  · exact ran

/-- A cycle that returns leaves its summary as it is. -/
theorem last_round_of_returned (returned : (c.cycle w gateway cluster).1 = .ok s) :
    (c.round w gateway cluster).2.last = some s := by
  obtain ⟨now, finished, snapshot, p, passes⟩ := passes_of_returned returned
  rw [passes.cycle_eq] at returned
  -- Nothing has failed, so the round has nothing to mark.
  rw [round, passes.cycle_eq]
  cases returned
  rfl

/-- A round that begins nothing blames the summary that was kept. -/
theorem last_round_of_idle (gateway : Gateway) (kept : c.last = some s)
    (idle : ¬CycleRun.Begins w ⟨c, cluster⟩) :
    (c.round w gateway cluster).2.last = some (CycleRun.blames w s ⟨c, cluster⟩) := by
  cases reading : w.clock c.readings with
  | ok now => exact absurd ⟨now, reading⟩ idle
  | error reason =>
    simp only [round, cycle_of_clock_error reading, CycleRun.blames, reading]
    -- The cycle leaves the summary that it finds, and the round marks it.
    have found : ({ c with readings := c.readings + 1 }.enter
        (.note (.cycleFailed (.workFailed (.clockRefused reason))))).last = some s := kept
    exact last_markFailed found _

/-! ### Many rounds -/

/-- The rounds from one cycle on, up to the end. -/
theorem rounds_from {clusters : List Cluster} {before later : List CycleRun} {run : CycleRun}
    (history : c.roundRuns w gateway clusters = before ++ run :: later) :
    ∃ rest, (c.rounds w gateway clusters).2 = (run.start.rounds w gateway (run.cluster :: rest)).2 ∧
      run.start.roundRuns w gateway (run.cluster :: rest) = run :: later := by
  induction clusters generalizing c before with
  | nil => simp [roundRuns] at history
  | cons cluster rest ih =>
    cases before with
    | nil =>
      have first : ⟨c, cluster⟩ = run := by
        rw [roundRuns] at history
        exact (List.cons.inj history).1
      subst first
      exact ⟨rest, rfl, history⟩
    | cons other before =>
      -- The cycle is run after the first round, which therefore has ended well.
      rw [roundRuns, List.cons_append, List.cons.injEq] at history
      rw [rounds]
      generalize c.round w gateway cluster = result at history
      obtain ⟨fault | ⟨⟩, reached⟩ := result
      · simp at history
      · exact ih history.2

/-- While no cycle begins a summary, the one that is kept takes the blame. -/
theorem last_rounds_of_idle {clusters : List Cluster} (kept : c.last = some s)
    (idle : ∀ run ∈ c.roundRuns w gateway clusters, ¬run.Begins w) :
    (c.rounds w gateway clusters).2.last =
      some ((c.roundRuns w gateway clusters).foldl (CycleRun.blames w) s) := by
  induction clusters generalizing c s with
  | nil => exact kept
  | cons cluster rest ih =>
    rw [roundRuns, List.forall_mem_cons] at idle
    -- The first cycle hands on the summary it has blamed, also when its round ends the rounds.
    have one := last_round_of_idle gateway kept idle.1
    rw [rounds, roundRuns, List.foldl_cons]
    generalize c.round w gateway cluster = result at one idle
    obtain ⟨fault | ⟨⟩, reached⟩ := result
    · exact one
    · exact ih one idle.2

/-- Behind a round, the summary that it has left takes the blame of the idle cycles after it. -/
theorem last_rounds_behind {clusters : List Cluster} {later : List CycleRun} {run : CycleRun}
    (runs : run.start.roundRuns w gateway (run.cluster :: clusters) = run :: later)
    (left : (run.start.round w gateway run.cluster).2.last = some s)
    (idle : ∀ other ∈ later, ¬other.Begins w) :
    (run.start.rounds w gateway (run.cluster :: clusters)).2.last =
      some (later.foldl (CycleRun.blames w) s) := by
  rw [roundRuns, List.cons.injEq] at runs
  obtain ⟨-, rfl⟩ := runs
  rw [rounds]
  -- The first cycle is behind; only what it has left matters from here on.
  generalize run.start.round w gateway run.cluster = result at left idle
  obtain ⟨fault | ⟨⟩, reached⟩ := result
  · exact left
  · have waited : (reached.enter (.wait interval)).last = some s := left
    exact last_rounds_of_idle waited idle

/-- The collector keeps the summary of the last cycle that has begun one. -/
theorem beganAt_rounds {clusters : List Cluster} {before later : List CycleRun} {run : CycleRun}
    (history : c.roundRuns w gateway clusters = before ++ run :: later)
    (reading : w.clock run.start.readings = .ok now) (idle : ∀ other ∈ later, ¬other.Begins w) :
    (c.rounds w gateway clusters).2.BeganAt now := by
  obtain ⟨rest, reached, runs⟩ := rounds_from history
  obtain ⟨own, left, started⟩ := beganAt_round gateway run.cluster reading
  have kept := last_rounds_behind runs left idle
  rw [reached]
  exact ⟨_, kept, by rw [CycleRun.startedAt_foldl_blames, started]⟩

end Collector

/-! ## Main result -/

/-- In a watch, whatever its clock, its sink and the clusters do, let a cycle return. Its summary
has no error and is closed. While no later cycle begins a summary of its own, the collector keeps
that of the cycle: untouched as long as no cycle has followed at all, and else marked and closed
again for the first that has. After that it keeps the summary of the last cycle that has begun
one. -/
theorem completed_summary_is_blamed (w : Surroundings) (gateway : Gateway) (c : Collector)
    (clusters : List Cluster) {before later : List CycleRun} {run : CycleRun} {s : CycleSummary}
    (history : (c.carryOut w gateway (.watch clusters)).2 = before ++ run :: later)
    (returned : (run.result w gateway).1 = .ok s) :
    let last := (c.carryOut w gateway (.watch clusters)).1.last
    s.error = none ∧ s.finishedAt.isSome ∧
      ((∀ other ∈ later, ¬other.Begins w) →
        match later with
        | [] => last = some s
        | first :: _ => ∃ reason, w.clock first.start.readings = .error reason ∧
            last = some ({ s with error := some ("cycle failed: " ++ reason) }.closedBy
              (w.clock (first.start.readings + 1)))) ∧
      ∀ other : CycleRun, other.IsLastOf w later →
        ∃ own, last = some own ∧ w.clock other.start.readings = .ok own.startedAt := by
  intro last
  obtain ⟨now, finished, snapshot, p, passes⟩ := Collector.passes_of_returned returned
  have outcome : s = { p.summary with finishedAt := some finished } := by
    rw [CycleRun.result, passes.cycle_eq] at returned
    cases returned
    rfl
  -- A cycle that goes through closes its summary without an error.
  have faultless : s.error = none := by
    rw [outcome]
    exact passes.faultless
  refine ⟨faultless, by rw [outcome]; rfl, fun idle => ?_, ?_⟩
  · -- Without a later summary the one of this cycle is kept, under the blame of all later cycles.
    obtain ⟨rest, reached, runs⟩ := Collector.rounds_from history
    have kept : last = some (later.foldl (CycleRun.blames w) s) := by
      rw [← Collector.last_rounds_behind runs (Collector.last_round_of_returned returned) idle]
      exact congrArg Collector.last reached
    cases later with
    | nil => exact kept
    | cons first others =>
      have firstIdle := idle first (List.mem_cons_self)
      -- The first of the later cycles marks it, and the others leave the mark.
      rw [List.foldl_cons, CycleRun.foldl_blames_of_error (CycleRun.error_blames firstIdle)] at kept
      obtain ⟨reason, refused, blamed⟩ := CycleRun.blames_of_idle firstIdle faultless
      exact ⟨reason, refused, by rw [kept, blamed]⟩
  · rintro other ⟨between, after, rfl, ⟨moment, reading⟩, idle⟩
    -- Counted from the last cycle that begins a summary, no later one begins any.
    rw [← List.cons_append, ← List.append_assoc] at history
    obtain ⟨own, kept, rfl⟩ := Collector.beganAt_rounds history reading idle
    exact ⟨own, kept, reading⟩

/-! ### A clock that fails once -/

/-- The third reading fails. -/
def Faltering.surroundings : Surroundings where
  clock
    | 0 => .ok ⟨1714564800000000, some 0⟩
    | 1 => .ok ⟨1714564801250000, some 0⟩
    | 2 => .error "clock failed"
    | _ => .ok ⟨1714564832000000, some 0⟩
  sink := fun _ => none

def Faltering.vacant : Cluster :=
  ⟨.ok [], .ok [], fun _ => .ok (.object [("items", .list [])])⟩

open Faltering in
/-- The first of two cycles returns; the second cannot read the clock and is not told of. -/
theorem completed_summary_is_blamed_sample :
    ∃ first second s,
      (({} : Collector).carryOut surroundings ⟨true, 5⟩ (.watch [vacant, vacant])).2 =
        [] ++ first :: [second] ∧
      (first.result surroundings ⟨true, 5⟩).1 = .ok s ∧ ¬second.Begins surroundings ∧
      ∃ reason, surroundings.clock second.start.readings = .error reason ∧
        (({} : Collector).carryOut surroundings ⟨true, 5⟩ (.watch [vacant, vacant])).1.last =
          some ({ s with error := some ("cycle failed: " ++ reason) }.closedBy
            (surroundings.clock (second.start.readings + 1))) := by
  obtain ⟨first, second, s, history, returned, refused⟩ : ∃ first second s,
      (({} : Collector).carryOut surroundings ⟨true, 5⟩ (.watch [vacant, vacant])).2 =
        [] ++ first :: [second] ∧
      (first.result surroundings ⟨true, 5⟩).1 = .ok s ∧
      surroundings.clock second.start.readings = .error "clock failed" :=
    ⟨_, _, _, rfl, rfl, rfl⟩
  -- The third reading is refused, so the second cycle begins nothing.
  have idle : ¬second.Begins surroundings := by
    rintro ⟨now, reading⟩
    rw [refused] at reading
    cases reading
  obtain ⟨-, -, blamed, -⟩ := completed_summary_is_blamed _ _ _ _ history returned
  exact ⟨first, second, s, history, returned, idle, blamed (by simpa using idle)⟩

open Faltering in
/-- A summary that was closed without an error has an error and another time at the end, although no
other cycle has begun a summary. -/
theorem completed_summary_rewritten :
    ∃ first second s,
      (({} : Collector).carryOut surroundings ⟨true, 5⟩ (.watch [vacant, vacant])).2 =
        [first, second] ∧
      (first.result surroundings ⟨true, 5⟩).1 = .ok s ∧
      (first.result surroundings ⟨true, 5⟩).2.last = some s ∧
      s.error = none ∧ s.finishedAt = some ⟨1714564801250000, some 0⟩ ∧
      surroundings.clock second.start.readings = .error "clock failed" ∧
      (({} : Collector).carryOut surroundings ⟨true, 5⟩ (.watch [vacant, vacant])).1.last =
        some { s with
          error := some "cycle failed: clock failed"
          finishedAt := some ⟨1714564832000000, some 0⟩ } :=
  ⟨_, _, _, rfl, rfl, rfl, rfl, rfl, rfl, rfl⟩

end ClusterCensus
