import ClusterCensus.Proofs.Cycle.Stages

/-!
# Whose summary a collector keeps

A collector is told to run single cycles and to watch, in any sequence. The cycles that it runs are
recorded here beside it. A cycle that cannot read the clock at its beginning has no summary of its
own; then the collector keeps that of an earlier cycle, and a watch marks it as failed. Whatever
fails, the clock, a fetch, the work or the sink, a summary without an error that has been closed is
what the cycle has returned.

## Main result

`carryOutAll_keeps`: which cycle the last summary belongs to, after any commands.
-/
namespace ClusterCensus

/-- What a collector can be told to do. -/
inductive Command where
  | cycle (cluster : Cluster)
  /-- To watch a cluster through the states it takes on. -/
  | watch (clusters : List Cluster)

/-- A cycle that has been run, and the collector as it was before. -/
structure CycleRun where
  start : Collector
  cluster : Cluster

namespace CycleRun

def result (w : Surroundings) (gateway : Gateway) (run : CycleRun) :
    Except CycleFault CycleSummary × Collector :=
  run.start.cycle w gateway run.cluster

def Begins (w : Surroundings) (run : CycleRun) : Prop :=
  ∃ now, w.clock run.start.readings = .ok now

/-- The cycle is the last of some cycles that has begun a summary. -/
def IsLastOf (w : Surroundings) (runs : List CycleRun) (run : CycleRun) : Prop :=
  ∃ before later, runs = before ++ run :: later ∧ run.Begins w ∧ ∀ other ∈ later, ¬other.Begins w

variable {w : Surroundings} {runs : List CycleRun} {run other : CycleRun}

theorem Begins.isLastOf (begins : run.Begins w) (runs : List CycleRun) :
    run.IsLastOf w (runs ++ [run]) :=
  ⟨runs, [], rfl, begins, by simp⟩

/-- A cycle that begins nothing does not change which is the last that has. -/
theorem IsLastOf.append (isLast : run.IsLastOf w runs) (idle : ¬other.Begins w) :
    run.IsLastOf w (runs ++ [other]) := by
  obtain ⟨before, later, rfl, begins, idleLater⟩ := isLast
  refine ⟨before, later ++ [other], by simp, begins, ?_⟩
  intro one member
  rcases List.mem_append.mp member with member | member
  · exact idleLater one member
  · rwa [List.mem_singleton.mp member]

end CycleRun

namespace Collector

variable {w : Surroundings} {gateway : Gateway} {cluster : Cluster} {c next : Collector}
  {runs : List CycleRun}

/-! ### Carrying out commands -/

/-- The cycles of some rounds, up to the first round that fails. -/
def roundRuns (w : Surroundings) (gateway : Gateway) (c : Collector) : List Cluster → List CycleRun
  | [] => []
  | cluster :: rest =>
    ⟨c, cluster⟩ ::
      match c.round w gateway cluster with
      | (.error _, _) => []
      | (.ok (), next) => (next.enter (.wait interval)).roundRuns w gateway rest

/-- Carries out a command, and tells the cycles that this takes. -/
def carryOut (w : Surroundings) (gateway : Gateway) (c : Collector) :
    Command → Collector × List CycleRun
  | .cycle cluster => ((c.cycle w gateway cluster).2, [⟨c, cluster⟩])
  | .watch clusters =>
    ((c.watch w gateway clusters).2,
      (c.enter (.note (.watchStarted interval))).roundRuns w gateway clusters)

/-- A fresh collector when it has carried out some commands, with all the cycles it has run. -/
def carryOutAll (w : Surroundings) (gateway : Gateway) (commands : List Command) :
    Collector × List CycleRun :=
  commands.foldl (fun state command =>
    let carried := state.1.carryOut w gateway command
    (carried.1, state.2 ++ carried.2)) ({}, [])

/-! ### What the last summary is -/

/-- The collector keeps no summary if none of the cycles has begun one. Otherwise it keeps that of
the last cycle which has; when this is closed and without an error, the cycle has returned it. -/
def Keeps (w : Surroundings) (gateway : Gateway) (runs : List CycleRun) (c : Collector) : Prop :=
  (c.last = none ∧ ∀ run ∈ runs, ¬run.Begins w) ∨
    ∃ (run : CycleRun) (s : CycleSummary), run.IsLastOf w runs ∧ c.last = some s ∧
      (s.error = none → s.finishedAt.isSome → (run.result w gateway).1 = .ok s)

theorem Keeps.congr (keeps : c.Keeps w gateway runs) (same : next.last = c.last) :
    next.Keeps w gateway runs := by
  unfold Keeps
  rwa [same]

/-- A summary with an error may replace the one that is kept. -/
theorem Keeps.mark (keeps : c.Keeps w gateway runs) {summary s : CycleSummary}
    (kept : c.last = some summary) (marked : next.last = some s) (failed : s.error.isSome) :
    next.Keeps w gateway runs := by
  rcases keeps with ⟨nothing, -⟩ | ⟨run, _, isLast, -, -⟩
  · rw [kept] at nothing
    cases nothing
  · refine .inr ⟨run, s, isLast, marked, ?_⟩
    intro faultless
    rw [faultless] at failed
    cases failed

theorem close_last (w : Surroundings) (c : Collector) (summary : CycleSummary) :
    ∃ s, (c.close w summary).2.last = some s ∧ s.error = summary.error := by
  simp only [close, readClock]
  cases w.clock c.readings with
  | error reason => exact ⟨summary, rfl, rfl⟩
  | ok now => exact ⟨{ summary with finishedAt := some now }, rfl, rfl⟩

theorem abort_last (w : Surroundings) (c : Collector) (summary : CycleSummary) (cause : Fault) :
    ∃ s, (c.abort w summary cause).2.last = some s ∧ s.error.isSome := by
  obtain ⟨s, kept, marked⟩ := close_last w c
    { summary with error := some (CycleFault.fetchFailed cause).message }
  refine ⟨s, ?_, by rw [marked]; rfl⟩
  rw [← kept]
  simp only [abort]
  split <;> simp_all

/-- A cycle that follows a script keeps an open summary, unless it returns. -/
theorem follow_last (w : Surroundings) (c : Collector) (now : Moment) (script : Script Unit) :
    ∃ s, (c.follow w (.begin now) script).2.last = some s ∧
      (s.finishedAt.isSome → (c.follow w (.begin now) script).1 = .ok s) := by
  obtain ⟨taken, p, -, took, stages⟩ := follow_cases w c (.begin now) script
  -- Counting events does not close a summary.
  have unfinished : p.summary.finishedAt = none := by
    rw [took.summary, CycleSummary.foldl_count]
    rfl
  rcases stages with ⟨fault, failed⟩ | completed
  · rw [failed]
    exact ⟨p.summary, rfl, by simp [unfinished]⟩
  · rw [completed]
    cases reading : w.clock (c.reach p).readings with
    | error reason =>
      rw [complete_of_clock_error reading]
      exact ⟨p.summary, rfl, by simp [unfinished]⟩
    | ok finished =>
      rw [complete_of_clock reading]
      exact ⟨_, rfl, fun _ => rfl⟩

/-- A cycle puts its own summary in place of the one kept, or begins none and leaves it. -/
theorem cycle_keeps (keeps : c.Keeps w gateway runs) (cluster : Cluster) :
    (c.cycle w gateway cluster).2.Keeps w gateway (runs ++ [⟨c, cluster⟩]) := by
  cases reading : w.clock c.readings with
  | error reason =>
    -- The cycle has no summary, and the one that was kept stays.
    have idle : ¬CycleRun.Begins w ⟨c, cluster⟩ := by
      rintro ⟨now, read⟩
      rw [reading] at read
      cases read
    rw [cycle_of_clock_error reading]
    rcases keeps with ⟨nothing, none⟩ | ⟨run, s, isLast, kept, returned⟩
    · refine .inl ⟨nothing, ?_⟩
      intro run member
      rcases List.mem_append.mp member with member | member
      · exact none run member
      · rwa [List.mem_singleton.mp member]
    · exact .inr ⟨run, s, isLast.append idle, kept, returned⟩
  | ok now =>
    have begins : CycleRun.Begins w ⟨c, cluster⟩ := ⟨now, reading⟩
    cases fetched : (gateway.snapshot cluster).outcome with
    | error cause =>
      -- The summary has an error, so there is nothing to show of the outcome.
      obtain ⟨s, kept, failed⟩ :=
        abort_last w (c.begun now (gateway.snapshot cluster).events) (.begin now) cause
      refine .inr ⟨⟨c, cluster⟩, s, begins.isLastOf runs, ?_, ?_⟩
      · rw [cycle_of_fetch_error reading fetched, kept]
      · intro faultless
        rw [faultless] at failed
        cases failed
    | ok snapshot =>
      obtain ⟨s, kept, returned⟩ :=
        follow_last w (c.begun now (gateway.snapshot cluster).events) now (.ofSnapshot now snapshot)
      rw [← cycle_of_snapshot reading fetched] at kept returned
      exact .inr ⟨⟨c, cluster⟩, s, begins.isLastOf runs, kept, fun _ => returned⟩

/-- A summary that is marked is not claimed to have been returned. -/
theorem markFailed_keeps (keeps : c.Keeps w gateway runs) (fault : Fault) :
    (c.markFailed w fault).2.Keeps w gateway runs := by
  unfold markFailed
  cases kept : c.last with
  | none => exact keeps
  | some summary =>
    -- An error that is there already is left, and so is the summary.
    by_cases marked : summary.error.isSome
    · simpa [marked] using keeps
    · obtain ⟨s, closed, error⟩ := close_last w c
        { summary with error := some ("cycle failed: " ++ fault.message) }
      simp only [marked, Bool.false_eq_true, if_false]
      generalize c.close w _ = result at closed
      obtain ⟨_ | _, next⟩ := result <;> exact keeps.mark kept closed (by rw [error]; rfl)

/-- Whatever a round does after its cycle, it does to the summary that is kept. -/
theorem round_keeps (keeps : c.Keeps w gateway runs) (cluster : Cluster) :
    (c.round w gateway cluster).2.Keeps w gateway (runs ++ [⟨c, cluster⟩]) := by
  have ran := cycle_keeps keeps cluster
  rw [round]
  generalize c.cycle w gateway cluster = result at ran
  obtain ⟨failure | s, reached⟩ := result
  · -- Only work that fails is reported on the summary; a failed fetch has closed its own.
    cases failure with
    | fetchFailed cause => exact ran.congr rfl
    | workFailed cause =>
      have noted : (reached.enter (.note (.cycleFailed (.workFailed cause)))).Keeps w gateway
          (runs ++ [⟨c, cluster⟩]) := ran.congr rfl
      exact markFailed_keeps noted cause
  · exact ran

/-- After some rounds the last summary begun is kept. -/
theorem rounds_keeps (keeps : c.Keeps w gateway runs) (clusters : List Cluster) :
    (c.rounds w gateway clusters).2.Keeps w gateway (runs ++ c.roundRuns w gateway clusters) := by
  induction clusters generalizing c runs with
  | nil =>
    rw [roundRuns, List.append_nil]
    exact keeps.congr rfl
  | cons cluster rest ih =>
    have ran := round_keeps keeps cluster
    rw [rounds, roundRuns]
    generalize c.round w gateway cluster = result at ran
    obtain ⟨fault | ⟨⟩, reached⟩ := result
    · -- A round that fails is the last.
      exact ran
    · -- The rounds go on from the collector that has waited.
      have waited : (reached.enter (.wait interval)).Keeps w gateway (runs ++ [⟨c, cluster⟩]) :=
        ran.congr rfl
      have onward := ih waited
      rwa [List.append_assoc] at onward

theorem carryOut_keeps (keeps : c.Keeps w gateway runs) (command : Command) :
    (c.carryOut w gateway command).1.Keeps w gateway
      (runs ++ (c.carryOut w gateway command).2) := by
  cases command with
  | cycle cluster => exact cycle_keeps keeps cluster
  | watch clusters =>
    have started : (c.enter (.note (.watchStarted interval))).Keeps w gateway runs :=
      keeps.congr rfl
    exact rounds_keeps started clusters

/-! ## Main result -/

/-- After any commands, the collector keeps the summary of the last cycle that has begun one. -/
theorem carryOutAll_keeps (w : Surroundings) (gateway : Gateway) (commands : List Command) :
    (carryOutAll w gateway commands).1.Keeps w gateway (carryOutAll w gateway commands).2 := by
  have onward : ∀ (c : Collector) (runs : List CycleRun), c.Keeps w gateway runs →
      let state := commands.foldl (fun state command =>
        let carried := state.1.carryOut w gateway command
        (carried.1, state.2 ++ carried.2)) (c, runs)
      state.1.Keeps w gateway state.2 := by
    -- Every command starts from a collector that keeps the summary of the cycles so far.
    induction commands with
    | nil => exact fun _ _ keeps => keeps
    | cons command rest ih => exact fun c runs keeps => ih _ _ (carryOut_keeps keeps command)
  exact onward {} [] (.inl ⟨rfl, by simp⟩)

end Collector
end ClusterCensus
