import ClusterCensus.Proofs.Cycle.Counts
import ClusterCensus.Proofs.Cycle.Stages
import ClusterCensus.Proofs.Cycle.Watch
import ClusterCensus.Proofs.Gateway.Fetches

/-!
# Nothing is written on partial data

A cycle writes only when all its data has been fetched and all pods have been scanned. If a fetch
fails, the cycle is given up with the fault of that fetch, and no later one is made. If the work
fails before the last pod has been scanned, no line has been written either.

## Main result

`nothing_written_on_partial_data`: the two kinds of failure, and what each of them leaves.
-/
namespace ClusterCensus

open Collector

variable {w : Surroundings} {gateway : Gateway} {cluster : Cluster} {c : Collector} {now : Moment}

/-! ### A cycle whose data could not be fetched -/

namespace Collector

/-- The cycle is given up at the last of the fetches made: it tells the cause, it has made these
requests and done nothing else, and its summary is closed with the error and counts nothing. -/
structure GivenUp (w : Surroundings) (gateway : Gateway) (c : Collector) (now : Moment)
    (made : List Fetch) (cause : Fault) (outcome : Except CycleFault CycleSummary)
    (next : Collector) : Prop where
  outcome : ∃ failure, outcome = .error failure ∧ failure = .fetchFailed cause ∧
    failure.message = "fetch failed: " ++ cause.message
  journal : next.journal = c.journal ++ (gateway.asked made).map Entry.request
  lines : next.lines = c.lines
  last : ∃ finished, w.clock (c.readings + 1) = .ok finished ∧
    next.last = some
      { startedAt := now
        finishedAt := some finished
        podsScanned := 0
        podsSkipped := 0
        podRecords := 0
        nodesScanned := 0
        nodeRecords := 0
        serializationFailures := 0
        error := some ("fetch failed: " ++ cause.message) }

end Collector

/-- A cycle whose fetch fails is given up before anything is written. -/
theorem givenUp_of_fetch_error (steady : w.Steady) (reading : w.clock c.readings = .ok now)
    {made : List Fetch} {cause : Fault}
    (failed : (gateway.snapshot cluster).outcome = .error cause)
    (asks : (gateway.snapshot cluster).events = gateway.asked made) :
    c.GivenUp w gateway now made cause (c.cycle w gateway cluster).1
      (c.cycle w gateway cluster).2 := by
  obtain ⟨finished, readAgain⟩ := steady (c.readings + 1)
  have begun : w.clock (c.begun now (gateway.asked made)).readings = .ok finished := readAgain
  rw [cycle_of_fetch_error reading failed, asks, abort_of_clock begun]
  have lines : (c.begun now (gateway.asked made)).lines = c.lines := filterMap_line?_begun _ _ _
  exact ⟨⟨_, rfl, rfl, rfl⟩, rfl, lines, finished, readAgain, rfl⟩

/-! ### A cycle that follows a script -/

namespace Collector

/-- The cycle has followed its script as far as these events, and has not been given up: their lines
have been written, and their pods have been counted. -/
structure Followed (c : Collector) (taken : List CycleEvent)
    (outcome : Except CycleFault CycleSummary) (next : Collector) : Prop where
  lines : next.lines = c.lines ++ taken.filterMap CycleEvent.line?
  counted : ∃ s, next.last = some s ∧ s.podsScanned = taken.countP CycleEvent.isPodScanned
  outcome : ∀ cause, outcome ≠ .error (.fetchFailed cause)

theorem Followed.congr {one other : Collector} {taken : List CycleEvent}
    {outcome : Except CycleFault CycleSummary} {next : Collector} (same : one.lines = other.lines)
    (followed : one.Followed taken outcome next) : other.Followed taken outcome next :=
  ⟨same ▸ followed.lines, followed.counted, followed.outcome⟩

/-- However a cycle ends that follows a script, it has taken a part of its events: all of them
unless the sink refuses a line. -/
theorem follow_followed (steady : w.Steady) (c : Collector) (now : Moment)
    (script : Script Unit) :
    ∃ taken, taken <+: script.events ∧
      c.Followed taken (c.follow w (.begin now) script).1 (c.follow w (.begin now) script).2 := by
  obtain ⟨taken, p, begins, took, stages⟩ := follow_cases w c (.begin now) script
  have counted : p.summary.podsScanned = taken.countP CycleEvent.isPodScanned := by
    rw [took.summary, CycleSummary.foldl_count]
    exact Int.zero_add _
  refine ⟨taken, begins, ?_⟩
  rcases stages with ⟨fault, failed⟩ | completed
  · rw [failed]
    exact ⟨took.lines, ⟨_, rfl, counted⟩, by simp⟩
  · obtain ⟨finished, readAgain⟩ := steady (c.reach p).readings
    rw [completed, complete_of_clock readAgain]
    -- The note at the end is no line, and closing the summary counts nothing.
    refine ⟨?_, ⟨_, rfl, counted⟩, by simp⟩
    rw [lines, List.filterMap_append]
    exact (List.append_nil _).trans took.lines

end Collector

/-- A cycle that has fetched everything follows its script, up to some point. -/
theorem cycle_followed (steady : w.Steady) (reading : w.clock c.readings = .ok now)
    {snapshot : Snapshot} (fetched : (gateway.snapshot cluster).outcome = .ok snapshot) :
    ∃ taken, taken <+: (Script.ofSnapshot now snapshot).events ∧
      c.Followed taken (c.cycle w gateway cluster).1 (c.cycle w gateway cluster).2 := by
  obtain ⟨taken, begins, followed⟩ := follow_followed steady
    (c.begun now (gateway.snapshot cluster).events) now (Script.ofSnapshot now snapshot)
  rw [cycle_of_snapshot reading fetched]
  exact ⟨taken, begins, followed.congr (filterMap_line?_begun _ _ _)⟩

/-- Once the data has been fetched, no cycle is given up for want of it. -/
theorem fetchFailed_iff (steady : w.Steady) (reading : w.clock c.readings = .ok now) :
    (∃ cause, (c.cycle w gateway cluster).1 = .error (.fetchFailed cause)) ↔
      ∃ fetch ∈ gateway.fetches cluster, fetch.failure.isSome := by
  rcases Gateway.makes_fetches gateway cluster with ⟨fine, ⟨snapshot, fetched⟩, -⟩ |
    ⟨before, fetch, later, cause, split, -, broken, stopped, asks⟩
  · -- All is fetched, and whatever stops the cycle then is no fetch.
    obtain ⟨taken, -, followed⟩ := cycle_followed steady reading fetched
    refine iff_of_false ?_ ?_
    · rintro ⟨cause, failed⟩
      exact followed.outcome cause failed
    · rintro ⟨fetch, member, broken⟩
      simp [fine fetch member] at broken
  · -- The cycle stops at the first fetch that fails.
    have givenUp := givenUp_of_fetch_error steady reading stopped asks
    obtain ⟨failure, ended, rfl, -⟩ := givenUp.outcome
    exact iff_of_true ⟨cause, ended⟩ ⟨fetch, by simp [split], by simp [broken]⟩

/-! ### Up to the last pod -/

namespace Script

/-- No line is written before all pods have been scanned. -/
theorem silent_within_survey {snapshot : Snapshot} {taken : List CycleEvent}
    (within : taken <+: (survey now snapshot).events) :
    taken.filterMap CycleEvent.line? = [] :=
  List.filterMap_eq_nil_iff.mpr fun event member =>
    silent_survey now snapshot event (within.subset member)

/-- When a part of a script has a line, all pods have been counted. -/
theorem counted_of_line {snapshot : Snapshot} {taken : List CycleEvent}
    (begins : taken <+: (ofSnapshot now snapshot).events)
    (written : taken.filterMap CycleEvent.line? ≠ []) :
    taken.countP CycleEvent.isPodScanned = snapshot.pods.length := by
  -- The part does not end within the survey, since it would have no line.
  have beyond : ¬taken <+: (survey now snapshot).events :=
    fun within => written (silent_within_survey within)
  rw [ofSnapshot_eq] at begins
  cases surveyed : (survey now snapshot).outcome with
  | error fault =>
    rw [Trace.bind_events_of_error surveyed] at begins
    exact absurd begins beyond
  | ok found =>
    rw [Trace.bind_events_of_ok surveyed] at begins
    rcases List.prefix_or_prefix_of_prefix begins (List.prefix_append _ _) with within | past
    · exact absurd within beyond
    · obtain ⟨emitted, rfl⟩ := past
      have inside := (List.prefix_append_right_inj _).mp begins
      have podless : emitted.countP CycleEvent.isPodScanned = 0 := by
        refine List.countP_eq_zero.mpr fun event member => ?_
        rw [(podless_emission _ found event (inside.subset member)).1]
        exact Bool.false_ne_true
      rw [List.countP_append, (countP_survey surveyed).1, podless, Nat.add_zero]

end Script

/-- A cycle that fails at its survey tells why. -/
theorem cycle_of_survey_error (reading : w.clock c.readings = .ok now) {snapshot : Snapshot}
    (fetched : (gateway.snapshot cluster).outcome = .ok snapshot) {fault : Fault}
    (failed : (Script.survey now snapshot).outcome = .error fault) :
    (c.cycle w gateway cluster).1 = .error (.workFailed fault) := by
  have events : (Script.ofSnapshot now snapshot).events = (Script.survey now snapshot).events := by
    rw [Script.ofSnapshot_eq, Trace.bind_events_of_error failed]
  have ended : (Script.ofSnapshot now snapshot).outcome = .error fault := by
    rw [Script.ofSnapshot_eq, Trace.bind_outcome_of_error failed]
  -- There is no line that the sink could refuse, so the cycle ends at the fault of the survey.
  have silent := Script.silent_survey now snapshot
  rw [Trace.Leaves, ← events] at silent
  rw [cycle_of_snapshot reading fetched]
  generalize c.begun now (gateway.snapshot cluster).events = begun
  have unrefused : (Progress.run w.sink ⟨.begin now, begun.offers, begun.journal⟩
      (Script.ofSnapshot now snapshot).events).2 = none := Progress.run_of_silent silent _
  have ran : Progress.run w.sink ⟨.begin now, begun.offers, begun.journal⟩
      (Script.ofSnapshot now snapshot).events = (_, none) := Prod.ext rfl unrefused
  rw [follow_of_fault ran ended]

/-! ## Main result -/

/-- A cycle is given up exactly when one of its four fetches fails: it tells the fault of the first
that does, makes no later one and writes nothing. When its work fails before all pods have been
scanned, nothing has been written either; so whenever a cycle has written a line, it has scanned
every pod. -/
theorem nothing_written_on_partial_data (w : Surroundings) (gateway : Gateway) (cluster : Cluster)
    (c : Collector) (steady : w.Steady) :
    let run := c.cycle w gateway cluster
    ∃ now, w.clock c.readings = .ok now ∧
    ((∃ cause, run.1 = .error (.fetchFailed cause)) ↔
      ∃ fetch ∈ gateway.fetches cluster, fetch.failure.isSome) ∧
    (∀ before fetch later cause, gateway.fetches cluster = before ++ fetch :: later →
      (∀ earlier ∈ before, earlier.failure = none) → fetch.failure = some cause →
      c.GivenUp w gateway now (before ++ [fetch]) cause run.1 run.2) ∧
    (∀ snapshot fault, (gateway.snapshot cluster).outcome = .ok snapshot →
      (Script.survey now snapshot).outcome = .error fault →
      run.1 = .error (.workFailed fault) ∧ run.2.lines = c.lines) ∧
    ∃ written, run.2.lines = c.lines ++ written ∧
      (written ≠ [] → ∃ pods s, cluster.pods = .ok pods ∧ run.2.last = some s ∧
        s.podsScanned = pods.length) := by
  intro run
  obtain ⟨now, reading⟩ := steady c.readings
  have makes := Gateway.makes_fetches gateway cluster
  refine ⟨now, reading, fetchFailed_iff steady reading, ?_, ?_, ?_⟩
  · intro before fetch later cause split fine broken
    -- No fetch before this one fails, so it is the first.
    obtain ⟨stopped, asks⟩ := makes.stops split fine broken
    exact givenUp_of_fetch_error steady reading stopped asks
  · intro snapshot fault fetched failed
    refine ⟨cycle_of_survey_error reading fetched failed, ?_⟩
    obtain ⟨taken, begins, followed⟩ := cycle_followed steady reading fetched
    -- A survey that fails is all there is of the script.
    rw [Script.ofSnapshot_eq, Trace.bind_events_of_error failed] at begins
    rw [followed.lines, Script.silent_within_survey begins, List.append_nil]
  · rcases makes with ⟨-, ⟨snapshot, fetched⟩, -⟩ |
      ⟨before, fetch, later, cause, -, -, -, stopped, asks⟩
    · obtain ⟨taken, begins, followed⟩ := cycle_followed steady reading fetched
      obtain ⟨-, pods, -⟩ := Gateway.snapshot_ok_iff.mp fetched
      obtain ⟨s, kept, scanned⟩ := followed.counted
      refine ⟨_, followed.lines, fun written => ⟨_, s, pods, kept, ?_⟩⟩
      -- A line comes from the emission, so the survey is complete and counts all pods.
      rw [scanned, Script.counted_of_line begins written]
    · have givenUp := givenUp_of_fetch_error steady reading stopped asks
      exact ⟨[], by simp [run, givenUp.lines], fun written => absurd rfl written⟩

/-! ### A sample -/

namespace Sample

/-- A cluster whose pod metrics have a number for items, and which refuses the node metrics. -/
def unreadable : Cluster where
  pods := .ok []
  nodes := .ok []
  metrics
    | .pods => .ok (.object [("items", .int 5)])
    | .nodes => .error "refused"

end Sample

/-- The cycle is given up at the pod metrics, so the refusal of the node metrics is never met. -/
theorem nothing_written_on_partial_data_sample :
    Sample.surroundings.Steady ∧
      ({} : Collector).GivenUp Sample.surroundings ⟨true, 5⟩ ⟨0, none⟩
        ((Gateway.fetches ⟨true, 5⟩ Sample.unreadable).take 3) (.noItems .int)
        (({} : Collector).cycle Sample.surroundings ⟨true, 5⟩ Sample.unreadable).1
        (({} : Collector).cycle Sample.surroundings ⟨true, 5⟩ Sample.unreadable).2 := by
  have steady : Sample.surroundings.Steady := fun n => ⟨_, rfl⟩
  obtain ⟨now, reading, -, givenUp, -⟩ :=
    nothing_written_on_partial_data Sample.surroundings ⟨true, 5⟩ Sample.unreadable {} steady
  obtain rfl : ⟨0, none⟩ = now := Except.ok.inj reading
  have split : Gateway.fetches ⟨true, 5⟩ Sample.unreadable =
      [⟨.pods 5, none⟩, ⟨.nodes 5, none⟩] ++ ⟨.metrics .pods "v1beta1" 5, some (.noItems .int)⟩ ::
        [⟨.metrics .nodes "v1beta1" 5, some (.fetchRefused "refused")⟩] := rfl
  refine ⟨steady, ?_⟩
  rw [split]
  exact givenUp _ _ _ _ split (by simp) rfl

end ClusterCensus
