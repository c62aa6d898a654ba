import ClusterCensus.Proofs.Cycle.Ledger
import Mathlib.Logic.Basic

/-!
# The stages of a cycle

A cycle reads the clock, fetches, follows its script and reads the clock again. Each stage either
ends the cycle or hands over to the next. Here each of these turns is one equation, so that a cycle
can be followed from stage to stage.

## Main results

`passes_of_returned` and `Passes.cycle_eq`: a cycle returns only when every stage goes through, and
then it returns what the stages have counted.
-/
namespace ClusterCensus.Collector

variable {w : Surroundings} {gateway : Gateway} {cluster : Cluster} {c : Collector} {now : Moment}

/-- The collector when its cycle has begun and some requests have been put. -/
def begun (c : Collector) (now : Moment) (requests : List Request) : Collector where
  last := some (.begin now)
  readings := c.readings + 1
  offers := c.offers
  journal := c.journal ++ requests.map Entry.request

theorem filterMap_line?_begun (c : Collector) (now : Moment) (requests : List Request) :
    (c.begun now requests).journal.filterMap Entry.line? = c.journal.filterMap Entry.line? := by
  -- Requests are no lines.
  have silent : (requests.map Entry.request).filterMap Entry.line? = [] := by
    simp [List.filterMap_map, Function.comp_def, Entry.line?]
  rw [begun, List.filterMap_append, silent, List.append_nil]

/-- The collector when its script has been followed so far. -/
def reach (c : Collector) (p : Progress) : Collector :=
  { c with last := some p.summary, offers := p.offers, journal := p.journal }

/-! ### From the clock to the script -/

theorem cycle_of_clock_error {reason : String} (refused : w.clock c.readings = .error reason) :
    c.cycle w gateway cluster =
      (.error (.workFailed (.clockRefused reason)), { c with readings := c.readings + 1 }) := by
  simp only [cycle, readClock, refused, Except.mapError]

theorem cycle_of_fetch_error {cause : Fault} (reading : w.clock c.readings = .ok now)
    (failed : (gateway.snapshot cluster).outcome = .error cause) :
    c.cycle w gateway cluster =
      (c.begun now (gateway.snapshot cluster).events).abort w (.begin now) cause := by
  simp only [cycle, readClock, reading, Except.mapError, failed]
  rfl

theorem cycle_of_snapshot {snapshot : Snapshot} (reading : w.clock c.readings = .ok now)
    (fetched : (gateway.snapshot cluster).outcome = .ok snapshot) :
    c.cycle w gateway cluster =
      (c.begun now (gateway.snapshot cluster).events).follow w (.begin now)
        (.ofSnapshot now snapshot) := by
  simp only [cycle, readClock, reading, Except.mapError, fetched]
  rfl

/-- A cycle that is given up closes its summary with the error. -/
theorem abort_of_clock {finished : Moment} (reading : w.clock c.readings = .ok finished)
    (summary : CycleSummary) (cause : Fault) :
    c.abort w summary cause =
      (.error (.fetchFailed cause),
        { c with
          last := some { summary with
            finishedAt := some finished
            error := some ("fetch failed: " ++ cause.message) }
          readings := c.readings + 1 }) := by
  simp only [abort, close, readClock, reading]
  rfl

theorem abort_ne_ok (w : Surroundings) (c : Collector) (summary s : CycleSummary) (cause : Fault) :
    (c.abort w summary cause).1 ≠ .ok s := by
  intro returned
  simp only [abort] at returned
  split at returned <;> cases returned

/-! ### The script -/

section

variable {summary : CycleSummary} {script : Script Unit} {p : Progress} {fault : Fault}

/-- A refused line ends the script where it is. -/
theorem follow_of_refusal
    (ran : Progress.run w.sink ⟨summary, c.offers, c.journal⟩ script.events = (p, some fault)) :
    c.follow w summary script = (.error (.workFailed fault), c.reach p) := by
  simp only [follow, ran]
  rfl

theorem follow_of_fault
    (ran : Progress.run w.sink ⟨summary, c.offers, c.journal⟩ script.events = (p, none))
    (failed : script.outcome = .error fault) :
    c.follow w summary script = (.error (.workFailed fault), c.reach p) := by
  simp only [follow, ran, failed]
  rfl

/-- A script that ends well is completed. -/
theorem follow_of_ok
    (ran : Progress.run w.sink ⟨summary, c.offers, c.journal⟩ script.events = (p, none))
    (ended : script.outcome = .ok ()) :
    c.follow w summary script = (c.reach p).complete w p.summary := by
  simp only [follow, ran, ended]
  rfl

/-- A cycle follows its script to some progress, where it either fails or is completed. -/
theorem follow_cases (w : Surroundings) (c : Collector) (summary : CycleSummary)
    (script : Script Unit) :
    ∃ taken p, taken <+: script.events ∧
      Progress.Took ⟨summary, c.offers, c.journal⟩ p taken ∧
      ((∃ fault, c.follow w summary script = (.error (.workFailed fault), c.reach p)) ∨
        c.follow w summary script = (c.reach p).complete w p.summary) := by
  obtain ⟨taken, begins, took, -⟩ :=
    Progress.run_took w.sink ⟨summary, c.offers, c.journal⟩ script.events
  rcases ran : Progress.run w.sink ⟨summary, c.offers, c.journal⟩ script.events with ⟨p, refused⟩
  rw [ran] at took
  refine ⟨taken, p, begins, took, ?_⟩
  -- The sink ends the cycle before the script's own end is looked at.
  cases refused with
  | some fault => exact .inl ⟨fault, follow_of_refusal ran⟩
  | none =>
    cases ended : script.outcome with
    | error fault => exact .inl ⟨fault, follow_of_fault ran ended⟩
    | ok value => exact .inr (follow_of_ok ran ended)

end

/-! ### The end -/

theorem complete_of_clock_error {reason : String} (refused : w.clock c.readings = .error reason)
    (summary : CycleSummary) :
    c.complete w summary =
      (.error (.workFailed (.clockRefused reason)),
        { c with last := some summary, readings := c.readings + 1 }) := by
  simp only [complete, close, readClock, refused]
  rfl

/-- A cycle that goes through closes its summary and tells it. -/
theorem complete_of_clock {finished : Moment} (reading : w.clock c.readings = .ok finished)
    (summary : CycleSummary) :
    c.complete w summary =
      (.ok { summary with finishedAt := some finished },
        { c with
          last := some { summary with finishedAt := some finished }
          readings := c.readings + 1
          journal := c.journal ++ [.note (.cycleComplete summary.podRecords summary.nodeRecords
            summary.podsSkipped)] }) := by
  simp only [complete, close, readClock, reading]
  rfl

/-! ## Main results -/

/-- Every stage of a cycle goes through: the clock can be read at its beginning, all is fetched, the
script is followed to this progress, it ends well, and the clock can be read again. -/
structure Passes (w : Surroundings) (gateway : Gateway) (cluster : Cluster) (c : Collector)
    (now finished : Moment) (snapshot : Snapshot) (p : Progress) : Prop where
  reading : w.clock c.readings = .ok now
  fetched : (gateway.snapshot cluster).outcome = .ok snapshot
  ran : Progress.run w.sink ⟨.begin now, c.offers,
    c.journal ++ (gateway.snapshot cluster).events.map Entry.request⟩
      (Script.ofSnapshot now snapshot).events = (p, none)
  ended : (Script.ofSnapshot now snapshot).outcome = .ok ()
  readAgain : w.clock (c.readings + 1) = .ok finished

namespace Passes

variable {finished : Moment} {snapshot : Snapshot} {p : Progress}
  (passes : Passes w gateway cluster c now finished snapshot p)
include passes

/-- A cycle that goes through returns what its stages have counted, and keeps it. -/
theorem cycle_eq :
    c.cycle w gateway cluster =
      (.ok { p.summary with finishedAt := some finished },
        { last := some { p.summary with finishedAt := some finished }
          readings := c.readings + 2
          offers := p.offers
          journal := p.journal ++ [.note (.cycleComplete p.summary.podRecords p.summary.nodeRecords
            p.summary.podsSkipped)] }) := by
  rw [cycle_of_snapshot passes.reading passes.fetched, follow_of_ok passes.ran passes.ended,
    complete_of_clock passes.readAgain]
  rfl

/-- A cycle that goes through has taken all events of its script. -/
theorem took :
    Progress.Took ⟨.begin now, c.offers,
      (c.begun now (gateway.snapshot cluster).events).journal⟩ p
        (Script.ofSnapshot now snapshot).events := by
  obtain ⟨taken, -, took, whole⟩ := Progress.run_took w.sink ⟨.begin now, c.offers,
    c.journal ++ (gateway.snapshot cluster).events.map Entry.request⟩
      (Script.ofSnapshot now snapshot).events
  rw [passes.ran] at took whole
  rwa [whole rfl] at took

/-- A cycle that goes through reaches its end without an error. -/
theorem faultless : p.summary.error = none := by
  -- Nothing that a script does is an error.
  rw [passes.took.summary, CycleSummary.foldl_count]
  rfl

/-- A cycle that goes through enters its requests, what its script leaves and a closing note. -/
theorem journal_eq :
    (c.cycle w gateway cluster).2.journal =
      c.journal ++ ((gateway.snapshot cluster).events.map Entry.request ++
        ((Script.ofSnapshot now snapshot).events.filterMap CycleEvent.entered? ++
          [.note (.cycleComplete p.summary.podRecords p.summary.nodeRecords
            p.summary.podsSkipped)])) := by
  rw [passes.cycle_eq]
  simp only [passes.took.journal, begun, List.append_assoc]

/-- A cycle that goes through writes the lines of its script. -/
theorem lines_eq :
    (c.cycle w gateway cluster).2.journal.filterMap Entry.line? =
      c.journal.filterMap Entry.line? ++
        (Script.ofSnapshot now snapshot).events.filterMap CycleEvent.line? := by
  have closing : [Entry.note (.cycleComplete p.summary.podRecords p.summary.nodeRecords
      p.summary.podsSkipped)].filterMap Entry.line? = [] := rfl
  rw [passes.cycle_eq, List.filterMap_append, passes.took.lines, filterMap_line?_begun, closing,
    List.append_nil]

end Passes

/-- With a sink that takes every line, a cycle whose script ends well goes through. -/
theorem passes_of_open (willing : ∀ n, w.sink n = none) {finished : Moment} {snapshot : Snapshot}
    (reading : w.clock c.readings = .ok now)
    (fetched : (gateway.snapshot cluster).outcome = .ok snapshot)
    (ended : (Script.ofSnapshot now snapshot).outcome = .ok ())
    (readAgain : w.clock (c.readings + 1) = .ok finished) :
    ∃ p, Passes w gateway cluster c now finished snapshot p := by
  have unrefused := Progress.run_of_open willing ⟨.begin now, c.offers,
    c.journal ++ (gateway.snapshot cluster).events.map Entry.request⟩
      (Script.ofSnapshot now snapshot).events
  exact ⟨_, reading, fetched, Prod.ext rfl unrefused, ended, readAgain⟩

/-- A cycle returns only when every stage goes through. -/
theorem passes_of_returned {s : CycleSummary} (returned : (c.cycle w gateway cluster).1 = .ok s) :
    ∃ now finished snapshot p, Passes w gateway cluster c now finished snapshot p := by
  -- Of all the ways a cycle can end, only one returns.
  cases reading : w.clock c.readings with
  | error reason =>
    rw [cycle_of_clock_error reading] at returned
    cases returned
  | ok now =>
    cases fetched : (gateway.snapshot cluster).outcome with
    | error cause =>
      rw [cycle_of_fetch_error reading fetched] at returned
      exact absurd returned (abort_ne_ok _ _ _ _ _)
    | ok snapshot =>
      rw [cycle_of_snapshot reading fetched] at returned
      rcases ran : Progress.run w.sink ⟨.begin now, c.offers,
          c.journal ++ (gateway.snapshot cluster).events.map Entry.request⟩
            (Script.ofSnapshot now snapshot).events with ⟨p, _ | fault⟩
      · cases ended : (Script.ofSnapshot now snapshot).outcome with
        | error fault =>
          rw [follow_of_fault ran ended] at returned
          cases returned
        | ok value =>
          rw [follow_of_ok ran ended] at returned
          cases readAgain : w.clock (c.readings + 1) with
          | error reason =>
            rw [complete_of_clock_error readAgain] at returned
            cases returned
          | ok finished =>
            exact ⟨now, finished, snapshot, p, reading, fetched, ran, ended, readAgain⟩
      · rw [follow_of_refusal ran] at returned
        cases returned

end ClusterCensus.Collector
