import ClusterCensus.Proofs.Cycle.Calm
import ClusterCensus.Proofs.Cycle.History
import ClusterCensus.Service.Report

/-!
# Watching survives every failure

A watch runs a cycle and waits, again and again. While the clock can be read, a failing cycle is
noted and marked, and the watch goes on; and what a cycle does is what it would do in a fresh
collector, whatever came before it.

## Main result

`watch_survives`: a watch ends only when it is told to, and each of its turns is isolated.
-/
namespace ClusterCensus

/-- The clock can be read at any time. -/
def Surroundings.Steady (w : Surroundings) : Prop :=
  ∀ n, ∃ now, w.clock n = .ok now

theorem Surroundings.Steady.from {w : Surroundings} (steady : w.Steady) (readings offers : Nat) :
    (w.from readings offers).Steady :=
  fun n => steady (readings + n)

/-- The entry is neither a wait nor a note that tells of a failed cycle. -/
def Entry.IsCalm : Entry → Prop
  | .note told => told.IsCalm
  | .wait _ => False
  | _ => True

/-! ### While a cycle follows its script -/

/-- The summary is the one of a cycle that began at a time and has not ended. -/
structure CycleSummary.IsOpen (now : Moment) (s : CycleSummary) : Prop where
  started : s.startedAt = now
  unfinished : s.finishedAt = none
  faultless : s.error = none

namespace Progress

variable {sink : Nat → Option String} {now : Moment}

/-- The summary is open and the journal tells neither of a failed cycle nor of a wait. -/
structure IsUnderway (now : Moment) (p : Progress) : Prop where
  summary : p.summary.IsOpen now
  journal : ∀ entry ∈ p.journal, entry.IsCalm

theorem IsUnderway.enter {p : Progress} (underway : p.IsUnderway now) (entry : Entry)
    (calm : entry.IsCalm) : (p.enter entry).IsUnderway now := by
  refine ⟨underway.summary, fun other member => ?_⟩
  rcases List.mem_append.mp member with member | member
  · exact underway.journal other member
  · rw [List.mem_singleton.mp member]
    exact calm

/-- Counting changes neither the times nor the error of a summary. -/
theorem IsUnderway.recount {p : Progress} (underway : p.IsUnderway now) {s : CycleSummary}
    (offers : Nat) (started : s.startedAt = p.summary.startedAt)
    (finished : s.finishedAt = p.summary.finishedAt) (error : s.error = p.summary.error) :
    IsUnderway now ⟨s, offers, p.journal⟩ :=
  ⟨⟨started.trans underway.summary.started, finished.trans underway.summary.unfinished,
    error.trans underway.summary.faultless⟩, underway.journal⟩

theorem IsUnderway.drop {p : Progress} (underway : p.IsUnderway now) (cause : Fault) :
    (p.drop cause).IsUnderway now := by
  have counted : IsUnderway now
      ⟨{ p.summary with serializationFailures := p.summary.serializationFailures + 1 }, p.offers,
        p.journal⟩ := underway.recount _ rfl rfl rfl
  exact counted.enter (.note (.recordDropped cause)) rfl

theorem IsUnderway.offer {p : Progress} (underway : p.IsUnderway now) (kind : RecordKind)
    (line : String) : (p.offer sink kind line).1.IsUnderway now := by
  rw [Progress.offer]
  split
  next reason refused => exact underway.recount _ rfl rfl rfl
  next taken =>
    have counted : IsUnderway now ⟨p.summary.countRecord kind, p.offers + 1, p.journal⟩ := by
      cases kind with
      | pod => exact underway.recount _ rfl rfl rfl
      | node => exact underway.recount _ rfl rfl rfl
    exact counted.enter (.line line) trivial

/-- A calm event leaves the cycle underway. -/
theorem IsUnderway.step {p : Progress} (underway : p.IsUnderway now) {event : CycleEvent}
    (calm : event.IsCalm) : (p.step sink event).1.IsUnderway now := by
  cases event with
  | note note => exact underway.enter (.note note) calm
  | podScanned => exact underway.recount _ rfl rfl rfl
  | podSkipped => exact underway.recount _ rfl rfl rfl
  | nodeScanned => exact underway.recount _ rfl rfl rfl
  -- A record leaves a warning or a line.
  | record kind fields =>
    rw [Progress.step]
    split
    next cause unwritable => exact underway.drop cause
    next line written => exact underway.offer kind line

theorem IsUnderway.run {p : Progress} (underway : p.IsUnderway now) {events : List CycleEvent}
    (calm : ∀ event ∈ events, event.IsCalm) : (p.run sink events).1.IsUnderway now := by
  induction events generalizing p with
  | nil => exact underway
  | cons event rest ih =>
    have stepped : (p.step sink event).1.IsUnderway now := underway.step (calm event (.head _))
    rw [Progress.run]
    -- The run stops with the first fault, and is underway there as well.
    split
    next next fault stopped =>
      rw [stopped] at stepped
      exact stepped
    next next going =>
      rw [going] at stepped
      exact ih stepped fun event member => calm event (.tail _ member)

end Progress

/-! ### How a cycle ends -/

/-- What the summary of a cycle says at its end: nothing yet when its work has failed. -/
def CycleSummary.Tells (s : CycleSummary) : Except CycleFault CycleSummary → Prop
  | .ok _ => s.error = none ∧ s.finishedAt.isSome
  | .error (.fetchFailed cause) =>
    s.error = some ("fetch failed: " ++ cause.message) ∧ s.finishedAt.isSome
  | .error (.workFailed _) => s.error = none ∧ s.finishedAt = none

namespace Collector

variable {w : Surroundings}

/-- The collector keeps a summary that began with the cycle and tells how the cycle ended, and its
journal is calm. -/
structure Ended (now : Moment) (outcome : Except CycleFault CycleSummary) (c : Collector) :
    Prop where
  tells : ∃ own, c.last = some own ∧ own.startedAt = now ∧ own.Tells outcome
  calm : ∀ entry ∈ c.journal, entry.IsCalm

/-- With a clock that can be read a summary can always be closed. -/
theorem close_of_steady (steady : w.Steady) (c : Collector) (summary : CycleSummary) :
    ∃ now, c.close w summary =
      (.ok { summary with finishedAt := some now },
        { c with
          last := some { summary with finishedAt := some now }
          readings := c.readings + 1 }) := by
  obtain ⟨now, reading⟩ := steady c.readings
  refine ⟨now, ?_⟩
  simp only [close, readClock, reading]
  rfl

/-- A cycle that is given up has ended. -/
theorem abort_ended (steady : w.Steady) {c : Collector} (calm : ∀ entry ∈ c.journal, entry.IsCalm)
    {now : Moment} {summary : CycleSummary} (isOpen : summary.IsOpen now) (cause : Fault) :
    Ended now (c.abort w summary cause).1 (c.abort w summary cause).2 := by
  obtain ⟨ended, closed⟩ := close_of_steady steady c
    { summary with error := some (CycleFault.fetchFailed cause).message }
  rw [abort, closed]
  exact ⟨⟨_, rfl, isOpen.started, rfl, rfl⟩, calm⟩

theorem complete_ended (steady : w.Steady) {c : Collector}
    (calm : ∀ entry ∈ c.journal, entry.IsCalm) {now : Moment} {summary : CycleSummary}
    (isOpen : summary.IsOpen now) :
    Ended now (c.complete w summary).1 (c.complete w summary).2 := by
  obtain ⟨ended, closed⟩ := close_of_steady steady c summary
  rw [complete, closed]
  refine ⟨⟨_, rfl, isOpen.started, isOpen.faultless, rfl⟩, ?_⟩
  intro entry member
  -- The note of success is all that is added.
  rcases List.mem_append.mp member with member | member
  · exact calm entry member
  · rw [List.mem_singleton.mp member]
    rfl

/-- A cycle that follows its script to some point has ended there. -/
theorem follow_ended (steady : w.Steady) {c : Collector}
    (calm : ∀ entry ∈ c.journal, entry.IsCalm) {now : Moment} {summary : CycleSummary}
    (isOpen : summary.IsOpen now) {script : Script Unit}
    (scriptCalm : script.Leaves CycleEvent.IsCalm) :
    Ended now (c.follow w summary script).1 (c.follow w summary script).2 := by
  have reached : (Progress.run w.sink ⟨summary, c.offers, c.journal⟩
      script.events).1.IsUnderway now := Progress.IsUnderway.run ⟨isOpen, calm⟩ scriptCalm
  unfold follow
  generalize Progress.run w.sink ⟨summary, c.offers, c.journal⟩ script.events = followed
    at reached ⊢
  obtain ⟨p, refused⟩ := followed
  have stopped (cause : Fault) : Ended now (.error (.workFailed cause))
      { c with last := some p.summary, offers := p.offers, journal := p.journal } :=
    ⟨⟨_, rfl, reached.summary.started, reached.summary.faultless, reached.summary.unfinished⟩,
      reached.journal⟩
  -- The sink ends the cycle before the script's own end is looked at.
  cases refused with
  | some fault => exact stopped fault
  | none =>
    cases script.outcome with
    | error fault => exact stopped fault
    | ok value => exact complete_ended steady reached.journal reached.summary

/-- While the clock can be read, a cycle replaces the summary by its own, whatever happens. -/
theorem cycle_ended (steady : w.Steady) (gateway : Gateway) (cluster : Cluster) {c : Collector}
    (calm : ∀ entry ∈ c.journal, entry.IsCalm) :
    ∃ now, w.clock c.readings = .ok now ∧
      Ended now (c.cycle w gateway cluster).1 (c.cycle w gateway cluster).2 := by
  obtain ⟨now, reading⟩ := steady c.readings
  -- The requests of a cycle are calm.
  have asked : ∀ entry ∈ c.journal ++ (gateway.snapshot cluster).events.map Entry.request,
      entry.IsCalm := by
    intro entry member
    rcases List.mem_append.mp member with member | member
    · exact calm entry member
    · obtain ⟨request, -, rfl⟩ := List.mem_map.mp member
      trivial
  have begun : (CycleSummary.begin now).IsOpen now := ⟨rfl, rfl, rfl⟩
  refine ⟨now, reading, ?_⟩
  simp only [cycle, readClock, reading, Except.mapError]
  cases (gateway.snapshot cluster).outcome with
  | error cause => exact abort_ended steady asked begun cause
  | ok snapshot => exact follow_ended steady asked begun (Script.ofSnapshot_calm now snapshot)

end Collector

/-! ### What is made of a failure -/

def failureOf : Except CycleFault CycleSummary → Option CycleFault
  | .ok _ => none
  | .error failure => some failure

/-- The error of a summary for a failure. -/
def CycleFault.mark : CycleFault → String
  | fetchFailed cause => "fetch failed: " ++ cause.message
  | workFailed cause => "cycle failed: " ++ cause.message

/-- The summary is that of a cycle, closed and marked with the failure of the cycle, if any. -/
structure CycleSummary.Closes (own : CycleSummary) (failure : Option CycleFault)
    (s : CycleSummary) : Prop where
  counters : s = { own with finishedAt := s.finishedAt, error := s.error }
  finished : s.finishedAt.isSome
  error : s.error = failure.map CycleFault.mark

/-- The status of a closed summary is failed or ok. -/
theorem CycleSummary.Closes.status {own s : CycleSummary} {failure : Option CycleFault}
    (closes : own.Closes failure s) :
    s.status = if failure.isSome then .failed else .ok := by
  have finished : s.finishedAt.isNone = false := by
    rw [← Option.not_isSome, closes.finished]
    rfl
  rw [CycleSummary.status, closes.error, finished]
  cases failure <;> rfl

def CycleFault.notice : CycleFault → String
  | fetchFailed _ => "Failed to gather metrics server info"
  | workFailed _ => "Metrics cycle failed"

/-- The note of an entry that reports a failure as an error of the collector. -/
def Entry.failureNote? : Entry → Option Note
  | .note told =>
    if told.part = .cycles ∧ told.level = .error ∧ told.failure?.isSome then some told else none
  | _ => none

def Entry.isWait : Entry → Bool
  | .wait _ => true
  | _ => false

theorem Entry.IsCalm.failureNote? {entry : Entry} (calm : entry.IsCalm) :
    entry.failureNote? = none := by
  cases entry with
  | note told =>
    have silent : told.failure? = none := calm
    simp [Entry.failureNote?, silent]
  | _ => rfl

theorem Entry.IsCalm.isWait {entry : Entry} (calm : entry.IsCalm) : entry.isWait = false := by
  cases entry with
  | wait seconds => exact calm.elim
  | _ => rfl

/-- The entries that a failure adds to those of its cycle. -/
def reportOf (failure : Option CycleFault) : List Entry :=
  failure.toList.map fun cause => Entry.note (.cycleFailed cause)

/-- A failure is reported by one note; no line is written for it, and no time is spent. -/
theorem reportOf_tells (failure : Option CycleFault) :
    (reportOf failure).filterMap Entry.line? = [] ∧
      (reportOf failure).filterMap Entry.failureNote? = failure.toList.map Note.cycleFailed ∧
      (reportOf failure).filter Entry.isWait = [] := by
  cases failure with
  | none => exact ⟨rfl, rfl, rfl⟩
  | some cause => exact ⟨rfl, rfl, rfl⟩

namespace Collector

variable {w : Surroundings}

/-- A failure is put on the summary, which is closed again. -/
theorem markFailed_of_steady (steady : w.Steady) {c : Collector} {own : CycleSummary}
    (kept : c.last = some own) (faultless : own.error = none) (cause : Fault) :
    ∃ now, c.markFailed w cause =
      (.ok (), { c with
        last := some { own with
          finishedAt := some now
          error := some (CycleFault.workFailed cause).mark }
        readings := c.readings + 1 }) := by
  obtain ⟨now, closed⟩ := close_of_steady steady c
    { own with error := some ("cycle failed: " ++ cause.message) }
  refine ⟨now, ?_⟩
  simp only [markFailed, kept, faultless, Option.isSome_none, Bool.false_eq_true, if_false, closed]
  rfl

theorem Ended.filter_isWait {now : Moment} {outcome : Except CycleFault CycleSummary}
    {c : Collector} (ended : Ended now outcome c) : c.journal.filter Entry.isWait = [] :=
  List.filter_eq_nil_iff.mpr fun entry member => by simp [(ended.calm entry member).isWait]

theorem Ended.filterMap_failureNote? {now : Moment} {outcome : Except CycleFault CycleSummary}
    {c : Collector} (ended : Ended now outcome c) :
    c.journal.filterMap Entry.failureNote? = [] :=
  List.filterMap_eq_nil_iff.mpr fun entry member => (ended.calm entry member).failureNote?

/-- A failure is noted and marked, and the round goes on. -/
theorem round_of_cycle (steady : w.Steady) {gateway : Gateway} {cluster : Cluster}
    {c reached : Collector} {outcome : Except CycleFault CycleSummary} {own : CycleSummary}
    (ran : c.cycle w gateway cluster = (outcome, reached)) (kept : reached.last = some own)
    (tells : own.Tells outcome) :
    ∃ next s, c.round w gateway cluster = (.ok (), next) ∧ next.last = some s ∧
      own.Closes (failureOf outcome) s ∧
      next.journal = reached.journal ++ reportOf (failureOf outcome) := by
  rw [round, ran]
  -- Only a failure of the work is still to be marked; a failure to fetch has been.
  cases outcome with
  | ok result =>
    obtain ⟨faultless, finished⟩ := tells
    exact ⟨reached, own, rfl, kept, ⟨rfl, finished, faultless⟩, (List.append_nil _).symm⟩
  | error failure =>
    cases failure with
    | fetchFailed cause =>
      obtain ⟨marked, finished⟩ := tells
      exact ⟨_, own, rfl, kept, ⟨rfl, finished, marked⟩, rfl⟩
    | workFailed cause =>
      obtain ⟨faultless, -⟩ := tells
      obtain ⟨now, marked⟩ := markFailed_of_steady steady
        (c := reached.enter (.note (.cycleFailed (.workFailed cause)))) kept faultless cause
      exact ⟨_, _, marked, rfl, ⟨rfl, rfl, rfl⟩, rfl⟩

/-! ### One turn -/

/-- One turn of a watch: a round and a wait. -/
def turn (w : Surroundings) (gateway : Gateway) (c : Collector) (cluster : Cluster) : Collector :=
  (c.round w gateway cluster).2.enter (.wait interval)

/-- The cycle that a fresh collector runs, with clock and sink as they stand for this one. -/
def freshCycle (w : Surroundings) (gateway : Gateway) (c : Collector) (cluster : Cluster) :
    Except CycleFault CycleSummary × Collector :=
  ({} : Collector).cycle (c.surroundings w) gateway cluster

def lines (c : Collector) : List String :=
  c.journal.filterMap Entry.line?

/-- A cycle runs as that of a fresh collector behind the past. -/
theorem cycle_eq_freshCycle (gateway : Gateway) (cluster : Cluster) (c : Collector) :
    c.cycle w gateway cluster = (c.freshCycle w gateway cluster).map id c.after := by
  have framed : (c.after {}).cycle w gateway cluster =
      (c.freshCycle w gateway cluster).map id c.after := cycle_after gateway cluster {}
  rwa [after_empty] at framed

theorem freshCycle_ended (steady : w.Steady) (gateway : Gateway) (cluster : Cluster)
    (c : Collector) :
    ∃ now, w.clock c.readings = .ok now ∧
      Ended now (c.freshCycle w gateway cluster).1 (c.freshCycle w gateway cluster).2 := by
  have nothing : ∀ entry ∈ ({} : Collector).journal, entry.IsCalm := fun _ member => nomatch member
  exact cycle_ended (steady.from c.readings c.offers) gateway cluster nothing

/-- A turn is isolated from the past: it ends as the cycle of a fresh collector, writes the lines of
that cycle, reports its failure exactly once, waits once and last, and leaves the summary of that
cycle, closed. -/
structure Isolated (w : Surroundings) (gateway : Gateway) (cluster : Cluster)
    (c next : Collector) : Prop where
  outcome : (c.cycle w gateway cluster).1 = (c.freshCycle w gateway cluster).1
  lines : next.lines = c.lines ++ (c.freshCycle w gateway cluster).2.lines
  entries : ∃ added, next.journal = c.journal ++ added ++ [.wait 30] ∧
    added.filter Entry.isWait = [] ∧
    (added.filterMap Entry.failureNote?).filterMap Note.failure? =
      (failureOf (c.freshCycle w gateway cluster).1).toList ∧
    (added.filterMap Entry.failureNote?).map Note.message =
      (failureOf (c.freshCycle w gateway cluster).1).toList.map CycleFault.notice
  summary : ∃ now own s, w.clock c.readings = .ok now ∧ own.startedAt = now ∧
    (c.freshCycle w gateway cluster).2.last = some own ∧ next.last = some s ∧
    own.Closes (failureOf (c.freshCycle w gateway cluster).1) s ∧
    s.status = if (failureOf (c.freshCycle w gateway cluster).1).isSome then .failed else .ok

/-- A turn never fails, and it is isolated. -/
theorem turn_isolated (steady : w.Steady) (gateway : Gateway) (cluster : Cluster) (c : Collector) :
    c.round w gateway cluster = (.ok (), (c.round w gateway cluster).2) ∧
      c.Isolated w gateway cluster (c.turn w gateway cluster) := by
  -- What the fresh cycle says of itself is carried over to the cycle after the past.
  have framed := cycle_eq_freshCycle (w := w) gateway cluster c
  obtain ⟨now, reading, ended⟩ := freshCycle_ended steady gateway cluster c
  obtain ⟨own, kept, started, tells⟩ := ended.tells
  have keptAfter : (c.after (c.freshCycle w gateway cluster).2).last = some own :=
    congrArg (·.or c.last) kept
  obtain ⟨next, s, went, last, closes, journal⟩ :=
    round_of_cycle steady framed keptAfter tells
  have added : (c.turn w gateway cluster).journal = c.journal ++
      ((c.freshCycle w gateway cluster).2.journal ++
        reportOf (failureOf (c.freshCycle w gateway cluster).1)) ++ [.wait 30] := by
    rw [turn, went, enter, journal]
    simp only [after, List.append_assoc, id]
    rfl
  -- The cycle itself neither waits nor tells of a failure, so the report is all there is.
  obtain ⟨lines, failures, waits⟩ := reportOf_tells (failureOf (c.freshCycle w gateway cluster).1)
  refine ⟨by rw [went], ?_, ?_, ⟨_, added, ?_, ?_, ?_⟩, now, own, s, reading, started, kept, ?_,
    closes, closes.status⟩
  · rw [framed]
    rfl
  · rw [Collector.lines, added, List.filterMap_append, List.filterMap_append,
      List.filterMap_append, lines, List.append_nil]
    exact List.append_nil _
  · rw [List.filter_append, ended.filter_isWait, waits, List.nil_append]
  · rw [List.filterMap_append, ended.filterMap_failureNote?, failures, List.nil_append]
    cases failureOf (c.freshCycle w gateway cluster).1 <;> rfl
  · rw [List.filterMap_append, ended.filterMap_failureNote?, failures, List.nil_append,
      List.map_map]
    refine List.map_congr_left fun failure _ => ?_
    cases failure <;> rfl
  · rw [turn, went]
    exact last

/-! ### A whole watch -/

/-- The rounds of a watch are its turns, one for each cluster, and none of them fails. -/
theorem rounds_eq_foldl_turn (steady : w.Steady) (gateway : Gateway) (clusters : List Cluster)
    (c : Collector) :
    c.rounds w gateway clusters =
      (.ok (), (clusters.foldl (turn w gateway) c).enter (.note .watchStopped)) := by
  induction clusters generalizing c with
  | nil => rfl
  | cons cluster rest ih =>
    rw [rounds, (turn_isolated steady gateway cluster c).1]
    exact ih (c.turn w gateway cluster)

end Collector

/-! ## Main result -/

open Collector in
/-- While the clock can be read, a watch never fails and ends only when it is told to stop: it takes
one turn for each state of the cluster, and whatever happened in earlier turns, each turn is
isolated from them. -/
theorem watch_survives (w : Surroundings) (gateway : Gateway) (clusters : List Cluster)
    (c : Collector) (steady : w.Steady) :
    let started := c.enter (.note (.watchStarted 30))
    c.watch w gateway clusters =
      (.ok (), (clusters.foldl (turn w gateway) started).enter (.note .watchStopped)) ∧
    ∀ before cluster rest, clusters = before ++ cluster :: rest →
      (before.foldl (turn w gateway) started).Isolated w gateway cluster
        ((before ++ [cluster]).foldl (turn w gateway) started) := by
  intro started
  refine ⟨rounds_eq_foldl_turn steady gateway clusters started, ?_⟩
  intro before cluster rest _
  -- The turns before leave some collector, and a turn is isolated from any.
  rw [List.foldl_append, List.foldl_cons, List.foldl_nil]
  exact (turn_isolated steady gateway cluster _).2

/-! ### A sample -/

namespace Sample

/-- A clock that ticks, and a sink that takes every line but the first. -/
def surroundings : Surroundings where
  clock := fun n => .ok ⟨n, none⟩
  sink := fun n => if n = 0 then some "full" else none

def refusing : Cluster :=
  ⟨.error "refused", .ok [], fun _ => .ok .null⟩

def empty : Cluster :=
  ⟨.ok [], .ok [], fun _ => .ok .null⟩

end Sample

open Collector in
/-- After a cluster that refuses to answer, a cycle runs as if it were the first. -/
theorem watch_survives_sample :
    Sample.surroundings.Steady ∧
      (({} : Collector).watch Sample.surroundings ⟨true, 5⟩
        [Sample.refusing, Sample.empty]).1 = .ok () ∧
      ((({} : Collector).enter (.note (.watchStarted 30))).turn Sample.surroundings ⟨true, 5⟩
        Sample.refusing).Isolated Sample.surroundings ⟨true, 5⟩ Sample.empty
          ([Sample.refusing, Sample.empty].foldl (turn Sample.surroundings ⟨true, 5⟩)
            (({} : Collector).enter (.note (.watchStarted 30)))) := by
  have steady : Sample.surroundings.Steady := fun n => ⟨_, rfl⟩
  obtain ⟨survived, isolated⟩ := watch_survives Sample.surroundings ⟨true, 5⟩
    [Sample.refusing, Sample.empty] {} steady
  exact ⟨steady, congrArg Prod.fst survived, isolated [Sample.refusing] Sample.empty [] rfl⟩

end ClusterCensus
