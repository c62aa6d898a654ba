import ClusterCensus.Cycle.Script
import ClusterCensus.Value.Line

/-!
# The collector

A collector works through cycles. It keeps the summary of the last one, and a journal of all that
can be seen from outside: requests, lines, notes and waits. Its surroundings are a clock that may
refuse a reading and a sink that may refuse a line.

A cycle first reads the clock and replaces the summary, so what fails after that is told of the
cycle it happened in. A cycle that cannot read the clock has no summary; its failure is told of the
last cycle that has one. Then it fetches; if that fails nothing is written. Then it follows its
script, up to the first line that the sink refuses.
-/
namespace ClusterCensus

/-- Clock and sink, by the number of readings taken and of lines offered before. -/
structure Surroundings where
  /-- The time, or the reason why the clock cannot be read. -/
  clock : Nat → Except String Moment
  /-- The reason why the sink refuses a line. -/
  sink : Nat → Option String

/-- What can be seen of the collector. -/
inductive Entry where
  | request (request : Request)
  | line (line : String)
  | note (note : Note)
  | wait (seconds : Nat)
deriving DecidableEq

/-- The written lines of a journal. -/
def Entry.line? : Entry → Option String
  | line text => some text
  | _ => none

structure Collector where
  last : Option CycleSummary := none
  readings : Nat := 0
  offers : Nat := 0
  journal : List Entry := []

/-- A cycle while it follows its script. -/
structure Progress where
  summary : CycleSummary
  offers : Nat
  journal : List Entry

namespace Progress

def enter (p : Progress) (entry : Entry) : Progress :=
  { p with journal := p.journal ++ [entry] }

/-- Leaves out a record that has no line. -/
def drop (p : Progress) (cause : Fault) : Progress :=
  { p with
    summary := { p.summary with serializationFailures := p.summary.serializationFailures + 1 }
  }.enter (.note (.recordDropped cause))

def offer (sink : Nat → Option String) (p : Progress) (kind : RecordKind) (line : String) :
    Progress × Option Fault :=
  let offered := { p with offers := p.offers + 1 }
  match sink p.offers with
  | some reason => (offered, some (.sinkRefused reason))
  | none => ({ offered with summary := p.summary.countRecord kind }.enter (.line line), none)

def step (sink : Nat → Option String) (p : Progress) : CycleEvent → Progress × Option Fault
  | .note note => (p.enter (.note note), none)
  | .podScanned =>
    ({ p with summary := { p.summary with podsScanned := p.summary.podsScanned + 1 } }, none)
  | .podSkipped =>
    ({ p with summary := { p.summary with podsSkipped := p.summary.podsSkipped + 1 } }, none)
  | .nodeScanned =>
    ({ p with summary := { p.summary with nodesScanned := p.summary.nodesScanned + 1 } }, none)
  | .record kind fields =>
    match Value.line (.object fields) with
    | .error cause => (p.drop cause, none)
    | .ok line => p.offer sink kind line

/-- Follows events up to the first fault. -/
def run (sink : Nat → Option String) (p : Progress) : List CycleEvent → Progress × Option Fault
  | [] => (p, none)
  | event :: rest =>
    match p.step sink event with
    | (next, some fault) => (next, some fault)
    | (next, none) => next.run sink rest

end Progress

namespace Collector

/-- The seconds between two cycles. -/
def interval : Nat := 30

def enter (c : Collector) (entry : Entry) : Collector :=
  { c with journal := c.journal ++ [entry] }

def readClock (w : Surroundings) (c : Collector) : Except Fault Moment × Collector :=
  ((w.clock c.readings).mapError .clockRefused, { c with readings := c.readings + 1 })

/-- Closes a summary with the time, unless the clock refuses. -/
def close (w : Surroundings) (c : Collector) (summary : CycleSummary) :
    Except Fault CycleSummary × Collector :=
  let marked := { c with last := some summary }
  match marked.readClock w with
  | (.error fault, c) => (.error fault, c)
  | (.ok now, c) =>
    let closed := { summary with finishedAt := some now }
    (.ok closed, { c with last := some closed })

/-- Ends a cycle whose data could not be fetched. -/
def abort (w : Surroundings) (c : Collector) (summary : CycleSummary) (cause : Fault) :
    Except CycleFault CycleSummary × Collector :=
  let failure := CycleFault.fetchFailed cause
  match c.close w { summary with error := some failure.message } with
  | (.error fault, c) => (.error (.workFailed fault), c)
  | (.ok _, c) => (.error failure, c)

/-- Ends a cycle that went through. -/
def complete (w : Surroundings) (c : Collector) (summary : CycleSummary) :
    Except CycleFault CycleSummary × Collector :=
  match c.close w summary with
  | (.error fault, c) => (.error (.workFailed fault), c)
  | (.ok closed, c) =>
    (.ok closed, c.enter (.note
      (.cycleComplete closed.podRecords closed.nodeRecords closed.podsSkipped)))

/-- Follows the script of a cycle to its end. -/
def follow (w : Surroundings) (c : Collector) (summary : CycleSummary) (script : Script Unit) :
    Except CycleFault CycleSummary × Collector :=
  let (progress, refused) := Progress.run w.sink ⟨summary, c.offers, c.journal⟩ script.events
  let c := { c with
    last := some progress.summary
    offers := progress.offers
    journal := progress.journal }
  match refused, script.outcome with
  | some fault, _ => (.error (.workFailed fault), c)
  | none, .error fault => (.error (.workFailed fault), c)
  | none, .ok () => c.complete w progress.summary

def cycle (w : Surroundings) (gateway : Gateway) (cluster : Cluster) (c : Collector) :
    Except CycleFault CycleSummary × Collector :=
  match c.readClock w with
  | (.error fault, c) => (.error (.workFailed fault), c)
  | (.ok now, c) =>
    let summary := CycleSummary.begin now
    let fetched := gateway.snapshot cluster
    let c := { c with
      last := some summary
      journal := c.journal ++ fetched.events.map Entry.request }
    match fetched.outcome with
    | .error cause => c.abort w summary cause
    | .ok snapshot => c.follow w summary (.ofSnapshot now snapshot)

/-- Marks the last cycle as failed, unless it is marked already. -/
def markFailed (w : Surroundings) (c : Collector) (fault : Fault) : Except Fault Unit × Collector :=
  match c.last with
  | none => (.ok (), c)
  | some summary =>
    if summary.error.isSome then (.ok (), c)
    else
      match c.close w { summary with error := some ("cycle failed: " ++ fault.message) } with
      | (.error fault, c) => (.error fault, c)
      | (.ok _, c) => (.ok (), c)

/-- Runs one cycle and survives its failure. -/
def round (w : Surroundings) (gateway : Gateway) (cluster : Cluster) (c : Collector) :
    Except Fault Unit × Collector :=
  match c.cycle w gateway cluster with
  | (.ok _, c) => (.ok (), c)
  | (.error failure, c) =>
    let noted := c.enter (.note (.cycleFailed failure))
    match failure with
    | .fetchFailed _ => (.ok (), noted)
    | .workFailed cause => noted.markFailed w cause

/-- Runs a cycle for each cluster in turn and waits after each. -/
def rounds (w : Surroundings) (gateway : Gateway) (c : Collector) :
    List Cluster → Except Fault Unit × Collector
  | [] => (.ok (), c.enter (.note .watchStopped))
  | cluster :: rest =>
    match c.round w gateway cluster with
    | (.error fault, c) => (.error fault, c)
    | (.ok (), c) => (c.enter (.wait interval)).rounds w gateway rest

/-- Watches a cluster through the states it takes on, until it is told to stop. -/
def watch (w : Surroundings) (gateway : Gateway) (clusters : List Cluster) (c : Collector) :
    Except Fault Unit × Collector :=
  (c.enter (.note (.watchStarted interval))).rounds w gateway clusters

end Collector
end ClusterCensus
