import ClusterCensus.Census.Nodes
import ClusterCensus.Gateway.Basic

/-!
# The script of a cycle and its summary

What a cycle does with a snapshot is fixed before anything is written: a list of events, and how
the work ends. All pods are scanned before the first record is offered, so their records carry
final tallies; nodes are observed one by one, each just before its record is offered.

A summary is begun with the cycle, counts what happens, and is closed by the time the cycle
finished or by an error, or both.
-/
namespace ClusterCensus

/-! ### What a cycle does -/

inductive RecordKind where
  | pod
  | node
deriving DecidableEq

inductive CycleEvent where
  | note (note : Note)
  | podScanned
  | podSkipped
  | nodeScanned
  /-- A record is offered for writing. -/
  | record (kind : RecordKind) (fields : Fields)

/-- A part of a cycle. -/
abbrev Script := Trace CycleEvent Fault

namespace Script

/-- Work that leaves only notes, as part of a cycle. -/
def noted {α : Type} (work : Noted α) : Script α :=
  work.mapEvents .note

def scanPod (usage : UsageIndex) (now : Moment) (census : Census) (pod : Pod) : Script Census := do
  Trace.tell .podScanned
  match pod.live? with
  | none => do
    Trace.tell .podSkipped
    return census
  | some live => noted (census.visitPod usage now pod live)

def scanPods (usage : UsageIndex) (now : Moment) (pods : List Pod) : Script Census :=
  Trace.thread (scanPod usage now) {} pods

def offerPods (records : List ContainerRecord) : Script Unit :=
  ⟨records.map fun record => .record .pod record.fields, .ok ()⟩

/-- Observes one node and offers its record, if it has one. -/
def scanNode (usage : UsageIndex) (now : Moment) (census : Census) (node : Node) : Script Unit := do
  let record? ← noted (census.visitNode usage now node)
  Trace.tell .nodeScanned
  match record? with
  | none => return ()
  | some record => Trace.tell (.record .node record.fields)

def scanNodes (usage : UsageIndex) (now : Moment) (census : Census) (nodes : List Node) :
    Script Unit :=
  Trace.thread (fun _ node => scanNode usage now census node) () nodes

/-- The whole work on a snapshot. -/
def ofSnapshot (now : Moment) (snapshot : Snapshot) : Script Unit := do
  let podUsage ← Trace.ofExcept (UsageIndex.ofPodMetrics snapshot.podMetrics)
  let nodeUsage ← Trace.ofExcept (UsageIndex.ofNodeMetrics snapshot.nodeMetrics)
  let census ← scanPods podUsage now snapshot.pods
  offerPods census.settled
  scanNodes nodeUsage now census snapshot.nodes

end Script

/-! ### What is kept of a cycle -/

structure CycleSummary where
  startedAt : Moment
  finishedAt : Option Moment := none
  podsScanned : Int := 0
  podsSkipped : Int := 0
  podRecords : Int := 0
  nodesScanned : Int := 0
  nodeRecords : Int := 0
  serializationFailures : Int := 0
  error : Option String := none
deriving DecidableEq, Inhabited

namespace CycleSummary

def begin (now : Moment) : CycleSummary :=
  { startedAt := now }

/-- Nothing went wrong. -/
def ok (s : CycleSummary) : Bool :=
  s.error.isNone

def countRecord (s : CycleSummary) : RecordKind → CycleSummary
  | .pod => { s with podRecords := s.podRecords + 1 }
  | .node => { s with nodeRecords := s.nodeRecords + 1 }

end CycleSummary

end ClusterCensus
