import ClusterCensus.Cycle.Script
import ClusterCensus.Proofs.Record.Line
import ClusterCensus.Proofs.Trace

/-!
# What the work of a cycle tells and hands over

The notes that work on a snapshot leaves are findings: about units that are not known, and about
nodes without usage. That a cycle has failed, or that a record has been left out, is never told from
inside. The records that it hands over hold plain values only.

## Main result

`Script.ofSnapshot_sound`: every event of a script is of this sort, however the script ends.
-/
namespace ClusterCensus

/-- The note does not tell that a cycle has failed. -/
def Note.IsCalm (note : Note) : Prop :=
  note.failure? = none

/-- The note tells what was found in the data of the cluster. -/
def Note.IsFinding : Note → Prop
  | unknownCpuUnit .. | unknownMemoryUnit .. | noNodeUsage _ => True
  | _ => False

theorem Note.IsFinding.isCalm {note : Note} (finding : note.IsFinding) : note.IsCalm := by
  cases note with
  | cycleFailed fault => exact finding.elim
  | _ => rfl

/-- No finding is a warning. -/
theorem Note.IsFinding.not_warning {note : Note} (finding : note.IsFinding) :
    note.level ≠ .warning := by
  cases note with
  | recordDropped cause => exact finding.elim
  | gatewayUnconfigured reason => exact finding.elim
  | collectionUnconfigured => exact finding.elim
  | _ => simp [level]

/-- All notes of the work are findings, however it ends. -/
def OnlyFinds {α : Type} (work : Noted α) : Prop :=
  work.Leaves Note.IsFinding

namespace OnlyFinds

variable {α β : Type}

theorem value (v : α) : OnlyFinds (pure v) := Trace.leaves_pure v

theorem told (note : Note) (finding : note.IsFinding) : OnlyFinds (Trace.tell note) :=
  Trace.leaves_tell finding

theorem given (outcome : Except Fault α) : OnlyFinds (Trace.ofExcept outcome) :=
  Trace.leaves_ofExcept outcome

theorem failed (fault : Fault) : OnlyFinds (Trace.fail fault : Noted α) :=
  Trace.leaves_fail fault

theorem bind {first : Noted α} {next : α → Noted β} (one : OnlyFinds first)
    (other : ∀ v, OnlyFinds (next v)) : OnlyFinds (first >>= next) :=
  Trace.Leaves.bind one other

end OnlyFinds

/-! ### Quantities -/

namespace Quantity

theorem roundUp_finds (magnitude : Binary64.Magnitude) : OnlyFinds (roundUp magnitude) := by
  unfold roundUp
  split
  · exact .value _
  · exact .failed _

theorem cpuDivisor_finds (unit text : List Char) : OnlyFinds (cpuDivisor unit text) := by
  unfold cpuDivisor
  split
  · exact .value _
  · exact (OnlyFinds.told _ (by exact trivial)).bind fun _ => .value _

theorem millicores_finds (text : List Char) : OnlyFinds (millicores text) := by
  unfold millicores
  split
  · exact .value _
  · unfold Parts.millicores
    split
    · exact roundUp_finds _
    · exact (cpuDivisor_finds _ _).bind fun _ => roundUp_finds _

theorem memoryMultiplier_finds (suffix text : List Char) :
    OnlyFinds (memoryMultiplier suffix text) := by
  unfold memoryMultiplier
  split
  · exact .value _
  · exact (OnlyFinds.told _ (by exact trivial)).bind fun _ => .value _

theorem wholeNumber_finds (digits : List Nat) : OnlyFinds (wholeNumber digits) := by
  unfold wholeNumber
  split
  · exact .failed _
  · exact .value _

theorem bytes_finds (text : List Char) : OnlyFinds (bytes text) := by
  unfold bytes
  split
  · exact .value _
  · refine (memoryMultiplier_finds _ _).bind fun multiplier => ?_
    split
    · exact (wholeNumber_finds _).bind fun _ => .value _
    · exact roundUp_finds _

end Quantity

/-! ### Observations -/

theorem declared_finds {parse : List Char → Noted Int} (finds : ∀ text, OnlyFinds (parse text))
    (value : Value) : OnlyFinds (declared parse value) := by
  unfold declared
  split
  · exact .value _
  · exact (OnlyFinds.given _).bind fun text => (finds text).bind fun _ => .value _

/-- Reading the six quantities of a container leaves nothing but findings. -/
theorem ContainerFacts.observe_finds (container : Container) (status : ContainerStatus)
    (state : Option ContainerState) (cpuUsage memoryUsage : String) (now : Moment) :
    OnlyFinds (observe container status state cpuUsage memoryUsage now) := by
  unfold observe
  refine (Quantity.millicores_finds _).bind fun cpu => ?_
  refine (declared_finds Quantity.millicores_finds _).bind fun cpuLimit => ?_
  refine (declared_finds Quantity.millicores_finds _).bind fun cpuRequest => ?_
  refine (Quantity.bytes_finds _).bind fun memory => ?_
  refine (declared_finds Quantity.bytes_finds _).bind fun memoryLimit => ?_
  refine (declared_finds Quantity.bytes_finds _).bind fun memoryRequest => ?_
  exact .value _

theorem NodeRecord.observe_finds (node : Node) (pods : PodTally) (containers : ContainerTally)
    (cpuUsage memoryUsage : String) (now : Moment) :
    OnlyFinds (observe node pods containers cpuUsage memoryUsage now) := by
  unfold observe
  refine (declared_finds Quantity.bytes_finds _).bind fun memoryAllocatable => ?_
  refine (declared_finds Quantity.bytes_finds _).bind fun memoryCapacity => ?_
  refine (Quantity.millicores_finds _).bind fun cpu => ?_
  refine (Quantity.bytes_finds _).bind fun memory => ?_
  exact .value _

namespace Census

variable (usage : UsageIndex) (now : Moment) (census : Census)

theorem visitContainer_finds (facts : PodFacts)
    (statuses : Table (Option String) ContainerStatus) (declared : Container × Bool) :
    OnlyFinds (visitContainer usage now facts statuses census declared) := by
  unfold visitContainer
  split
  · exact .value _
  · refine OnlyFinds.bind ?_ fun _ => .value _
    refine (OnlyFinds.given _).bind fun cpu => (OnlyFinds.given _).bind fun memory => ?_
    exact ContainerFacts.observe_finds _ _ _ _ _ _

theorem visitPod_finds (pod : Pod) (live : LivePod) :
    OnlyFinds (census.visitPod usage now pod live) := by
  refine Trace.Leaves.thread (fun census declared => ?_) _ _
  exact visitContainer_finds usage now census _ _ declared

theorem visitNode_finds (node : Node) : OnlyFinds (census.visitNode usage now node) := by
  unfold visitNode
  split
  · exact .value _
  · split
    · exact (OnlyFinds.told _ (by exact trivial)).bind fun _ => .value _
    · refine OnlyFinds.bind ?_ fun _ => .value _
      refine (OnlyFinds.given _).bind fun cpu => (OnlyFinds.given _).bind fun memory => ?_
      exact NodeRecord.observe_finds _ _ _ _ _ _

end Census

/-! ### Scripts -/

/-- The event is no note that tells of a failed cycle. -/
def CycleEvent.IsCalm : CycleEvent → Prop
  | .note told => told.IsCalm
  | _ => True

/-- The event is no note but a finding, and no record but one of plain values. -/
def CycleEvent.IsSound : CycleEvent → Prop
  | .note told => told.IsFinding
  | .record _ fields => ∀ field ∈ fields, field.2.isPlain = true
  | _ => True

/-- No finding tells that a cycle has failed. -/
theorem CycleEvent.IsSound.isCalm {event : CycleEvent} (sound : event.IsSound) : event.IsCalm := by
  cases event with
  | note told => exact Note.IsFinding.isCalm sound
  | _ => trivial

namespace Script

variable {α : Type} (usage : UsageIndex) (now : Moment)

/-- Findings stay findings in the script. -/
theorem noted_sound {work : Noted α} (finds : OnlyFinds work) :
    (noted work).Leaves CycleEvent.IsSound :=
  Trace.Leaves.mapEvents finds

theorem scanPod_sound (census : Census) (pod : Pod) :
    (scanPod usage now census pod).Leaves CycleEvent.IsSound := by
  refine (Trace.leaves_tell trivial).bind fun _ => ?_
  split
  · exact (Trace.leaves_tell trivial).bind fun _ => Trace.leaves_pure _
  · exact noted_sound (Census.visitPod_finds _ _ _ _ _)

theorem offerPods_sound (records : List ContainerRecord) :
    (offerPods records).Leaves CycleEvent.IsSound := by
  intro event member
  obtain ⟨record, -, rfl⟩ := List.mem_map.mp member
  exact record.plain_fields

/-- The record of a node holds plain values alone. -/
theorem scanNode_sound (census : Census) (node : Node) :
    (scanNode usage now census node).Leaves CycleEvent.IsSound := by
  refine (noted_sound (Census.visitNode_finds _ _ _ _)).bind fun record? => ?_
  refine (Trace.leaves_tell trivial).bind fun _ => ?_
  split
  · exact Trace.leaves_pure _
  next record => exact Trace.leaves_tell record.plain_fields

/-- Every event of a script is a count, a finding or a record of plain values. -/
theorem ofSnapshot_sound (snapshot : Snapshot) :
    (ofSnapshot now snapshot).Leaves CycleEvent.IsSound := by
  refine (Trace.leaves_ofExcept _).bind fun podUsage => ?_
  refine (Trace.leaves_ofExcept _).bind fun nodeUsage => ?_
  refine Trace.Leaves.bind (Trace.Leaves.thread (scanPod_sound podUsage now) _ _) fun census => ?_
  refine (offerPods_sound _).bind fun _ => ?_
  exact Trace.Leaves.thread (fun _ => scanNode_sound nodeUsage now census) _ _

/-- No event of a script is a note that tells of a failed cycle. -/
theorem ofSnapshot_calm (snapshot : Snapshot) :
    (ofSnapshot now snapshot).Leaves CycleEvent.IsCalm :=
  fun event member => (ofSnapshot_sound now snapshot event member).isCalm

end Script
end ClusterCensus
