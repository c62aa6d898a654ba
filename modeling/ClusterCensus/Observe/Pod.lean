import ClusterCensus.Cluster.Pod
import ClusterCensus.Quantity.Count
import ClusterCensus.Record.Container

/-!
# Observing a pod and its containers

The tag of an image reference is what follows the last colon; a reference without a colon has no
tag.

The current state of a container prefers a running life to a finished one; a container with neither
is waiting. The last state prefers a finished life, then a running one. A last state that says the
same as the current one says nothing and is dropped together with its reason and times.

The facts of a container at a moment come from its declaration, its status, the state it is taken to
be in and the usage texts. Bounds that are not declared stay absent. The facts of its pod are told
once for all its containers; the controller of a pod is the first owner that controls it.
-/
namespace ClusterCensus

/-! ### Image references -/

namespace Image

/-- Splits a text at the last occurrence of a mark, which is dropped. -/
def splitAtLast? (mark : Char) (text : List Char) : Option (List Char × List Char) :=
  match text.reverse.dropWhile (· != mark) with
  | [] => none
  | _ :: before => some (before.reverse, (text.reverse.takeWhile (· != mark)).reverse)

/-- The two parts and the mark make up the text again, and the second part is free of the mark. -/
theorem splitAtLast?_eq_some {mark : Char} {text before after : List Char}
    (found : splitAtLast? mark text = some (before, after)) :
    text = before ++ mark :: after ∧ mark ∉ after := by
  simp only [splitAtLast?] at found
  have whole := List.takeWhile_append_dropWhile (p := (· != mark)) (l := text.reverse)
  cases rest : text.reverse.dropWhile (· != mark) with
  | nil => simp [rest] at found
  | cons c tail =>
    have head : c = mark := by
      have stopped := List.head?_dropWhile_not (· != mark) text.reverse
      simpa [rest] using stopped
    simp only [rest, Option.some.injEq, Prod.mk.injEq] at found
    obtain ⟨rfl, rfl⟩ := found
    constructor
    · have turned := congrArg List.reverse whole
      simp only [rest, head, List.reverse_append, List.reverse_cons, List.reverse_reverse,
        List.append_assoc, List.singleton_append] at turned
      exact turned.symm
    · intro member
      have kept := List.all_eq_true.mp (List.all_takeWhile (p := (· != mark))) _
        (List.mem_reverse.mp member)
      simp at kept

/-- The name and the tag of an image reference. -/
def split (reference : String) : String × String :=
  match splitAtLast? ':' reference.toList with
  | some (name, tag) => (String.ofList name, String.ofList tag)
  | none => (reference, "")

end Image

/-! ### Lives of a container -/

inductive Stage where
  | running
  | terminated
  | waiting
deriving DecidableEq

/-- The name of a stage on a record line. -/
def Stage.name : Stage → String
  | running => "Running"
  | terminated => "Terminated"
  | waiting => "Waiting"

/-- The stage that a state describes, for the current state of a container. -/
def currentStage (state : Option ContainerState) : Stage :=
  match state with
  | none => .waiting
  | some s =>
    if s.running.isSome then .running
    else if s.terminated.isSome then .terminated
    else .waiting

/-- When the current life started, if the container is running. -/
def runningSince (state : Option ContainerState) : Option Moment :=
  (state.bind (·.running)).bind (·.startedAt)

structure LastLife where
  stage : Stage
  reason : String := ""
  started : Option Int := none
  finished : Option Int := none
deriving DecidableEq

/-- The life that a last state describes. -/
def lastLife? (state : ContainerState) : Option LastLife :=
  match state.terminated, state.running, state.waiting with
  | some t, _, _ =>
    some ⟨.terminated, t.reason.getD "", t.startedAt.map (·.epochMillis),
      t.finishedAt.map (·.epochMillis)⟩
  | none, some r, _ => some ⟨.running, "", r.startedAt.map (·.epochMillis), none⟩
  | none, none, some _ => some ⟨.waiting, "", none, none⟩
  | none, none, none => none

/-- The last life of a container, unless it is in the same stage as the current one. -/
def distinctLastLife? (current : Stage) (state : Option ContainerState) : Option LastLife :=
  (state.bind lastLife?).filter fun life => life.stage != current

/-! ### Containers -/

/-- Reads a declared quantity; an absent one stays absent. -/
def declared (parse : List Char → Noted Int) : Value → Noted (Option Int)
  | .null => pure none
  | value => do
    let text ← Trace.ofExcept value.display
    let amount ← parse text
    return some amount

def Container.bounds (c : Container) : Resources :=
  c.resources.getD ⟨[], []⟩

def ContainerFacts.observe (container : Container) (status : ContainerStatus)
    (state : Option ContainerState) (cpuUsage memoryUsage : String) (now : Moment) :
    Noted ContainerFacts := do
  let stage := currentStage state
  let since := runningSince state
  let (image, tag) := Image.split (container.image.getD "")
  let last := distinctLastLife? stage status.lastState
  let bounds := container.bounds
  let cpu ← Quantity.millicores cpuUsage.toList
  let cpuLimit ← declared Quantity.millicores (bounds.limits.get "cpu")
  let cpuRequest ← declared Quantity.millicores (bounds.requests.get "cpu")
  let memory ← Quantity.bytes memoryUsage.toList
  let memoryLimit ← declared Quantity.bytes (bounds.limits.get "memory")
  let memoryRequest ← declared Quantity.bytes (bounds.requests.get "memory")
  return {
    container := container.name.getD ""
    state := stage.name
    ready := status.ready.getD false
    restarts := status.restartCount.getD 0
    cpuUsage := cpu
    memoryUsage := memory
    image := image
    imageTag := tag
    age := some ((since.map fun start => start.millisBetween now).getD 0)
    started := some ((since.map (·.epochMillis)).getD 0)
    lastState := (last.map (·.stage.name)).getD ""
    lastReason := (last.map (·.reason)).getD ""
    lastStarted := last.bind (·.started)
    lastFinished := last.bind (·.finished)
    cpuLimit := cpuLimit
    cpuRequest := cpuRequest
    memoryLimit := memoryLimit
    memoryRequest := memoryRequest }

/-! ### Pods -/

/-- The owner that controls a pod. -/
def Pod.controller? (pod : Pod) : Option OwnerReference :=
  pod.metadata.bind fun metadata => metadata.owners.find? (·.controls)

def Pod.startTime? (pod : Pod) : Option Moment :=
  pod.status.bind (·.startTime)

def PodFacts.observe (pod : Pod) (now : Moment) : PodFacts :=
  let controller := pod.controller?
  let start := pod.startTime?
  { space := (pod.metadata.bind (·.space)).getD ""
    pod := (pod.metadata.bind (·.name)).getD ""
    node := (pod.spec.bind (·.node)).getD ""
    phase := (pod.status.bind (·.phase)).getD ""
    ip := (pod.status.bind (·.ip)).getD ""
    priority := pod.spec.bind (·.priority)
    priorityClass := (pod.spec.bind (·.priorityClass)).getD ""
    qosClass := (pod.status.bind (·.qosClass)).getD ""
    age := start.map fun moment => moment.millisBetween now
    created := start.map (·.epochMillis)
    controller := (controller.bind (·.name)).getD ""
    controllerType := (controller.bind (·.kind)).getD "" }

end ClusterCensus
