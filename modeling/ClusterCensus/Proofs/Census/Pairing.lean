import ClusterCensus.Observe.Pod
import ClusterCensus.Proofs.Census.Listing
import ClusterCensus.Proofs.Record.Fields

/-!
# Pairings

Which containers are to have a record, and from which status and usage, told as a comprehension
over the list of pods: no table is built, and how usage is looked up is left open.
-/
namespace ClusterCensus

/-- The text of a usage under a name; what is no text is empty. -/
def Value.textAt (name : String) : Value → String
  | .object fields => Fields.textAt name fields
  | _ => ""

/-- A declared container of a pod, with the status and the usage that it is recorded with. -/
structure Pairing where
  pod : Pod
  container : Container
  isInit : Bool
  status : ContainerStatus
  usage : Value

namespace Pairing

/-- The record that a pairing stands for; its controller is still to be settled. -/
def record (now : Moment) (p : Pairing) : Except Fault ContainerRecord :=
  (ContainerFacts.observe p.container p.status p.status.state (p.usage.textAt "cpu")
    (p.usage.textAt "memory") now).outcome.map fun facts => ⟨PodFacts.observe p.pod now, facts, {}⟩

/-- A record is made of the facts of its pod and of its container. -/
theorem record_ok {now : Moment} {p : Pairing} {r : ContainerRecord}
    (built : p.record now = .ok r) :
    ∃ facts, (ContainerFacts.observe p.container p.status p.status.state (p.usage.textAt "cpu")
        (p.usage.textAt "memory") now).outcome = .ok facts ∧
      r = ⟨PodFacts.observe p.pod now, facts, {}⟩ := by
  rw [record] at built
  cases observed : (ContainerFacts.observe p.container p.status p.status.state
      (p.usage.textAt "cpu") (p.usage.textAt "memory") now).outcome with
  | error fault => simp [observed, Except.map] at built
  | ok facts =>
    rw [observed] at built
    exact ⟨facts, rfl, (Except.ok.inj built).symm⟩

end Pairing

/-- How usage is looked up: by namespace, pod and container. -/
abbrev UsageLookup := String → String → String → Option Value

namespace Pod

/-- The pairing of a declared container, if it is to have a record: it has a name, an image and
resources, some status has its name, the last of which holds, and its usage is known. -/
def pairing? (reported : UsageLookup) (pod : Pod) (declared : Container × Bool) :
    Option Pairing := do
  let name ← declared.1.name
  if name == "" || declared.1.image.isNone || declared.1.resources.isNone then none
  else
    let status ← (pod.statusList.filter (·.name == some name)).getLast?
    let usage ← reported pod.space pod.nameText name
    return ⟨pod, declared.1, declared.2, status, usage⟩

/-- What a pairing is made of. -/
theorem pairing?_eq_some_iff {reported : UsageLookup} {pod : Pod} {declared : Container × Bool}
    {p : Pairing} :
    pod.pairing? reported declared = some p ↔
      ∃ name, declared.1.name = some name ∧ name ≠ "" ∧ declared.1.image.isSome ∧
        declared.1.resources.isSome ∧ ∃ status usage,
          (pod.statusList.filter (·.name == some name)).getLast? = some status ∧
            reported pod.space pod.nameText name = some usage ∧
              ⟨pod, declared.1, declared.2, status, usage⟩ = p := by
  obtain ⟨⟨name, image, resources⟩, isInit⟩ := declared
  cases name with
  | none => simp [pairing?]
  | some name =>
    by_cases unnamed : name = ""
    · simp [pairing?, unnamed]
    · cases image <;> cases resources <;>
        simp [pairing?, unnamed, Option.bind_eq_some_iff]

/-- The pairings of a pod, in the order of its containers. -/
def pairings (reported : UsageLookup) (pod : Pod) : List Pairing :=
  pod.containerList.filterMap (pod.pairing? reported)

end Pod

/-- The pairings of all kept pods, in the order of the list. -/
def pairings (reported : UsageLookup) (pods : List Pod) : List Pairing :=
  (pods.filter Pod.isKept).flatMap (Pod.pairings reported)

theorem mem_pairings {reported : UsageLookup} {pods : List Pod} {p : Pairing}
    (member : p ∈ pairings reported pods) :
    ∃ pod ∈ pods, ∃ declared ∈ pod.containerList, pod.pairing? reported declared = some p := by
  obtain ⟨pod, kept, inPod⟩ := List.mem_flatMap.mp member
  obtain ⟨declared, container, paired⟩ := List.mem_filterMap.mp inPod
  exact ⟨pod, (List.mem_filter.mp kept).1, declared, container, paired⟩

end ClusterCensus
