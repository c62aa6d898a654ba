import ClusterCensus.Proofs.Census.Buckets
import ClusterCensus.Proofs.Cycle.Controllers
import Mathlib.Data.List.Basic

/-!
# Declared containers

A scan told container by container. What is reported of other containers makes no difference to a
container. Its node counts it by its status, so there it matters only whether its usage is known,
not what the usage is.

## Main results

`Declaration.pairing?_congr`: a container is paired by its own report alone.
`Script.Gathered.containerTally_congr`: the tally of a node depends on which of its containers are
reported.
-/
namespace ClusterCensus

/-- A container that a pod declares. -/
structure Declaration where
  pod : Pod
  container : Container
  isInit : Bool

def Pod.declarations (pod : Pod) : List Declaration :=
  pod.containerList.map fun declared => ⟨pod, declared.1, declared.2⟩

/-- The containers that the kept pods declare, in the order of the pods. -/
def declarations (pods : List Pod) : List Declaration :=
  (pods.filter Pod.isKept).flatMap Pod.declarations

/-- The container of a pairing as its node counts it. -/
def Pairing.item (p : Pairing) : ContainerTally.Item :=
  ⟨some (currentStage p.status.state).name, p.status.ready.getD false, p.isInit⟩

/-- The node in the facts of a pod; an absent one is empty. -/
def Pod.nodeText (pod : Pod) : String :=
  pod.nodeName?.getD ""

namespace Declaration

/-- The usage that is looked up for a container; without a name none is. -/
def usage? (reported : UsageLookup) (x : Declaration) : Option Value :=
  x.container.name.bind (reported x.pod.space x.pod.nameText)

def pairing? (reported : UsageLookup) (x : Declaration) : Option Pairing :=
  x.pod.pairing? reported (x.container, x.isInit)

def itemOn? (reported : UsageLookup) (name : String) (x : Declaration) :
    Option ContainerTally.Item :=
  ((x.pairing? reported).filter (·.pod.nodeText == name)).map Pairing.item

variable {reported others : UsageLookup} {x : Declaration}

/-- A declaration has the same pairing wherever its usage is the same. -/
theorem pairing?_congr (same : x.usage? reported = x.usage? others) :
    x.pairing? reported = x.pairing? others := by
  unfold usage? at same
  unfold pairing? Pod.pairing?
  cases named : x.container.name with
  | none => rfl
  | some name =>
    rw [named, Option.bind_some, Option.bind_some] at same
    simp only [Option.bind_eq_bind, Option.bind_some, same]

/-- The value of the usage is not part of what a node counts. -/
theorem item_congr (same : (x.usage? reported).isSome = (x.usage? others).isSome) :
    (x.pairing? reported).map Pairing.item = (x.pairing? others).map Pairing.item := by
  unfold usage? at same
  unfold pairing? Pod.pairing?
  cases named : x.container.name with
  | none => rfl
  | some name =>
    rw [named, Option.bind_some, Option.bind_some] at same
    simp only [Option.bind_eq_bind, Option.bind_some]
    split
    · rfl
    · cases (x.pod.statusList.filter (·.name == some name)).getLast? with
      | none => rfl
      | some status =>
        -- Both usages are known, or neither is.
        cases one : reported x.pod.space x.pod.nameText name with
        | none =>
          cases other : others x.pod.space x.pod.nameText name with
          | none => rfl
          | some usage => simp [one, other] at same
        | some usage =>
          cases other : others x.pod.space x.pod.nameText name with
          | none => simp [one, other] at same
          | some otherUsage => rfl

theorem pod_of_pairing {p : Pairing} (paired : x.pairing? reported = some p) : p.pod = x.pod := by
  obtain ⟨name, -, -, -, -, status, usage, -, -, rfl⟩ := Pod.pairing?_eq_some_iff.mp paired
  rfl

/-- For the tally of a node it matters only whether the usage of its own containers is known. -/
theorem itemOn?_congr {name : String}
    (same : x.pod.nodeText = name → (x.usage? reported).isSome = (x.usage? others).isSome) :
    x.itemOn? reported name = x.itemOn? others name := by
  -- A pairing is that of the pod, so it is on the node exactly when the pod is.
  have placed (lookup : UsageLookup) :
      (x.pairing? lookup).filter (·.pod.nodeText == name) =
        if x.pod.nodeText = name then x.pairing? lookup else none := by
    cases paired : x.pairing? lookup with
    | none => simp
    | some p => simp [Option.filter_some, pod_of_pairing paired]
  rw [itemOn?, itemOn?, placed, placed]
  by_cases here : x.pod.nodeText = name
  · rw [if_pos here, if_pos here]
    exact item_congr (same here)
  · rw [if_neg here, if_neg here]

end Declaration

/-- Pairings come from the declarations, one by one. -/
theorem pairings_eq_filterMap (reported : UsageLookup) (pods : List Pod) :
    pairings reported pods = (declarations pods).filterMap (Declaration.pairing? reported) := by
  rw [pairings, declarations, List.filterMap_flatMap]
  apply List.flatMap_congr
  intro pod _
  rw [Pod.declarations, List.filterMap_map]
  rfl

/-! ### The tally of a node -/

section

variable {now : Moment} {reported others : UsageLookup} {pods : List Pod}
  {seen otherSeen : List (Sighting now)} {census otherCensus : Census}

theorem Sighting.item_eq (s : Sighting now) : s.item = s.pairing.item := by
  obtain ⟨facts, observed, same⟩ := Pairing.record_ok s.built
  obtain ⟨state, ready⟩ := ContainerFacts.observe_ok observed
  rw [item, Pairing.item, same, state, ready]

/-- What a node counts of the sightings is what it counts of the declarations. -/
theorem Script.Gathered.items_eq (gathered : Gathered reported pods seen census) (name : String) :
    (sightingsOn name seen).map Sighting.item =
      (declarations pods).filterMap (Declaration.itemOn? reported name) := by
  have placed (s : Sighting now) :
      (s.record.pod.node == name) = (s.pairing.pod.nodeText == name) := by
    rw [s.record_pod]
    rfl
  have paired : (sightingsOn name seen).map Sighting.item =
      ((seen.map (·.pairing)).filter (·.pod.nodeText == name)).map Pairing.item := by
    rw [sightingsOn, List.filter_map, List.map_map, funext placed]
    exact List.map_congr_left fun s _ => s.item_eq
  rw [paired, gathered.paired, pairings_eq_filterMap, List.filter_filterMap, List.map_filterMap]
  rfl

theorem ContainerTally.ofSightings_eq (name : String) (seen : List (Sighting now)) :
    ofSightings name seen = ((sightingsOn name seen).map Sighting.item).foldl addItem {} := by
  rw [← foldl_sightingsOn, List.foldl_map]

/-- Two censuses of the same pods agree on the tally of a node when the same of its containers are
reported to both. -/
theorem Script.Gathered.containerTally_congr (gathered : Gathered reported pods seen census)
    (again : Gathered others pods otherSeen otherCensus) {name : String}
    (same : ∀ x ∈ declarations pods, x.pod.nodeText = name →
      (x.usage? reported).isSome = (x.usage? others).isSome) :
    (census.nodeContainers.find? name).getD {} =
      (otherCensus.nodeContainers.find? name).getD {} := by
  have items : (sightingsOn name seen).map Sighting.item =
      (sightingsOn name otherSeen).map Sighting.item := by
    rw [gathered.items_eq, again.items_eq]
    apply List.filterMap_congr
    intro x declared
    exact Declaration.itemOn?_congr (same x declared)
  rw [gathered.containerTally, again.containerTally, ContainerTally.ofSightings_eq, items,
    ← ContainerTally.ofSightings_eq]

end
end ClusterCensus
