import ClusterCensus.Proofs.Census.Observable
import ClusterCensus.Proofs.Cycle.Nodes
import Mathlib.Data.List.Perm.Basic

/-!
# A census does not see the order of the pods

A census that was taken of the same pods in another order holds the same sightings in another order,
and under each name and each controller the same tallies. So the nodes, which look at nothing else,
are observed in the same way.

## Main results

`Script.Gathered.seen_perm` and `Script.Gathered.scanNodes_eq`.
-/
namespace ClusterCensus

variable {pods others : List Pod}

/-! ### Tallies -/

theorem ControllerTally.ofPods_perm (same : pods.Perm others) (key : ControllerKey) :
    ofPods pods key = ofPods others key := by
  have owned : (ownedPods pods key).Perm (ownedPods others key) := (same.filter _).filter _
  have statuses : (ownedStatuses pods key).Perm (ownedStatuses others key) :=
    owned.flatMap_right Pod.statusList
  simp only [ofPods, owned.length_eq, owned.countP_eq, statuses.length_eq, statuses.countP_eq]

theorem PodTally.ofPods_perm (same : pods.Perm others) (name : String) :
    ofPods name pods = ofPods name others := by
  have declared : (podsOn name pods).Perm (podsOn name others) := (same.filter _).filter _
  simp only [ofPods, declared.length_eq, declared.countP_eq]

theorem ContainerTally.ofSightings_perm {now : Moment} {seen other : List (Sighting now)}
    (same : seen.Perm other) (name : String) : ofSightings name seen = ofSightings name other := by
  have placed : (sightingsOn name seen).Perm (sightingsOn name other) := same.filter _
  simp only [ofSightings, placed.length_eq, placed.countP_eq]

/-! ### Sightings -/

theorem pairings_perm (same : pods.Perm others) (reported : UsageLookup) :
    (pairings reported pods).Perm (pairings reported others) :=
  (same.filter _).flatMap_right _

/-- The record of a sighting follows from its pairing. -/
theorem Sighting.pairing_injective {now : Moment} :
    Function.Injective (Sighting.pairing : Sighting now → Pairing) := by
  -- The record of a sighting is built from its pairing.
  rintro ⟨pairing, record, built⟩ ⟨_, other, alsoBuilt⟩ rfl
  obtain rfl : record = other := Except.ok.inj (built.symm.trans alsoBuilt)
  rfl

theorem Sighting.settled_perm {now : Moment} (same : pods.Perm others) (s : Sighting now) :
    s.settled pods = s.settled others := by
  rw [settled, settled, ControllerTally.ofPods_perm same]

/-! ### Nodes -/

/-- Two censuses that agree on the tallies under the name of a node look at it in the same way. -/
theorem Census.visitNode_congr {census other : Census} {node : Node}
    (pods : ∀ name, node.recordName? = some name →
      (census.nodePods.find? name).getD {} = (other.nodePods.find? name).getD {})
    (containers : ∀ name, node.recordName? = some name →
      (census.nodeContainers.find? name).getD {} = (other.nodeContainers.find? name).getD {})
    (usage : UsageIndex) (now : Moment) :
    census.visitNode usage now node = other.visitNode usage now node := by
  unfold visitNode
  cases named : node.recordName? with
  | none => rfl
  | some name => simp only [observeNode, pods name named, containers name named]

namespace Script.Gathered

variable {now : Moment} {reported : UsageLookup} {seen otherSeen : List (Sighting now)}
  {census otherCensus : Census}

/-- Pods in another order give the same sightings in another order. -/
theorem seen_perm (gathered : Gathered reported pods seen census)
    (again : Gathered reported others otherSeen otherCensus) (same : pods.Perm others) :
    seen.Perm otherSeen := by
  have paired : (seen.map (·.pairing)).Perm (otherSeen.map (·.pairing)) := by
    rw [gathered.paired, again.paired]
    exact pairings_perm same reported
  exact (List.map_perm_map_iff Sighting.pairing_injective).mp paired

/-- The nodes are visited alike, as all tallies are counts. -/
theorem scanNodes_eq (gathered : Gathered reported pods seen census)
    (again : Gathered reported others otherSeen otherCensus) (same : pods.Perm others)
    (usage : UsageIndex) (nodes : List Node) :
    scanNodes usage now census nodes = scanNodes usage now otherCensus nodes := by
  have visits (node : Node) :
      census.visitNode usage now node = otherCensus.visitNode usage now node := by
    -- The tallies under a name are those of the pods and of the sightings, in any order.
    refine Census.visitNode_congr (fun name own => ?_) (fun name _ => ?_) usage now
    · obtain ⟨-, -, -, named⟩ := Node.recordName?_eq_some_iff.mp own
      rw [gathered.podTally named, again.podTally named, PodTally.ofPods_perm same]
    · rw [gathered.containerTally, again.containerTally,
        ContainerTally.ofSightings_perm (gathered.seen_perm again same)]
  simp only [scanNodes, scanNode, visits]

end Script.Gathered
end ClusterCensus
