import ClusterCensus.Proofs.Census.Join
import ClusterCensus.Proofs.Cycle.Script
import ClusterCensus.Proofs.Record.Fields

/-!
# Controller tallies are final

The tally of a controller grows while pods are scanned, and the records of its pods are collected
meanwhile; only after the last pod do the records take their tallies. So wherever a pod stands in
the list, its records carry the counts over all kept pods of its controller.

## Main result

`handed_controller_tallies`: every pod record that is handed to emission carries the four counts of
its own controller, and shows them on its line.
-/
namespace ClusterCensus

def ownedPods (pods : List Pod) (key : ControllerKey) : List Pod :=
  (pods.filter Pod.isKept).filter (·.controllerKey == key)

namespace ControllerTally

def ownedStatuses (pods : List Pod) (key : ControllerKey) : List ContainerStatus :=
  (ownedPods pods key).flatMap Pod.statusList

/-- The tally that the kept pods of a controller count up to, with all their statuses. -/
def ofPods (pods : List Pod) (key : ControllerKey) : ControllerTally where
  podsTotal := (ownedPods pods key).length
  podsReady := (ownedPods pods key).countP Pod.isReady
  containersTotal := (ownedStatuses pods key).length
  containersReady := (ownedStatuses pods key).countP (·.ready == some true)

variable (pods : List Pod) (key : ControllerKey)

theorem ofPods_podsReady_le : (ofPods pods key).podsReady ≤ (ofPods pods key).podsTotal := by
  simp only [ofPods]
  exact_mod_cast List.countP_le_length

theorem ofPods_containersReady_le :
    (ofPods pods key).containersReady ≤ (ofPods pods key).containersTotal := by
  simp only [ofPods]
  exact_mod_cast List.countP_le_length

theorem one_le_ofPods_podsTotal {pod : Pod} (member : pod ∈ pods.filter Pod.isKept) :
    1 ≤ (ofPods pods pod.controllerKey).podsTotal := by
  have owned : pod ∈ ownedPods pods pod.controllerKey :=
    List.mem_filter.mpr ⟨member, by simp⟩
  simp only [ofPods]
  exact_mod_cast List.length_pos_of_mem owned

/-- Counting the kept pods of a controller one by one gives the counts over all of them. -/
theorem foldl_ownedPods :
    (ownedPods pods key).foldl (fun tally pod => tally.addLivePod pod.listing) {} =
      ofPods pods key := by
  have listings : (ownedPods pods key).foldl (fun tally pod => tally.addLivePod pod.listing) {} =
      ((ownedPods pods key).map Pod.listing).foldl addLivePod {} := List.foldl_map.symm
  -- An absent readiness counts like false.
  have ready : (ownedStatuses pods key).countP (·.ready.getD false) =
      (ownedStatuses pods key).countP (·.ready == some true) := by
    refine List.countP_congr fun status _ => ?_
    cases status.ready <;> simp
  rw [listings, foldl_addLivePod, ofPods, ← ready]
  simp [ownedStatuses, List.countP_map, List.flatMap_map, Function.comp_def]

end ControllerTally

/-! ### Tallies of a census -/

section Census

variable {now : Moment} {reported : UsageLookup} {pods : List Pod} {seen : List (Sighting now)}
  {census : Census}

/-- After a scan the tally of every controller is the one of all its kept pods. -/
theorem Script.Gathered.controllerTally (gathered : Gathered reported pods seen census)
    (key : ControllerKey) :
    (census.controllers.find? key).getD {} = ControllerTally.ofPods pods key := by
  rw [gathered.controllers, Table.getD_find?_foldl_adjust]
  exact ControllerTally.foldl_ownedPods pods key

end Census

/-! ### Records of sightings -/

section Sightings

variable {now : Moment} {reported : UsageLookup} {pods : List Pod}

/-- The record of a sighting with the final tally of its controller. -/
def Sighting.settled (pods : List Pod) (s : Sighting now) : ContainerRecord :=
  { s.record with controller := ControllerTally.ofPods pods s.record.pod.controllerKey }

theorem Sighting.record_pod (s : Sighting now) :
    s.record.pod = PodFacts.observe s.pairing.pod now := by
  obtain ⟨facts, -, same⟩ := Pairing.record_ok s.built
  rw [same]

/-- The controller of a record is still to be settled. -/
theorem Sighting.record_controller (s : Sighting now) : s.record.controller = {} := by
  obtain ⟨facts, -, same⟩ := Pairing.record_ok s.built
  rw [same]

/-- A record whose controller is not counted keeps its tally. -/
theorem Census.settle_eq (controllers : Table ControllerKey ControllerTally)
    (r : ContainerRecord) :
    settle controllers r =
      { r with controller := (controllers.find? r.pod.controllerKey).getD r.controller } := by
  unfold settle
  split
  next tally found => rw [found]; rfl
  next missing => rw [missing]; rfl

/-- The settled records of a census are the sightings with their final tallies. -/
theorem Script.Gathered.settled_eq {seen : List (Sighting now)} {census : Census}
    (gathered : Gathered reported pods seen census) :
    census.settled = seen.map (Sighting.settled pods) := by
  rw [Census.settled, gathered.records, List.map_map]
  refine List.map_congr_left fun s _ => ?_
  rw [Function.comp_apply, Census.settle_eq, s.record_controller, gathered.controllerTally]
  rfl

/-- Pairings come from kept pods alone. -/
theorem kept_of_mem_pairings {p : Pairing} (member : p ∈ pairings reported pods) :
    p.pod ∈ pods.filter Pod.isKept := by
  obtain ⟨pod, kept, inPod⟩ := List.mem_flatMap.mp member
  obtain ⟨declared, -, paired⟩ := List.mem_filterMap.mp inPod
  obtain ⟨_, -, -, -, -, _, _, -, -, rfl⟩ := Pod.pairing?_eq_some_iff.mp paired
  exact kept

end Sightings

/-! ## Main result -/

/-- A line shows the counts of the controller that it names, over all kept pods, one of which is
owned by this controller. -/
structure CountsController (pods : List Pod) (line : Fields) : Prop where
  owned : ∃ pod ∈ pods, pod.isKept ∧ pod.controllerKey = ControllerKey.ofFields line
  shown : line.Shows (ControllerTally.ofPods pods (ControllerKey.ofFields line)).fields

/-- The line of a settled sighting counts its controller. -/
theorem Sighting.countsController {now : Moment} {reported : UsageLookup} {pods : List Pod}
    (s : Sighting now) (paired : s.pairing ∈ pairings reported pods) :
    CountsController pods (s.settled pods).fields := by
  obtain ⟨listed, kept⟩ := List.mem_filter.mp (kept_of_mem_pairings paired)
  have key : ControllerKey.ofFields (s.settled pods).fields = s.record.pod.controllerKey :=
    (s.settled pods).ofFields_fields
  refine ⟨⟨s.pairing.pod, listed, kept, ?_⟩, ?_⟩
  · rw [key, s.record_pod, Pod.observe_controllerKey]
  · rw [key]
    exact (s.settled pods).shows_controller

/-- Every pod record that a cycle hands to emission shows the four counts of its own controller
over all kept pods of the cycle, wherever they stand in the list. So the counts are in order, and
records of one controller agree on all four. -/
theorem handed_controller_tallies (now : Moment) (snapshot : Snapshot) :
    let handed := (Script.ofSnapshot now snapshot).handed .pod
    (∀ line ∈ handed, CountsController snapshot.pods line ∧
        let tally := ControllerTally.ofPods snapshot.pods (ControllerKey.ofFields line)
        1 ≤ tally.podsTotal ∧ tally.podsReady ≤ tally.podsTotal ∧
          tally.containersReady ≤ tally.containersTotal) ∧
      ∀ line ∈ handed, ∀ other ∈ handed,
        ControllerKey.ofFields line = ControllerKey.ofFields other →
          ∀ name ∈ ["pods_total", "pods_ready", "containers_total", "containers_ready"],
            line.get name = other.get name := by
  intro handed
  have each : ∀ line ∈ handed, CountsController snapshot.pods line := by
    intro line member
    -- Whatever is handed over comes after a complete scan.
    rcases Script.ofSnapshot_cases now snapshot with
      ⟨-, -, nothing⟩ | ⟨_, _, census, -, -, scanned, -, offered, -⟩
    · rw [show handed = [] from nothing .pod] at member
      cases member
    · obtain ⟨seen, gathered⟩ := Script.scanPods_gathers scanned
      rw [show handed = _ from offered, gathered.settled_eq, List.map_map] at member
      obtain ⟨s, sighted, rfl⟩ := List.mem_map.mp member
      exact s.countsController (gathered.paired ▸ List.mem_map_of_mem sighted)
  refine ⟨fun line member => ⟨each line member, ?_, ?_, ?_⟩, ?_⟩
  · obtain ⟨pod, listed, kept, key⟩ := (each line member).owned
    rw [← key]
    exact ControllerTally.one_le_ofPods_podsTotal _ (List.mem_filter.mpr ⟨listed, kept⟩)
  · exact ControllerTally.ofPods_podsReady_le _ _
  · exact ControllerTally.ofPods_containersReady_le _ _
  · intro line member other alsoMember same name counter
    rw [(each line member).shown name counter, same, (each other alsoMember).shown name counter]

/-! ### The sample on its node -/

namespace Sample

def node : Node :=
  ⟨some ⟨some "alpha", none⟩, some ⟨none⟩, some ⟨none, [], [], [], []⟩⟩

def nodeMetrics : MetricsItem where
  name := .text "alpha"
  space := .null
  data := [("usage", .object [("cpu", .int 1)])]

def snapshot : Snapshot where
  pods := [pod]
  nodes := [node]
  podMetrics := [podMetrics]
  nodeMetrics := [nodeMetrics]

/-- The one pod of the sample is ready, and so are two of its four statuses. -/
def tally : ControllerTally where
  podsTotal := 1
  podsReady := 1
  containersTotal := 4
  containersReady := 2

end Sample

/-- Both records of the sample are handed over with the same tally, which counts the statuses of
containers without a record, too. -/
theorem handed_controller_tallies_sample :
    ((Script.ofSnapshot ⟨0, none⟩ Sample.snapshot).handed .pod).length = 2 ∧
      ∀ line ∈ (Script.ofSnapshot ⟨0, none⟩ Sample.snapshot).handed .pod,
        line.Shows Sample.tally.fields := by
  refine ⟨rfl, ?_⟩
  intro line handed
  obtain ⟨⟨pod, listed, -, key⟩, shown⟩ :=
    ((handed_controller_tallies ⟨0, none⟩ Sample.snapshot).1 line handed).1
  obtain rfl := List.mem_singleton.mp listed
  have tally : ControllerTally.ofPods [Sample.pod] Sample.pod.controllerKey = Sample.tally := by
    decide +kernel
  rw [← key] at shown
  exact tally ▸ shown

end ClusterCensus
