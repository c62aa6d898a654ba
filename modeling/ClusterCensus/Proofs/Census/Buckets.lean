import ClusterCensus.Proofs.Census.Scan
import ClusterCensus.Proofs.Observe.Container

/-!
# Tallies of a node

What a scan leaves for the name of a node: the kept pods that are declared for it, by phase, and
the records of their containers, by state. Pods without a node are tallied under the empty name,
which no node has.

## Main results

`Script.Gathered.podTally` and `Script.Gathered.containerTally`: what stands in a census under the
name of a node. `PodTally.ofPods_balanced` and `ContainerTally.ofSightings_balanced`: the buckets
add up to the totals.
-/
namespace ClusterCensus

/-! ### Pods by phase -/

/-- The kept pods that name a node in their declaration. -/
def podsOn (name : String) (pods : List Pod) : List Pod :=
  (pods.filter Pod.isKept).filter (·.nodeName? == some name)

namespace PodTally

def ofPods (name : String) (pods : List Pod) : PodTally where
  failed := (podsOn name pods).countP (isPhase "failed" ·.phase?)
  pending := (podsOn name pods).countP (isPhase "pending" ·.phase?)
  running := (podsOn name pods).countP (isPhase "running" ·.phase?)
  succeeded := (podsOn name pods).countP (isPhase "succeeded" ·.phase?)
  unknown := (podsOn name pods).countP (isOtherPhase ·.phase?)
  total := (podsOn name pods).length

/-- The five buckets add up to the total. -/
structure Balanced (tally : PodTally) : Prop where
  total_eq : tally.total =
    tally.failed + tally.pending + tally.running + tally.succeeded + tally.unknown

/-- Every pod is in exactly one bucket. -/
theorem ofPods_balanced (name : String) (pods : List Pod) : (ofPods name pods).Balanced := by
  have buckets := length_eq_sum_countP ((podsOn name pods).map Pod.phase?)
  simp only [List.length_map, List.countP_map, Function.comp_def] at buckets
  refine ⟨?_⟩
  simp only [ofPods]
  exact_mod_cast buckets

/-- Counting the kept pods of a node one by one gives their tally. -/
theorem foldl_podsOn (name : String) (pods : List Pod) (now : Moment) :
    (podsOn name pods).foldl
        (fun tally pod => tally.add (some (PodFacts.observe pod now).phase)) {} =
      ofPods name pods := by
  have phases : (podsOn name pods).foldl
      (fun tally pod => tally.add (some (PodFacts.observe pod now).phase)) {} =
        ((podsOn name pods).map fun pod => some (PodFacts.observe pod now).phase).foldl add {} :=
    List.foldl_map.symm
  rw [phases, foldl_add, ofPods]
  simp only [List.countP_map, List.length_map, Function.comp_def, isPhase, isOtherPhase,
    Pod.lowered_observe_phase, Int.zero_add]

end PodTally

/-! ### Containers by state -/

/-- The state of a container is the name of its stage, and it is ready as its status says. -/
theorem ContainerFacts.observe_ok {container : Container} {status : ContainerStatus}
    {state : Option ContainerState} {cpuUsage memoryUsage : String} {now : Moment}
    {facts : ContainerFacts}
    (observed : (observe container status state cpuUsage memoryUsage now).outcome = .ok facts) :
    facts.state = (currentStage state).name ∧ facts.ready = status.ready.getD false := by
  obtain ⟨amounts, -, rfl⟩ := observe_ok_iff.mp observed
  exact ⟨rfl, rfl⟩

namespace Sighting

variable {now : Moment}

def isIn (state : String) (s : Sighting now) : Bool :=
  s.record.container.state == state

/-- The state of a container is the name of a stage. -/
theorem exists_stage (s : Sighting now) :
    ∃ stage : Stage, s.record.container.state = stage.name := by
  obtain ⟨facts, observed, same⟩ := Pairing.record_ok s.built
  rw [same]
  exact ⟨_, (ContainerFacts.observe_ok observed).1⟩

/-- The buckets compare states in lower case, which keeps the three stages apart. -/
theorem item_isIn (s : Sighting now) (stage : Stage) :
    s.item.isIn (lowered (some stage.name)) = s.isIn stage.name := by
  obtain ⟨own, state⟩ := s.exists_stage
  simp only [item, ContainerTally.Item.isIn, isIn, state]
  cases own <;> cases stage <;> decide

theorem item_isCounted (s : Sighting now) : s.item.isCounted = true := by
  obtain ⟨own, state⟩ := s.exists_stage
  simp only [item, ContainerTally.Item.isCounted, state]
  cases own <;> decide

end Sighting

/-- The three states take every sighting exactly once. -/
theorem length_eq_sum_isIn {now : Moment} (seen : List (Sighting now)) :
    seen.length = seen.countP (·.isIn "Running") + seen.countP (·.isIn "Waiting") +
      seen.countP (·.isIn "Terminated") := by
  induction seen with
  | nil => rfl
  | cons s rest ih =>
    obtain ⟨stage, state⟩ := s.exists_stage
    -- The first sighting counts once, in the bucket of its stage.
    have once : 1 = (if s.isIn "Running" then 1 else 0) + (if s.isIn "Waiting" then 1 else 0) +
        (if s.isIn "Terminated" then 1 else 0) := by
      simp only [Sighting.isIn, state]
      cases stage <;> decide
    simp only [List.countP_cons, List.length_cons]
    omega

def sightingsOn {now : Moment} (name : String) (seen : List (Sighting now)) :
    List (Sighting now) :=
  seen.filter (·.record.pod.node == name)

namespace ContainerTally

variable {now : Moment} (name : String) (seen : List (Sighting now))

def ofSightings : ContainerTally where
  init := (sightingsOn name seen).countP (·.pairing.isInit)
  ready := (sightingsOn name seen).countP fun s => s.isIn "Running" && s.record.container.ready
  running := (sightingsOn name seen).countP (·.isIn "Running")
  terminated := (sightingsOn name seen).countP (·.isIn "Terminated")
  waiting := (sightingsOn name seen).countP (·.isIn "Waiting")
  total := (sightingsOn name seen).length

/-- The three buckets add up to the total, and the other counters stay within their bounds. -/
structure Balanced (tally : ContainerTally) : Prop where
  total_eq : tally.total = tally.running + tally.waiting + tally.terminated
  ready_le : tally.ready ≤ tally.running
  running_le : tally.running ≤ tally.total
  init_le : tally.init ≤ tally.total

/-- Every container is in exactly one bucket, and only running ones are ready. -/
theorem ofSightings_balanced : (ofSightings name seen).Balanced := by
  refine ⟨?_, ?_, ?_, ?_⟩ <;> simp only [ofSightings]
  · exact_mod_cast length_eq_sum_isIn (sightingsOn name seen)
  · have implied : ∀ s ∈ sightingsOn name seen,
        (s.isIn "Running" && s.record.container.ready) = true → s.isIn "Running" = true := by
      intro s _ both
      exact (Bool.and_eq_true_iff.mp both).1
    exact_mod_cast List.countP_mono_left implied
  · exact_mod_cast List.countP_le_length
  · exact_mod_cast List.countP_le_length

/-- Counting the containers of a node one by one gives their tally. -/
theorem foldl_sightingsOn :
    (sightingsOn name seen).foldl (fun tally s => tally.addItem s.item) {} =
      ofSightings name seen := by
  have items : (sightingsOn name seen).foldl (fun tally s => tally.addItem s.item) {} =
      ((sightingsOn name seen).map Sighting.item).foldl addItem {} := List.foldl_map.symm
  have running (s : Sighting now) : s.item.isIn "running" = s.isIn "Running" :=
    s.item_isIn .running
  have waiting (s : Sighting now) : s.item.isIn "waiting" = s.isIn "Waiting" :=
    s.item_isIn .waiting
  have terminated (s : Sighting now) : s.item.isIn "terminated" = s.isIn "Terminated" :=
    s.item_isIn .terminated
  rw [items, foldl_addItem, ofSightings]
  simp only [List.countP_map, Function.comp_def, Int.zero_add, running, waiting, terminated,
    Sighting.item_isCounted, List.countP_true]
  rfl

end ContainerTally

/-! ### Under the name of a node -/

section Census

variable {now : Moment} {reported : UsageLookup} {pods : List Pod} {seen : List (Sighting now)}
  {census : Census}

/-- After a scan the pod tally of a named node is the one of its kept pods. -/
theorem Script.Gathered.podTally (gathered : Gathered reported pods seen census) {name : String}
    (named : name ≠ "") :
    (census.nodePods.find? name).getD {} = PodTally.ofPods name pods := by
  -- A pod without a node is tallied under the empty name, which is not this one.
  have declaredFor : (pods.filter Pod.isKept).filter
      (fun pod => (PodFacts.observe pod now).node == name) = podsOn name pods := by
    refine List.filter_congr fun pod _ => ?_
    rw [Bool.eq_iff_iff, beq_iff_eq, beq_iff_eq]
    exact Pod.observe_node_eq_iff pod now named
  rw [gathered.nodePods, Table.getD_find?_foldl_adjust, declaredFor]
  exact PodTally.foldl_podsOn name pods now

/-- After a scan the container tally of a node is the one of the sightings on it. -/
theorem Script.Gathered.containerTally (gathered : Gathered reported pods seen census)
    (name : String) :
    (census.nodeContainers.find? name).getD {} = ContainerTally.ofSightings name seen := by
  rw [gathered.nodeContainers, Table.getD_find?_foldl_adjust]
  exact ContainerTally.foldl_sightingsOn name seen

end Census
end ClusterCensus
