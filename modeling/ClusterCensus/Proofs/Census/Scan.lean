import ClusterCensus.Cycle.Script
import ClusterCensus.Proofs.Census.Pairing
import ClusterCensus.Proofs.Census.Usage
import ClusterCensus.Proofs.Tally
import ClusterCensus.Proofs.Trace

/-!
# What a scan of pods gathers

A scan fills one list and three tables at different points of its loops. Here each step is put in
one form, and a whole scan follows: the records are those of the pairings of the kept pods, in
order; the tables of controllers and of pods by node have been adjusted once for each kept pod; the
table of containers by node has been adjusted once for each record.

## Main result

`scanPods_gathers`: a scan that ends well has gathered exactly this.
-/
namespace ClusterCensus

/-! ### Sightings -/

/-- A pairing whose record could be built. -/
structure Sighting (now : Moment) where
  pairing : Pairing
  record : ContainerRecord
  built : pairing.record now = .ok record

namespace Sighting

variable {now : Moment}

/-- The container as its node counts it. -/
def item (s : Sighting now) : ContainerTally.Item :=
  ⟨some s.record.container.state, s.record.container.ready, s.pairing.isInit⟩

end Sighting

/-! ### Gathering sightings -/

namespace Census

variable {now : Moment}

/-- Adds the record of a sighting. -/
def addSighting (census : Census) (s : Sighting now) : Census :=
  census.addRecord s.record s.pairing.isInit

variable (seen : List (Sighting now)) (census : Census)

@[simp]
theorem foldl_addSighting_records :
    (seen.foldl addSighting census).records = census.records ++ seen.map (·.record) := by
  induction seen generalizing census with
  | nil => simp
  | cons s rest ih => simp [ih, addSighting, addRecord]

@[simp]
theorem foldl_addSighting_controllers :
    (seen.foldl addSighting census).controllers = census.controllers := by
  induction seen generalizing census with
  | nil => rfl
  | cons s rest ih => exact ih (census.addSighting s)

@[simp]
theorem foldl_addSighting_nodePods :
    (seen.foldl addSighting census).nodePods = census.nodePods := by
  induction seen generalizing census with
  | nil => rfl
  | cons s rest ih => exact ih (census.addSighting s)

@[simp]
theorem foldl_addSighting_nodeContainers :
    (seen.foldl addSighting census).nodeContainers =
      seen.foldl (fun table s => table.adjust s.record.pod.node {} (·.addItem s.item))
        census.nodeContainers := by
  induction seen generalizing census with
  | nil => rfl
  | cons s rest ih => exact ih (census.addSighting s)

end Census

/-! ### One declared container -/

namespace UsageIndex

theorem quantity_ok {usage : Value} {name text : String} (read : quantity usage name = .ok text) :
    text = usage.textAt name := by
  cases usage with
  | object fields =>
    simp only [quantity] at read
    simp only [Value.textAt, Fields.textAt]
    split at read <;> simp_all
  | _ => cases read

end UsageIndex

namespace Census

/-- The table of statuses holds the last status of a name. -/
theorem statusTable_find? (pod : Pod) (name : String) :
    pod.listing.statusTable.find? (some name) =
      (pod.statusList.filter (·.name == some name)).getLast? := by
  rw [LivePod.statusTable, Table.find?_ofBindings, List.filter_map, List.getLast?_map]
  simp [Function.comp_def]

/-- A scan matches a container with a status and a usage exactly when it has a pairing. -/
theorem pairing?_eq (usage : UsageIndex) (now : Moment) (pod : Pod) (declared : Container × Bool) :
    pod.pairing? usage.container? declared =
      (match? usage (PodFacts.observe pod now) pod.listing.statusTable declared.1).map fun found =>
        ⟨pod, declared.1, declared.2, found.1, found.2⟩ := by
  obtain ⟨⟨name, image, resources⟩, isInit⟩ := declared
  cases name with
  | none => rfl
  | some name =>
    have unnamed : name.isEmpty = (name == "") := by
      rw [Bool.eq_iff_iff, String.isEmpty_iff, beq_iff_eq]
    -- Both look at the name, the image, the resources, the status and the usage, in this order.
    simp only [Pod.pairing?, match?, Option.bind_eq_bind, Option.bind_some, unnamed,
      statusTable_find?, Pod.observe_space, Pod.observe_pod]
    split
    · rfl
    · cases (pod.statusList.filter (·.name == some name)).getLast? with
      | none => rfl
      | some status => cases usage.container? pod.space pod.nameText name <;> rfl

/-- What is observed of a usage are its texts. -/
theorem observe_ok {container : Container} {status : ContainerStatus} {reported : Value}
    {now : Moment} {facts : ContainerFacts}
    (observed : (observe container status reported now).outcome = .ok facts) :
    (ContainerFacts.observe container status status.state (reported.textAt "cpu")
      (reported.textAt "memory") now).outcome = .ok facts := by
  obtain ⟨cpu, readCpu, onward⟩ := Trace.bind_outcome_ok_iff.mp observed
  obtain ⟨memory, readMemory, built⟩ := Trace.bind_outcome_ok_iff.mp onward
  rw [← UsageIndex.quantity_ok readCpu, ← UsageIndex.quantity_ok readMemory]
  exact built

section Steps

variable {usage : UsageIndex} {now : Moment} {pod : Pod} {census next : Census}

/-- A visit of a declared container adds the sighting of its pairing, if it has one. -/
theorem visitContainer_ok {declared : Container × Bool}
    (visited : (visitContainer usage now (PodFacts.observe pod now) pod.listing.statusTable census
      declared).outcome = .ok next) :
    ∃ seen : List (Sighting now),
      seen.map (·.pairing) = (pod.pairing? usage.container? declared).toList ∧
        next = seen.foldl addSighting census := by
  rw [pairing?_eq usage now]
  unfold visitContainer at visited
  split at visited
  next unmatched =>
    rw [unmatched]
    exact ⟨[], rfl, (Except.ok.inj visited).symm⟩
  next status reported matched =>
    obtain ⟨facts, observed, added⟩ := Trace.bind_outcome_ok_iff.mp visited
    have built : Pairing.record now ⟨pod, declared.1, declared.2, status, reported⟩ =
        .ok ⟨PodFacts.observe pod now, facts, {}⟩ := by
      rw [Pairing.record, observe_ok observed]
      rfl
    -- The one sighting is that of the match.
    refine ⟨[⟨_, _, built⟩], ?_, ?_⟩
    · rw [matched]
      rfl
    · exact (Except.ok.inj added).symm

/-- A visit of a kept pod counts the pod and adds the sightings of its pairings. -/
theorem visitPod_ok
    (visited : (visitPod usage now census pod pod.listing).outcome = .ok next) :
    ∃ seen : List (Sighting now), seen.map (·.pairing) = pod.pairings usage.container? ∧
      next = seen.foldl addSighting (census.countPod (PodFacts.observe pod now) pod.listing) := by
  rw [Pod.pairings, ← Pod.listing_containers]
  -- After some of the containers the census holds the sightings of their pairings.
  refine Trace.thread_induction (P := fun done reached => ∃ seen : List (Sighting now),
    seen.map (·.pairing) = done.filterMap (pod.pairing? usage.container?) ∧
      reached = seen.foldl addSighting (census.countPod (PodFacts.observe pod now) pod.listing))
    ⟨[], rfl, rfl⟩ ?_ visited
  rintro done declared state after ⟨seen, paired, rfl⟩ step
  obtain ⟨more, morePaired, rfl⟩ := visitContainer_ok step
  refine ⟨seen ++ more, ?_, (List.foldl_append).symm⟩
  rw [List.map_append, paired, morePaired, List.filterMap_append]
  cases found : pod.pairing? usage.container? declared <;> simp [found]

end Steps
end Census

namespace Script

variable {usage : UsageIndex} {now : Moment} {census next : Census}

/-- Everything that the scan of one pod can do: a pod that is not kept changes nothing, a kept one
is counted and its sightings are added. -/
theorem scanPod_ok {pod : Pod} (scanned : (scanPod usage now census pod).outcome = .ok next) :
    (pod.isKept = false ∧ next = census) ∨
      (pod.isKept = true ∧ ∃ seen : List (Sighting now),
        seen.map (·.pairing) = pod.pairings usage.container? ∧
          next = seen.foldl Census.addSighting
            (census.countPod (PodFacts.observe pod now) pod.listing)) := by
  obtain ⟨⟨⟩, -, onward⟩ := Trace.bind_outcome_ok_iff.mp scanned
  -- What the scan looks at is the pod as it is listed, if it is kept.
  rw [Pod.live?_eq] at onward
  cases kept : pod.isKept with
  | false =>
    simp only [kept, Bool.false_eq_true, if_false] at onward
    obtain ⟨⟨⟩, -, same⟩ := Trace.bind_outcome_ok_iff.mp onward
    exact .inl ⟨rfl, (Except.ok.inj same).symm⟩
  | true =>
    simp only [kept, if_true] at onward
    exact .inr ⟨rfl, Census.visitPod_ok onward⟩

/-! ### A whole scan -/

/-- The census holds exactly what the pods give rise to, with their sightings in order. -/
structure Gathered (reported : UsageLookup) (pods : List Pod) (seen : List (Sighting now))
    (census : Census) : Prop where
  paired : seen.map (·.pairing) = pairings reported pods
  records : census.records = seen.map (·.record)
  controllers : census.controllers = (pods.filter Pod.isKept).foldl
    (fun table pod => table.adjust pod.controllerKey {} (·.addLivePod pod.listing)) {}
  nodePods : census.nodePods = (pods.filter Pod.isKept).foldl
    (fun table pod => table.adjust (PodFacts.observe pod now).node {}
      (·.add (some (PodFacts.observe pod now).phase))) {}
  nodeContainers : census.nodeContainers = seen.foldl
    (fun table s => table.adjust s.record.pod.node {} (·.addItem s.item)) {}

/-- Before the first pod nothing has been gathered. -/
theorem Gathered.empty (reported : UsageLookup) :
    Gathered reported [] ([] : List (Sighting now)) {} :=
  ⟨rfl, rfl, rfl, rfl, rfl⟩

/-- Scanning one more pod gathers what that pod gives rise to. -/
theorem Gathered.scan {pod : Pod} {done : List Pod} {seen : List (Sighting now)}
    (gathered : Gathered usage.container? done seen census)
    (scanned : (scanPod usage now census pod).outcome = .ok next) :
    ∃ seen : List (Sighting now), Gathered usage.container? (done ++ [pod]) seen next := by
  rcases scanPod_ok scanned with ⟨dropped, rfl⟩ | ⟨kept, more, morePaired, rfl⟩
  · -- A pod that is not kept leaves the kept pods as they were.
    refine ⟨seen, ?_⟩
    have same : (done ++ [pod]).filter Pod.isKept = done.filter Pod.isKept := by simp [dropped]
    exact ⟨by rw [pairings, same]; exact gathered.paired, gathered.records,
      by rw [same]; exact gathered.controllers, by rw [same]; exact gathered.nodePods,
      gathered.nodeContainers⟩
  · -- A kept pod comes last, and so do its sightings.
    have grown : (done ++ [pod]).filter Pod.isKept = done.filter Pod.isKept ++ [pod] := by
      simp [kept]
    refine ⟨seen ++ more, ?_, ?_, ?_, ?_, ?_⟩
    · rw [List.map_append, gathered.paired, morePaired, pairings, pairings, grown]
      simp
    · simp [gathered.records, Census.countPod]
    · simp [grown, ← gathered.controllers, Census.countPod]
    · simp [grown, ← gathered.nodePods, Census.countPod]
    · simp [← gathered.nodeContainers, Census.countPod]

/-- A scan that ends well has gathered the sightings of all pairings, in order, and has counted
every kept pod once. -/
theorem scanPods_gathers {pods : List Pod}
    (scanned : (scanPods usage now pods).outcome = .ok census) :
    ∃ seen : List (Sighting now), Gathered usage.container? pods seen census := by
  refine Trace.thread_induction
    (P := fun done reached => ∃ seen : List (Sighting now),
      Gathered usage.container? done seen reached)
    ⟨[], Gathered.empty _⟩ ?_ scanned
  rintro done pod state after ⟨seen, gathered⟩ step
  exact gathered.scan step

end Script
end ClusterCensus
