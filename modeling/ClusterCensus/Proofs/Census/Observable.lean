import ClusterCensus.Proofs.Census.Scan
import ClusterCensus.Proofs.Cycle.Script

/-!
# What can be observed

Whether the facts of a container or of a node can be observed depends on what is declared, observed
and reported of it, and on nothing that has been gathered before. So a scan ends well exactly when
each of its pairings and each of its nodes can be observed, in whatever order they come.

## Main result

`Script.returns_ofSnapshot_iff`: what makes the work on a snapshot end well.
-/
namespace ClusterCensus

/-! ### Pods -/

/-- The facts of the container can be observed with the status and the usage of the pairing. -/
def Pairing.IsObservable (now : Moment) (p : Pairing) : Prop :=
  (Census.observe p.container p.status p.usage now).Returns

section Pods

variable (usage : UsageIndex) (now : Moment)

theorem Census.returns_visitContainer_iff (pod : Pod) (census : Census)
    (declared : Container × Bool) :
    (visitContainer usage now (PodFacts.observe pod now) pod.listing.statusTable census
        declared).Returns ↔
      ∀ p ∈ pod.pairing? usage.container? declared, p.IsObservable now := by
  rw [pairing?_eq usage now]
  unfold visitContainer
  split
  -- Without a match there is nothing to observe.
  next unmatched =>
    rw [unmatched]
    exact iff_of_true (Trace.returns_pure _) (by simp)
  next status reported matched =>
    rw [matched, Trace.returns_bind_iff]
    simp [Pairing.IsObservable, Trace.Returns]

theorem Census.returns_visitPod_iff (census : Census) (pod : Pod) :
    (census.visitPod usage now pod pod.listing).Returns ↔
      ∀ p ∈ pod.pairings usage.container?, p.IsObservable now := by
  rw [visitPod, Trace.returns_thread_iff (returns_visitContainer_iff usage now pod),
    Pod.listing_containers, Pod.pairings, List.forall_mem_filterMap]
  rfl

namespace Script

theorem returns_scanPod_iff (census : Census) (pod : Pod) :
    (scanPod usage now census pod).Returns ↔
      (pod.isKept = true → ∀ p ∈ pod.pairings usage.container?, p.IsObservable now) := by
  have told : (Trace.tell .podScanned : Script Unit).outcome = .ok () := rfl
  rw [scanPod, Trace.Returns, Trace.bind_outcome_of_ok told, Pod.live?_eq]
  cases kept : pod.isKept with
  | false =>
    -- A pod that is not kept is counted, and nothing of it is observed.
    exact iff_of_true ⟨census, rfl⟩ (by simp)
  | true =>
    simp only [if_true, forall_const]
    exact Census.returns_visitPod_iff usage now census pod

/-- All pods can be scanned exactly when every pairing can be observed. -/
theorem returns_scanPods_iff (pods : List Pod) :
    (scanPods usage now pods).Returns ↔
      ∀ p ∈ pairings usage.container? pods, p.IsObservable now := by
  rw [scanPods, Trace.returns_thread_iff (returns_scanPod_iff usage now)]
  simp only [pairings, List.mem_flatMap, List.mem_filter]
  constructor
  · rintro fine p ⟨pod, ⟨listed, kept⟩, paired⟩
    exact fine pod listed kept p paired
  · intro fine pod listed kept p paired
    exact fine p ⟨pod, ⟨listed, kept⟩, paired⟩

end Script
end Pods

/-! ### Nodes -/

/-- The tallies of a node have no part in whether it can be observed. -/
theorem Census.returns_observeNode_iff (census other : Census) (now : Moment) (node : Node)
    (name : String) (reported : Value) :
    (census.observeNode now node name reported).Returns ↔
      (other.observeNode now node name reported).Returns := by
  -- The tallies go into the record as they are, and nothing that may fail looks at them.
  unfold observeNode
  refine Trace.returns_bind_congr fun cpu => Trace.returns_bind_congr fun memory => ?_
  unfold NodeRecord.observe
  refine Trace.returns_bind_congr fun memoryAllocatable => ?_
  refine Trace.returns_bind_congr fun memoryCapacity => ?_
  refine Trace.returns_bind_congr fun cpuUsed => Trace.returns_bind_congr fun memoryUsed => ?_
  exact iff_of_true (Trace.returns_pure _) (Trace.returns_pure _)

/-- If the node can have a record and its usage is known, then its facts can be observed. -/
def Node.IsObservable (usage : UsageIndex) (now : Moment) (node : Node) : Prop :=
  ∀ name ∈ node.recordName?, ∀ reported ∈ usage.node? name,
    (Census.observeNode {} now node name reported).Returns

section Nodes

variable (usage : UsageIndex) (now : Moment) (census : Census)

theorem Census.returns_visitNode_iff (node : Node) :
    (census.visitNode usage now node).Returns ↔ node.IsObservable usage now := by
  unfold visitNode Node.IsObservable
  cases node.recordName? with
  | none => exact iff_of_true (Trace.returns_pure _) (by simp)
  | some name =>
    cases known : usage.node? name with
    | none =>
      simp only [known]
      exact iff_of_true ⟨none, rfl⟩ (by simp [known])
    | some reported =>
      -- The tallies of the census do not matter.
      simp only [known, Option.mem_some_iff, forall_eq']
      exact Trace.returns_bind_pure_iff.trans (returns_observeNode_iff census {} now node name _)

namespace Script

theorem returns_scanNode_iff (node : Node) :
    (scanNode usage now census node).Returns ↔ node.IsObservable usage now := by
  rw [← Census.returns_visitNode_iff usage now census, scanNode, Trace.returns_bind_iff]
  constructor
  · rintro ⟨attempt, visited, -⟩
    exact ⟨attempt, visited⟩
  · rintro ⟨attempt, visited⟩
    refine ⟨attempt, visited, ?_⟩
    cases attempt <;> exact ⟨(), rfl⟩

/-- All nodes can be visited exactly when each can be observed, whatever the census. -/
theorem returns_scanNodes_iff (nodes : List Node) :
    (scanNodes usage now census nodes).Returns ↔
      ∀ node ∈ nodes, node.IsObservable usage now := by
  rw [scanNodes, Trace.returns_thread_iff fun _ => returns_scanNode_iff usage now census]

/-! ## Main result -/

/-- The work on a snapshot ends well exactly when the usage can be indexed and all pairings and all
nodes can be observed. -/
theorem returns_ofSnapshot_iff (snapshot : Snapshot) :
    (ofSnapshot now snapshot).Returns ↔
      ∃ podUsage nodeUsage,
        UsageIndex.ofPodMetrics snapshot.podMetrics = .ok podUsage ∧
        UsageIndex.ofNodeMetrics snapshot.nodeMetrics = .ok nodeUsage ∧
        (∀ p ∈ pairings podUsage.container? snapshot.pods, p.IsObservable now) ∧
        ∀ node ∈ snapshot.nodes, node.IsObservable nodeUsage now := by
  simp only [ofSnapshot, Trace.returns_bind_iff, Trace.ofExcept_outcome]
  -- The census that the nodes are visited with is any that the scan has ended in.
  constructor
  · rintro ⟨podUsage, podIndexed, nodeUsage, nodeIndexed, census, scanned, -, -, emitted⟩
    exact ⟨podUsage, nodeUsage, podIndexed, nodeIndexed,
      (returns_scanPods_iff podUsage now _).mp ⟨census, scanned⟩,
      (returns_scanNodes_iff nodeUsage now census _).mp emitted⟩
  · rintro ⟨podUsage, nodeUsage, podIndexed, nodeIndexed, pods, nodes⟩
    obtain ⟨census, scanned⟩ := (returns_scanPods_iff podUsage now _).mpr pods
    exact ⟨podUsage, podIndexed, nodeUsage, nodeIndexed, census, scanned, (), rfl,
      (returns_scanNodes_iff nodeUsage now census _).mpr nodes⟩

end Script
end Nodes
end ClusterCensus
