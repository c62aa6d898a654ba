import ClusterCensus.Proofs.Census.Observable
import ClusterCensus.Proofs.Cycle.Books
import ClusterCensus.Proofs.Gateway.Fetches
import ClusterCensus.Proofs.Gateway.Readable

/-!
# Missing parts stop no cycle

Pods and nodes may lack any of their parts, and reports any of theirs. A cycle works on what is
there: when the answers are given, the reports have the shape of metrics as far as they go and the
quantities have few digits, then everything that is to be observed can be observed, and the cycle
returns.

## Main result

`missing_parts_stop_no_cycle`: a cycle on a readable cluster returns without an error.
-/
namespace ClusterCensus

/-! ### Readable clusters -/

/-- The quantities that a container declares have few digits, whatever kind of value they are. -/
structure Container.IsReadable (container : Container) : Prop where
  limits : ∀ name ∈ ["cpu", "memory"], (container.bounds.limits.get name).IsModest
  requests : ∀ name ∈ ["cpu", "memory"], (container.bounds.requests.get name).IsModest

/-- The memory of a node has few digits, whatever kind of value it is. -/
structure Node.IsReadable (node : Node) : Prop where
  allocatable : (node.statusOrEmpty.allocatable.get "memory").IsModest
  capacity : (node.statusOrEmpty.capacity.get "memory").IsModest

/-- The cluster gives all four answers; nothing is said of its pods and nodes but that quantities
have few digits. -/
structure Cluster.IsReadable (cluster : Cluster) : Prop where
  pods : ∃ pods, cluster.pods = .ok pods ∧
    ∀ pod ∈ pods, ∀ declared ∈ pod.containerList, declared.1.IsReadable
  nodes : ∃ nodes, cluster.nodes = .ok nodes ∧ ∀ node ∈ nodes, node.IsReadable
  metrics : ∀ kind, ∃ response, cluster.metrics kind = .ok response ∧ response.IsReadableResponse

/-! ### Observing what is readable -/

theorem Value.IsUsage.quantity {usage : Value} (isUsage : usage.IsUsage) (name : String)
    (member : name ∈ ["cpu", "memory"]) :
    ∃ s, UsageIndex.quantity usage name = .ok s ∧ Quantity.IsModest s.toList := by
  obtain ⟨fields, rfl, modest⟩ := isUsage
  simp only [UsageIndex.quantity]
  split
  next s held => exact ⟨s, rfl, modest name member s held⟩
  next => exact ⟨"", rfl, by simp [Quantity.IsModest]⟩

/-- A container whose quantities have few digits can be observed. -/
theorem ContainerFacts.returns_observe {container : Container} (readable : container.IsReadable)
    {cpuUsage memoryUsage : String} (cpu : Quantity.IsModest cpuUsage.toList)
    (memory : Quantity.IsModest memoryUsage.toList) (status : ContainerStatus)
    (state : Option ContainerState) (now : Moment) :
    (observe container status state cpuUsage memoryUsage now).Returns := by
  have cpuLimit := readable.limits "cpu" (by simp)
  have cpuRequest := readable.requests "cpu" (by simp)
  have memoryLimit := readable.limits "memory" (by simp)
  have memoryRequest := readable.requests "memory" (by simp)
  unfold observe
  -- The quantities are read one after another, and each can be read.
  refine cpu.millicores.bind fun _ _ => ?_
  refine (returns_declared Quantity.IsModest.millicores cpuLimit).bind fun _ _ => ?_
  refine (returns_declared Quantity.IsModest.millicores cpuRequest).bind fun _ _ => ?_
  refine memory.bytes.bind fun _ _ => ?_
  refine (returns_declared Quantity.IsModest.bytes memoryLimit).bind fun _ _ => ?_
  refine (returns_declared Quantity.IsModest.bytes memoryRequest).bind fun _ _ => ?_
  exact Trace.returns_pure _

theorem Pairing.isObservable_of_readable {p : Pairing} (container : p.container.IsReadable)
    (usage : p.usage.IsUsage) (now : Moment) : p.IsObservable now := by
  obtain ⟨cpu, cpuRead, cpuModest⟩ := usage.quantity "cpu" (by simp)
  obtain ⟨memory, memoryRead, memoryModest⟩ := usage.quantity "memory" (by simp)
  unfold IsObservable Census.observe
  rw [cpuRead, memoryRead, Trace.ofExcept_ok_bind, Trace.ofExcept_ok_bind]
  exact ContainerFacts.returns_observe container cpuModest memoryModest _ _ now

/-- A node whose quantities have few digits can be observed. -/
theorem Node.isObservable_of_readable {node : Node} (readable : node.IsReadable)
    {index : UsageIndex}
    (usages : ∀ name ∈ node.recordName?, ∀ usage ∈ index.node? name, usage.IsUsage)
    (now : Moment) : node.IsObservable index now := by
  intro name named reported known
  have usage := usages name named reported known
  obtain ⟨cpu, cpuRead, cpuModest⟩ := usage.quantity "cpu" (by simp)
  obtain ⟨memory, memoryRead, memoryModest⟩ := usage.quantity "memory" (by simp)
  unfold Census.observeNode
  rw [cpuRead, memoryRead, Trace.ofExcept_ok_bind, Trace.ofExcept_ok_bind]
  unfold NodeRecord.observe
  refine (returns_declared Quantity.IsModest.bytes readable.allocatable).bind fun _ _ => ?_
  refine (returns_declared Quantity.IsModest.bytes readable.capacity).bind fun _ _ => ?_
  refine cpuModest.millicores.bind fun _ _ => memoryModest.bytes.bind fun _ _ => ?_
  exact Trace.returns_pure _

/-- A script on readable data comes to its end. -/
theorem Script.returns_of_readable (snapshot : Snapshot)
    (pods : ∀ pod ∈ snapshot.pods, ∀ declared ∈ pod.containerList, declared.1.IsReadable)
    (nodes : ∀ node ∈ snapshot.nodes, node.IsReadable)
    (podMetrics : ∀ item ∈ snapshot.podMetrics, item.IsReadable)
    (nodeMetrics : ∀ item ∈ snapshot.nodeMetrics, item.IsReadable) (now : Moment) :
    (ofSnapshot now snapshot).Returns := by
  obtain ⟨podUsage, podIndexed, podUsages⟩ := UsageIndex.ofPodMetrics_readable podMetrics
  obtain ⟨nodeUsage, nodeIndexed, nodeUsages⟩ := UsageIndex.ofNodeMetrics_readable nodeMetrics
  refine (returns_ofSnapshot_iff now snapshot).mpr
    ⟨podUsage, nodeUsage, podIndexed, nodeIndexed, ?_, ?_⟩
  · -- A pairing has a container that is declared and a usage that is in the index.
    intro p member
    obtain ⟨pod, listed, declared, container, paired⟩ := mem_pairings member
    obtain ⟨name, -, -, -, -, status, usage, -, found, rfl⟩ := Pod.pairing?_eq_some_iff.mp paired
    exact Pairing.isObservable_of_readable (pods pod listed declared container)
      (podUsages _ _ _ _ found) now
  · intro node listed
    exact Node.isObservable_of_readable (nodes node listed) (fun name _ => nodeUsages name) now

/-! ## Main result -/

/-- A cycle on a readable cluster, with a clock that can be read and a sink that takes every line,
returns, and its summary has no error. -/
theorem missing_parts_stop_no_cycle (w : Surroundings) (gateway : Gateway) (cluster : Cluster)
    (c : Collector) (steady : w.Steady) (willing : ∀ n, w.sink n = none)
    (configured : gateway.configured = true) (readable : cluster.IsReadable) :
    ∃ s, (c.cycle w gateway cluster).1 = .ok s ∧ s.error = none := by
  obtain ⟨pods, podsGiven, podsReadable⟩ := readable.pods
  obtain ⟨nodes, nodesGiven, nodesReadable⟩ := readable.nodes
  obtain ⟨podResponse, podResponded, podShape⟩ := readable.metrics .pods
  obtain ⟨nodeResponse, nodeResponded, nodeShape⟩ := readable.metrics .nodes
  obtain ⟨podItems, podConverted, podItemsReadable⟩ := MetricsItem.ofResponse_readable podShape
  obtain ⟨nodeItems, nodeConverted, nodeItemsReadable⟩ := MetricsItem.ofResponse_readable nodeShape
  -- All four answers can be read.
  have fetched : (gateway.snapshot cluster).outcome = .ok ⟨pods, nodes, podItems, nodeItems⟩ :=
    Gateway.snapshot_ok_iff.mpr ⟨configured, podsGiven, nodesGiven,
      ⟨podResponse, podResponded, podConverted⟩, ⟨nodeResponse, nodeResponded, nodeConverted⟩⟩
  obtain ⟨now, reading⟩ := steady c.readings
  obtain ⟨finished, readAgain⟩ := steady (c.readings + 1)
  obtain ⟨⟨⟩, ended⟩ := Script.returns_of_readable ⟨pods, nodes, podItems, nodeItems⟩ podsReadable
    nodesReadable podItemsReadable nodeItemsReadable now
  -- Nothing else can stop a cycle: clock and sink are willing.
  obtain ⟨p, passes⟩ := Collector.passes_of_open willing reading fetched ended readAgain
  exact ⟨_, congrArg Prod.fst passes.cycle_eq, passes.faultless⟩

/-! ### A sample -/

namespace Sample

/-- A container whose limits and requests are no texts. -/
def bounded : Container :=
  ⟨some "web", some "", some ⟨[("cpu", .bool true)], [("memory", .int (-12))]⟩⟩

/-- A cluster of pods and nodes that lack most of their parts, with reports that lack theirs. -/
def sparse : Cluster where
  pods := .ok [⟨none, none, none⟩,
    { metadata := none
      spec := some ⟨none, none, none, [bounded, ⟨none, none, none⟩], []⟩
      status := some ⟨none, none, none, none, some [⟨none, none⟩],
        some [⟨some "web", none, none, none, none⟩], []⟩ }]
  nodes := .ok [⟨none, none, none⟩,
    ⟨some ⟨some "alpha", none⟩, some ⟨none⟩, some ⟨none, [], [("memory", .int 5)], [], []⟩⟩]
  metrics
    | .pods => .ok (.object [("items", .list [.null,
        .object [("containers", .list [.object [("name", .text "web")]])]])])
    | .nodes => .ok (.object [])

theorem sparse_isReadable : sparse.IsReadable := by
  have declares : bounded.IsReadable := ⟨by decide, by decide⟩
  have silent : Container.IsReadable ⟨none, none, none⟩ := ⟨by decide, by decide⟩
  have entry : Fields.IsReadableEntry [("name", .text "web")] := ⟨.inr ⟨_, rfl⟩, .inl rfl⟩
  refine ⟨⟨_, rfl, ?_⟩, ⟨_, rfl, ?_⟩, fun kind => ?_⟩
  · simp [Pod.containerList, declares, silent]
  · simp only [List.forall_mem_cons, List.not_mem_nil, false_imp_iff, implies_true, and_true]
    exact ⟨⟨by decide, by decide⟩, ⟨by decide, by decide⟩⟩
  · -- The report on the pod has an entry with nothing but a name, and that on the node lacks its
    -- items.
    cases kind with
    | pods =>
      refine ⟨_, rfl, fun fields same => ?_, fun item member => ?_⟩
      · cases same
        exact .inr ⟨_, rfl⟩
      · obtain rfl : item = [("containers", .list [.object [("name", .text "web")]])] :=
          List.mem_singleton.mp member
        refine ⟨.inl rfl, ?_, .inl rfl, fun values same => ?_⟩
        · intro metadata same
          cases same
        cases same
        intro other inside
        rwa [List.mem_singleton.mp inside]
    | nodes =>
      refine ⟨_, rfl, fun fields same => ?_, fun item member => by cases member⟩
      cases same
      exact .inl rfl

end Sample

/-- The sparse sample is worked on without an error. -/
theorem missing_parts_stop_no_cycle_sample :
    Sample.calm.Steady ∧ (∀ n, Sample.calm.sink n = none) ∧ Sample.sparse.IsReadable ∧
      ∃ s, (({} : Collector).cycle Sample.calm ⟨true, 5⟩ Sample.sparse).1 = .ok s ∧
        s.error = none := by
  have steady : Sample.calm.Steady := fun n => ⟨_, rfl⟩
  have willing : ∀ n, Sample.calm.sink n = none := fun _ => rfl
  have readable := Sample.sparse_isReadable
  exact ⟨steady, willing, readable, missing_parts_stop_no_cycle Sample.calm ⟨true, 5⟩
    Sample.sparse {} steady willing rfl readable⟩

end ClusterCensus
