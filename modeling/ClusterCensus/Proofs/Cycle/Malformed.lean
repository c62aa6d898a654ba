import ClusterCensus.Proofs.Cycle.Readable
import ClusterCensus.Proofs.Gateway.Malformed

/-!
# Malformed reports in a cycle

A cycle trips over a malformed report in few places: where a response is read as items, where a
report is entered under its key, and where the usage that holds for a container or a node is looked
into. Everywhere else the malformed has no effect. So a cycle that returns does exactly what it
would do if all that is malformed had been left out, and it returns unless something malformed
stands in one of these places.

## Main result

`malformed_reports_contained`: when a cycle on malformed reports returns, and what it does then.
-/
namespace ClusterCensus

/-! ### Indexes -/

namespace UsageIndex

/-- Whatever could be indexed has a key. -/
theorem usable_of_foldlM {reports : List (UsageKey × Value)} {start index : UsageIndex}
    (indexed : reports.foldlM enter start = .ok index) :
    ∀ report ∈ reports, report.1.fault? = none := by
  induction reports generalizing start with
  | nil => exact fun report member => by cases member
  | cons report rest ih =>
    rw [List.foldlM_cons] at indexed
    unfold enter at indexed
    -- A report with a fault in its key would have ended the indexing.
    cases usable : report.1.fault? with
    | some fault =>
      rw [usable] at indexed
      cases indexed
    | none =>
      rw [usable] at indexed
      exact List.forall_mem_cons.mpr ⟨usable, ih indexed⟩

/-- Reports can be indexed exactly when all of them have a key. -/
theorem ofReports_ok_iff {reports : List (UsageKey × Value)} :
    (∃ index, ofReports reports = .ok index) ↔ ∀ report ∈ reports, report.1.fault? = none := by
  constructor
  · rintro ⟨index, indexed⟩
    exact usable_of_foldlM indexed
  · exact ofReports_ok

/-- A quantity is read from an object alone. -/
theorem quantity_isObject {usage : Value} {name s : String} (read : quantity usage name = .ok s) :
    usage.isObject = true := by
  cases usage with
  | object fields => rfl
  | _ => cases read

end UsageIndex

theorem Pairing.isObject_of_observable {now : Moment} {p : Pairing} (fine : p.IsObservable now) :
    p.usage.isObject = true := by
  obtain ⟨cpu, read, -⟩ := Trace.returns_bind_iff.mp fine
  exact UsageIndex.quantity_isObject read

theorem Node.isObject_of_observable {node : Node} {index : UsageIndex} {now : Moment}
    (fine : node.IsObservable index now) :
    ∀ name ∈ node.recordName?, ∀ usage ∈ index.node? name, usage.isObject = true := by
  intro name named usage known
  obtain ⟨cpu, read, -⟩ := Trace.returns_bind_iff.mp (fine name named usage known)
  exact UsageIndex.quantity_isObject read

/-! ### Scans with other indexes -/

section Congruence

variable {usage other : UsageIndex} {now : Moment}

/-- A visit looks up no usage but that of the containers of the pod. -/
theorem Census.visitPod_congr (census : Census) {pod : Pod}
    (same : ∀ declared ∈ pod.containerList,
      pod.pairing? usage.container? declared = pod.pairing? other.container? declared) :
    census.visitPod usage now pod pod.listing = census.visitPod other now pod pod.listing := by
  rw [visitPod, visitPod, Pod.listing_containers]
  refine Trace.thread_congr (fun declared listed state => ?_) _
  have paired := same declared listed
  rw [pairing?_eq usage now, pairing?_eq other now] at paired
  -- A pairing shows the status and the usage it was made of.
  have matched := Option.map_injective (fun found found' equal =>
    Prod.ext (Pairing.mk.inj equal).2.2.2.1 (Pairing.mk.inj equal).2.2.2.2) paired
  rw [visitContainer, visitContainer, matched]

/-- Pods are scanned alike when their containers are paired alike. -/
theorem Script.scanPods_congr {pods : List Pod}
    (same : ∀ pod ∈ pods, pod.isKept = true → ∀ declared ∈ pod.containerList,
      pod.pairing? usage.container? declared = pod.pairing? other.container? declared) :
    scanPods usage now pods = scanPods other now pods := by
  refine Trace.thread_congr (fun pod listed census => ?_) _
  rw [scanPod, scanPod, Pod.live?_eq]
  cases kept : pod.isKept with
  | false => rfl
  | true =>
    simp only [if_true]
    rw [census.visitPod_congr (same pod listed kept)]

/-- Nodes are scanned alike when their usage is found alike. -/
theorem Script.scanNodes_congr (census : Census) {nodes : List Node}
    (same : ∀ node ∈ nodes, ∀ name ∈ node.recordName?, usage.node? name = other.node? name) :
    scanNodes usage now census nodes = scanNodes other now census nodes := by
  refine Trace.thread_congr (fun node listed _ => ?_) _
  have visited : census.visitNode usage now node = census.visitNode other now node := by
    unfold Census.visitNode
    cases named : node.recordName? with
    | none => rfl
    | some name => simp only [same node listed name named]
  rw [scanNode, scanNode, visited]

end Congruence

/-- Where every usage that is found is an object, another lookup may as well find nothing else. -/
theorem Pod.pairing?_of_objects {reported other : UsageLookup} {pod : Pod}
    {declared : Container × Bool}
    (objects : ∀ p ∈ pod.pairing? reported declared, p.usage.isObject = true)
    (same : ∀ name, name ≠ "" →
      (∀ usage ∈ reported pod.space pod.nameText name, usage.isObject = true) →
        other pod.space pod.nameText name = reported pod.space pod.nameText name) :
    pod.pairing? other declared = pod.pairing? reported declared := by
  obtain ⟨⟨name, image, resources⟩, isInit⟩ := declared
  cases name with
  | none => rfl
  | some name =>
    simp only [pairing?, Option.bind_eq_bind, Option.bind_some] at objects ⊢
    -- Both look up the usage only when the container is complete and has a status.
    split
    · rfl
    next complete =>
      rw [if_neg complete] at objects
      cases last : (pod.statusList.filter (·.name == some name)).getLast? with
      | none => rfl
      | some status =>
        simp only [last, Option.bind_some] at objects ⊢
        rw [same name (by rintro rfl; simp at complete)]
        intro usage found
        rw [found] at objects
        exact objects _ rfl

/-! ### Given clusters -/

/-- The cluster gives all four answers; nothing is said of them but that quantities have few
digits. -/
structure Cluster.Gives (cluster : Cluster) (pods : List Pod) (nodes : List Node)
    (responses : MetricsKind → Value) : Prop where
  pods_eq : cluster.pods = .ok pods
  nodes_eq : cluster.nodes = .ok nodes
  responses_eq : ∀ kind, cluster.metrics kind = .ok (responses kind)
  containers : ∀ pod ∈ pods, ∀ declared ∈ pod.containerList, declared.1.IsReadable
  nodes : ∀ node ∈ nodes, node.IsReadable
  modest : ∀ kind, (responses kind).IsModestResponse

/-- The snapshot that is taken of given answers, when the responses can be read. -/
def snapshotOf (pods : List Pod) (nodes : List Node) (responses : MetricsKind → Value) : Snapshot :=
  ⟨pods, nodes, MetricsItem.reported (responses .pods), MetricsItem.reported (responses .nodes)⟩

/-- No malformed report stands where a cycle trips over it: the responses can be read as items, all
reports have a key, and the usage is an object where it holds for a container or a node that is to
have a record. -/
structure AreHarmless (pods : List Pod) (nodes : List Node) (responses : MetricsKind → Value) :
    Prop where
  read : ∀ kind, MetricsItem.responseFault? (responses kind) = none
  containerKeys : ∀ item ∈ MetricsItem.reported (responses .pods),
    ∀ report ∈ UsageIndex.containerReports item, report.1.fault? = none
  nodeKeys : ∀ item ∈ MetricsItem.reported (responses .nodes),
    (UsageIndex.nodeReport item).1.fault? = none
  containers :
    ∀ p ∈ pairings (MetricsItem.lastUsage? (MetricsItem.reported (responses .pods))) pods,
      p.usage.isObject = true
  nodes : ∀ node ∈ nodes, ∀ name ∈ node.recordName?,
    ∀ usage ∈ MetricsItem.lastNodeUsage? (MetricsItem.reported (responses .nodes)) name,
      usage.isObject = true

/-- Harmless responses can be indexed. -/
theorem AreHarmless.indexed {pods : List Pod} {nodes : List Node} {responses : MetricsKind → Value}
    (harmless : AreHarmless pods nodes responses) :
    ∃ usage nodeUsage,
      UsageIndex.ofPodMetrics (MetricsItem.reported (responses .pods)) = .ok usage ∧
        UsageIndex.ofNodeMetrics (MetricsItem.reported (responses .nodes)) = .ok nodeUsage := by
  -- An index can be made when each report has a key.
  obtain ⟨usage, podIndexed⟩ := UsageIndex.ofReports_ok_iff.mpr fun report member => by
    obtain ⟨item, inside, reports⟩ := List.mem_flatMap.mp member
    exact harmless.containerKeys item inside report reports
  obtain ⟨nodeUsage, nodeIndexed⟩ := UsageIndex.ofReports_ok_iff.mpr fun report member => by
    obtain ⟨item, inside, rfl⟩ := List.mem_map.mp member
    exact harmless.nodeKeys item inside
  exact ⟨usage, nodeUsage, podIndexed, nodeIndexed⟩

section Given

variable {cluster : Cluster} {pods : List Pod} {nodes : List Node}
  {responses : MetricsKind → Value} (given : cluster.Gives pods nodes responses)

include given

theorem Cluster.Gives.tidied :
    cluster.tidied.Gives pods nodes fun kind => (responses kind).tidied kind where
  pods_eq := given.pods_eq
  nodes_eq := given.nodes_eq
  responses_eq kind := congrArg (Except.map (Value.tidied kind)) (given.responses_eq kind)
  containers := given.containers
  nodes := given.nodes
  modest kind := (given.modest kind).tidied kind

/-- A snapshot can be taken exactly when both responses can be read. -/
theorem Cluster.Gives.snapshot_ok_iff {gateway : Gateway} (configured : gateway.configured = true)
    {snapshot : Snapshot} :
    (gateway.snapshot cluster).outcome = .ok snapshot ↔
      (∀ kind, MetricsItem.responseFault? (responses kind) = none) ∧
        snapshotOf pods nodes responses = snapshot := by
  have reads (kind : MetricsKind) (items : List MetricsItem) :
      Gateway.Reads cluster.metrics kind items ↔
        MetricsItem.responseFault? (responses kind) = none ∧
          MetricsItem.reported (responses kind) = items := by
    simp [Gateway.Reads, given.responses_eq, MetricsItem.ofResponse_ok_iff]
  -- There are two kinds of metrics.
  have both : (∀ kind, MetricsItem.responseFault? (responses kind) = none) ↔
      MetricsItem.responseFault? (responses .pods) = none ∧
        MetricsItem.responseFault? (responses .nodes) = none := by
    constructor
    · exact fun each => ⟨each .pods, each .nodes⟩
    · rintro ⟨ofPods, ofNodes⟩ (_ | _)
      · exact ofPods
      · exact ofNodes
  obtain ⟨snapshotPods, snapshotNodes, podItems, nodeItems⟩ := snapshot
  rw [Gateway.snapshot_ok_iff, both]
  simp only [configured, given.pods_eq, given.nodes_eq, reads, snapshotOf, Except.ok.injEq,
    Snapshot.mk.injEq]
  grind

/-- The work on given answers ends well exactly when they are harmless. -/
theorem Cluster.Gives.returns_iff (now : Moment)
    (read : ∀ kind, MetricsItem.responseFault? (responses kind) = none) :
    (Script.ofSnapshot now (snapshotOf pods nodes responses)).Returns ↔
      AreHarmless pods nodes responses := by
  simp only [Script.returns_ofSnapshot_iff, snapshotOf]
  constructor
  · rintro ⟨usage, nodeUsage, podIndexed, nodeIndexed, observed, nodesObserved⟩
    have usable := UsageIndex.ofReports_ok_iff.mp ⟨usage, podIndexed⟩
    have nodesUsable := UsageIndex.ofReports_ok_iff.mp ⟨nodeUsage, nodeIndexed⟩
    refine ⟨read, ?_, ?_, ?_, ?_⟩
    · exact fun item member report inside =>
        usable report (List.mem_flatMap.mpr ⟨item, member, inside⟩)
    · exact fun item member => nodesUsable _ (List.mem_map.mpr ⟨item, member, rfl⟩)
    · intro p member
      -- What is paired has been observed, and so its usage could be looked into.
      rw [← pairings_indexed podIndexed] at member
      exact Pairing.isObject_of_observable (observed p member)
    · intro node listed name named usage last
      rw [← UsageIndex.node?_eq nodeIndexed] at last
      exact Node.isObject_of_observable (nodesObserved node listed) name named usage last
  · intro harmless
    obtain ⟨usage, nodeUsage, podIndexed, nodeIndexed⟩ := harmless.indexed
    refine ⟨usage, nodeUsage, podIndexed, nodeIndexed, ?_, ?_⟩
    · intro p member
      rw [pairings_indexed podIndexed] at member
      have object := harmless.containers p member
      obtain ⟨pod, listed, declared, container, paired⟩ := mem_pairings member
      obtain ⟨name, -, -, -, -, status, usage, -, last, rfl⟩ := Pod.pairing?_eq_some_iff.mp paired
      exact Pairing.isObservable_of_readable (given.containers pod listed declared container)
        (MetricsItem.isUsage_of_lastUsage? (given.modest .pods) object last) now
    · intro node listed
      refine Node.isObservable_of_readable (given.nodes node listed) ?_ now
      intro name named usage known
      rw [UsageIndex.node?_eq nodeIndexed] at known
      exact MetricsItem.isUsage_of_lastNodeUsage? (given.modest .nodes)
        (harmless.nodes node listed name named usage known) known

end Given

/-! ### Tidied clusters -/

section Tidied

variable {pods : List Pod} {nodes : List Node} {responses : MetricsKind → Value}

/-- Nothing malformed is left in a tidied response. -/
theorem areHarmless_tidied (pods : List Pod) (nodes : List Node) (responses : MetricsKind → Value) :
    AreHarmless pods nodes fun kind => (responses kind).tidied kind where
  read kind := MetricsItem.responseFault?_tidied kind (responses kind)
  containerKeys := by
    intro item member
    obtain ⟨source, kept, tidy, rfl⟩ := MetricsItem.source_of_reported member
    exact MetricsItem.containerKeys_of_tidy? tidy
  nodeKeys := by
    intro item member
    obtain ⟨source, kept, tidy, rfl⟩ := MetricsItem.source_of_reported member
    exact MetricsItem.nodeKey_of_tidy? tidy
  containers := by
    intro p member
    -- A usage that holds is one of those kept, which are objects.
    obtain ⟨pod, -, declared, -, paired⟩ := mem_pairings member
    obtain ⟨name, -, named, -, -, status, usage, -, last, rfl⟩ := Pod.pairing?_eq_some_iff.mp paired
    exact MetricsItem.isObject_of_tidied
      (fun _ _ tidy => MetricsItem.usagesOf_of_tidy? tidy named pod.space pod.nameText) usage
      (List.mem_of_getLast? last)
  nodes := by
    intro node _ name _ usage last
    exact MetricsItem.isObject_of_tidied
      (fun _ _ tidy => MetricsItem.nodeUsagesOf_of_tidy? tidy name) usage
      (List.mem_of_getLast? last)

/-- On harmless responses and on tidied ones the work is the same. -/
theorem AreHarmless.ofSnapshot_tidied (harmless : AreHarmless pods nodes responses) (now : Moment) :
    Script.ofSnapshot now (snapshotOf pods nodes fun kind => (responses kind).tidied kind) =
      Script.ofSnapshot now (snapshotOf pods nodes responses) := by
  obtain ⟨usage, nodeUsage, podIndexed, nodeIndexed⟩ := harmless.indexed
  obtain ⟨other, nodeOther, otherIndexed, nodeOtherIndexed⟩ :=
    (areHarmless_tidied pods nodes responses).indexed
  -- The two indexes differ, but not in what a scan looks up.
  have scanned : Script.scanPods other now pods = Script.scanPods usage now pods := by
    refine Script.scanPods_congr fun pod listed kept declared container => ?_
    rw [pairing?_indexed otherIndexed, pairing?_indexed podIndexed]
    refine Pod.pairing?_of_objects (fun p paired => harmless.containers p ?_) fun name named last =>
      MetricsItem.lastUsage?_tidied (harmless.read .pods) named last
    exact List.mem_flatMap.mpr ⟨pod, List.mem_filter.mpr ⟨listed, kept⟩,
      List.mem_filterMap.mpr ⟨declared, container, paired⟩⟩
  have nodesScanned (census : Census) : Script.scanNodes nodeOther now census nodes =
      Script.scanNodes nodeUsage now census nodes := by
    refine Script.scanNodes_congr census fun node listed name named => ?_
    rw [UsageIndex.node?_eq nodeOtherIndexed, UsageIndex.node?_eq nodeIndexed]
    exact MetricsItem.lastNodeUsage?_tidied (harmless.read .nodes)
      (harmless.nodes node listed name named)
  simp only [Script.ofSnapshot, snapshotOf, podIndexed, nodeIndexed, otherIndexed,
    nodeOtherIndexed, Trace.ofExcept_ok_bind, scanned, nodesScanned]

end Tidied

/-! ### Cycles -/

section Cycles

variable {w : Surroundings} {gateway : Gateway} {cluster : Cluster} {pods : List Pod}
  {nodes : List Node} {responses : MetricsKind → Value} (steady : w.Steady)
  (configured : gateway.configured = true) (given : cluster.Gives pods nodes responses)
  (c : Collector)

include steady configured given

/-- If nothing malformed stands in its way, the cycle returns. -/
theorem Cluster.Gives.returned_of_harmless (willing : ∀ n, w.sink n = none)
    (harmless : AreHarmless pods nodes responses) :
    ∃ s, (c.cycle w gateway cluster).1 = .ok s ∧ s.error = none := by
  have fetched := (given.snapshot_ok_iff configured).mpr ⟨harmless.read, rfl⟩
  obtain ⟨now, reading⟩ := steady c.readings
  obtain ⟨finished, readAgain⟩ := steady (c.readings + 1)
  obtain ⟨⟨⟩, ended⟩ := (given.returns_iff now harmless.read).mpr harmless
  obtain ⟨p, passes⟩ := Collector.passes_of_open willing reading fetched ended readAgain
  exact ⟨_, congrArg Prod.fst passes.cycle_eq, passes.faultless⟩

omit steady in
/-- A cycle that returns has met nothing malformed in its way. -/
theorem Cluster.Gives.harmless_of_returned {s : CycleSummary}
    (returned : (c.cycle w gateway cluster).1 = .ok s) : AreHarmless pods nodes responses := by
  obtain ⟨now, finished, snapshot, p, passes⟩ := Collector.passes_of_returned returned
  obtain ⟨read, rfl⟩ := (given.snapshot_ok_iff configured).mp passes.fetched
  exact (given.returns_iff now read).mp ⟨(), passes.ended⟩

/-- A cycle on harmless responses does what it does on tidied ones. -/
theorem Cluster.Gives.cycle_tidied (harmless : AreHarmless pods nodes responses) :
    c.cycle w gateway cluster.tidied = c.cycle w gateway cluster := by
  obtain ⟨now, reading⟩ := steady c.readings
  have fetched := (given.snapshot_ok_iff configured).mpr ⟨harmless.read, rfl⟩
  have fetchedTidied := (given.tidied.snapshot_ok_iff configured).mpr
    ⟨(areHarmless_tidied pods nodes responses).read, rfl⟩
  -- Both cycles make the same requests, since both fetch all there is.
  have asked : (gateway.snapshot cluster.tidied).events = (gateway.snapshot cluster).events := by
    rw [Gateway.snapshot_events fetched, Gateway.snapshot_events fetchedTidied]
    rfl
  rw [Collector.cycle_of_snapshot reading fetched,
    Collector.cycle_of_snapshot reading fetchedTidied, asked, harmless.ofSnapshot_tidied]

end Cycles

/-! ## Main result -/

/-- A cycle on tidied responses returns without an error, whatever stood in the responses. A cycle
on the responses as they are returns exactly when nothing malformed stands where it trips over it;
and if it returns, it does exactly the same as on the tidied ones, line by line. -/
theorem malformed_reports_contained (w : Surroundings) (gateway : Gateway) (cluster : Cluster)
    (c : Collector) (steady : w.Steady) (willing : ∀ n, w.sink n = none)
    (configured : gateway.configured = true) (pods : List Pod) (nodes : List Node)
    (responses : MetricsKind → Value) (given : cluster.Gives pods nodes responses) :
    (∃ s, (c.cycle w gateway cluster.tidied).1 = .ok s ∧ s.error = none) ∧
      ((∃ s, (c.cycle w gateway cluster).1 = .ok s) ↔ AreHarmless pods nodes responses) ∧
      ∀ s, (c.cycle w gateway cluster).1 = .ok s →
        c.cycle w gateway cluster = c.cycle w gateway cluster.tidied := by
  refine ⟨?_, ⟨?_, ?_⟩, ?_⟩
  · exact given.tidied.returned_of_harmless steady configured c willing
      (areHarmless_tidied pods nodes responses)
  · rintro ⟨s, returned⟩
    exact given.harmless_of_returned configured c returned
  · intro harmless
    obtain ⟨s, returned, -⟩ := given.returned_of_harmless steady configured c willing harmless
    exact ⟨s, returned⟩
  · intro s returned
    -- A cycle that returns was harmless, and then tidying changes nothing.
    have harmless := given.harmless_of_returned configured c returned
    exact (given.cycle_tidied steady configured c harmless).symm

/-! ### Samples -/

namespace Sample

/-- Responses in which well-formed reports stand among malformed ones: what is no object, a name
that is no text, entries without a name, and usages that are no objects. -/
def litter : MetricsKind → Value
  | .pods => .object [("items", .list [.int 7,
      .object [("metadata", .object [("name", .int 5)]), ("containers", .list [entry "web" 9])],
      .object [("metadata", .object [("name", .text "shop"), ("namespace", .text "default")]),
        ("containers", .list [.text "web", .object [("usage", .int 8)],
          .object [("name", .text "log"), ("usage", .text "much")], entry "web" 1])]])]
  | .nodes => .object [("items", .list
      [.object [("metadata", .object [("name", .text "alpha")]),
        ("usage", .object [("cpu", .int 1)])],
      .object [("metadata", .object [("name", .text "beta")]), ("usage", .int 3)]])]

def reporting (responses : MetricsKind → Value) : Cluster where
  pods := .ok [pod]
  nodes := .ok [node]
  metrics := fun kind => .ok (responses kind)

theorem isModestUsage_int (n : Int) : (Value.object [("cpu", .int n)]).IsModestUsage := by
  rintro _ ⟨⟩ name member s held
  rcases List.mem_cons.mp member with rfl | other
  · cases held
  · obtain rfl := List.mem_singleton.mp other
    cases held

theorem isModestUsage_of_kind {usage : Value} (other : usage.kind ≠ .object) :
    usage.IsModestUsage := by
  rintro fields rfl
  exact absurd rfl other

theorem gives_litter : (reporting litter).Gives [pod] [node] litter where
  pods_eq := rfl
  nodes_eq := rfl
  responses_eq _ := rfl
  containers := by
    have nothing : Value.IsModest .null := by decide
    have each (name : String) (image : Option String) : (container name image).IsReadable :=
      ⟨fun _ _ => nothing, fun _ _ => nothing⟩
    rw [List.forall_mem_singleton]
    exact List.forall_mem_cons.mpr ⟨each _ _, List.forall_mem_cons.mpr
      ⟨each _ _, List.forall_mem_singleton.mpr (each _ _)⟩⟩
  nodes := by
    rw [List.forall_mem_singleton]
    exact ⟨by decide, by decide⟩
  modest kind := by
    have silent : Value.IsModestUsage .null := isModestUsage_of_kind (by decide)
    cases kind with
    | pods =>
      -- The objects among the items are the nameless one and that of the pod.
      refine ⟨List.forall_mem_cons.mpr ⟨silent, List.forall_mem_singleton.mpr silent⟩,
        List.forall_mem_cons.mpr ⟨?_, List.forall_mem_singleton.mpr ?_⟩⟩
      · exact List.forall_mem_singleton.mpr (isModestUsage_int 9)
      · exact List.forall_mem_cons.mpr ⟨isModestUsage_of_kind (by decide),
          List.forall_mem_cons.mpr ⟨isModestUsage_of_kind (by decide),
            List.forall_mem_singleton.mpr (isModestUsage_int 1)⟩⟩
    | nodes =>
      refine ⟨List.forall_mem_cons.mpr ⟨isModestUsage_int 1, List.forall_mem_singleton.mpr ?_⟩,
        List.forall_mem_cons.mpr ⟨?_, List.forall_mem_singleton.mpr ?_⟩⟩
      · exact isModestUsage_of_kind (by decide)
      · exact fun entry member => by cases member
      · exact fun entry member => by cases member

end Sample

/-- The malformed reports of the sample are harmless: the container and the node with well-formed
reports have their lines. -/
theorem malformed_reports_contained_sample :
    Sample.calm.Steady ∧ (∀ n, Sample.calm.sink n = none) ∧
      (Sample.reporting Sample.litter).Gives [Sample.pod] [Sample.node] Sample.litter ∧
      AreHarmless [Sample.pod] [Sample.node] Sample.litter ∧
      ∃ s,
        (({} : Collector).cycle Sample.calm ⟨true, 5⟩ (Sample.reporting Sample.litter)).1 = .ok s ∧
        s.podRecords = 1 ∧ s.nodeRecords = 1 ∧
        ({} : Collector).cycle Sample.calm ⟨true, 5⟩ (Sample.reporting Sample.litter) =
          ({} : Collector).cycle Sample.calm ⟨true, 5⟩ (Sample.reporting Sample.litter).tidied := by
  have steady : Sample.calm.Steady := fun n => ⟨_, rfl⟩
  have willing : ∀ n, Sample.calm.sink n = none := fun _ => rfl
  have given := Sample.gives_litter
  obtain ⟨-, returns, same⟩ := malformed_reports_contained Sample.calm ⟨true, 5⟩ _ {} steady willing
    rfl _ _ _ given
  obtain ⟨s, returned, counted⟩ : ∃ s, (({} : Collector).cycle Sample.calm ⟨true, 5⟩
      (Sample.reporting Sample.litter)).1 = .ok s ∧ s.podRecords = 1 ∧ s.nodeRecords = 1 :=
    ⟨_, rfl, by decide +kernel⟩
  exact ⟨steady, willing, given, returns.mp ⟨s, returned⟩, s, returned, counted.1, counted.2,
    same s returned⟩

/-- Metadata that are a text stop a cycle when it fetches, and a usage that is a text stops it when
a record is made of it. -/
theorem malformed_reports_not_contained :
    (({} : Collector).cycle Sample.calm ⟨true, 5⟩ (Sample.reporting fun
      | .pods => .object [("items", .list [.object [("metadata", .text "x")]])]
      | .nodes => .object [])).1 = .error (.fetchFailed (.noFields .text)) ∧
    (({} : Collector).cycle Sample.calm ⟨true, 5⟩ (Sample.reporting fun
      | .pods => .object [("items", .list [.object
          [("metadata", .object [("name", .text "shop"), ("namespace", .text "default")]),
            ("containers", .list [.object [("name", .text "web"), ("usage", .text "much")]])]])]
      | .nodes => .object [])).1 = .error (.workFailed (.noFields .text)) :=
  ⟨rfl, rfl⟩

end ClusterCensus
