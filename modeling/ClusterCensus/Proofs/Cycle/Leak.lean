import ClusterCensus.Proofs.Census.Declarations
import ClusterCensus.Proofs.Cycle.Order

/-!
# Usage does not leak

Two cycles may see the same pods, the same nodes and the same usage of the nodes, but any two
reports on the usage of containers. What is reported of a container shows on its own line. Beyond
that it shows only in the container counters of its node, and there only as far as the container is
reported at all.

## Main result

`usage_does_not_leak`: what two such cycles have in common when both return.
-/
namespace ClusterCensus

variable {reported others : UsageLookup} {now : Moment} {pods : List Pod}

/-! ### The record of a container -/

namespace Declaration

/-- The record of a container, if it has one, with the tally of its controller among the pods. -/
def record? (reported : UsageLookup) (now : Moment) (pods : List Pod) (x : Declaration) :
    Option ContainerRecord :=
  (x.pairing? reported).bind fun p => (p.record now).toOption.map fun record =>
    { record with controller := ControllerTally.ofPods pods record.pod.controllerKey }

/-- The line of a container, if it has a record that can be written. -/
def line? (reported : UsageLookup) (now : Moment) (pods : List Pod) (x : Declaration) :
    Option String :=
  (x.record? reported now pods).bind fun record => record.fields.line?

variable {x : Declaration}

/-- The line of a container is that of its pairing. -/
theorem line?_eq (reported : UsageLookup) (now : Moment) (pods : List Pod) (x : Declaration) :
    x.line? reported now pods = (x.pairing? reported).bind (Pairing.line? now pods) := by
  rw [line?, record?]
  cases x.pairing? reported with
  | none => rfl
  | some p =>
    rw [Option.bind_some, Option.bind_some, Pairing.line?]
    cases p.record now <;> rfl

/-- The line of a container depends on no usage but its own. -/
theorem line?_congr (same : x.usage? reported = x.usage? others) :
    x.line? reported now pods = x.line? others now pods := by
  rw [line?_eq, line?_eq, pairing?_congr same]

/-- A record takes the tally of its own controller. -/
theorem controller_of_record {r : ContainerRecord} (recorded : r ∈ x.record? reported now pods) :
    r.controller = ControllerTally.ofPods pods x.pod.controllerKey := by
  obtain ⟨p, paired, recorded⟩ := Option.bind_eq_some_iff.mp recorded
  obtain ⟨unsettled, built, rfl⟩ := Option.map_eq_some_iff.mp recorded
  -- What was built has no tally yet.
  obtain ⟨facts, -, rfl⟩ : ∃ facts, _ ∧ unsettled = ⟨PodFacts.observe p.pod now, facts, {}⟩ := by
    apply Pairing.record_ok
    cases ended : p.record now with
    | error fault => simp [ended, Except.toOption] at built
    | ok value =>
      rw [ended] at built
      exact congrArg Except.ok (Option.some.inj built)
  rw [Pod.observe_controllerKey, pod_of_pairing paired]

end Declaration

/-! ### The record of a node -/

namespace Census

def nodeRecord? (usage : UsageIndex) (now : Moment) (census : Census) (node : Node) :
    Option NodeRecord :=
  match (census.visitNode usage now node).outcome with
  | .ok attempt => attempt
  | .error _ => none

def nodeLine? (usage : UsageIndex) (now : Moment) (census : Census) (node : Node) :
    Option String :=
  (census.nodeRecord? usage now node).bind fun record => record.fields.line?

theorem nodeRecord?_eq {usage : UsageIndex} {census : Census} {node : Node}
    {attempt : Option NodeRecord}
    (visited : (census.visitNode usage now node).outcome = .ok attempt) :
    census.nodeRecord? usage now node = attempt := by
  rw [nodeRecord?, visited]

end Census

/-- The records that are handed over for the nodes are those of the nodes that are given one. -/
theorem Script.handed_scanNodes {usage : UsageIndex} {census : Census} {nodes : List Node}
    (scanned : (scanNodes usage now census nodes).outcome = .ok ()) :
    (scanNodes usage now census nodes).handed .node =
      (nodes.filterMap (census.nodeRecord? usage now)).map NodeRecord.fields := by
  obtain ⟨attempts, visits, handed⟩ := scanNodes_ok scanned
  rw [handed]
  congr 1
  clear handed scanned
  -- The attempts are those of the nodes, one for one.
  induction visits with
  | nil => rfl
  | @cons node attempt nodes attempts visited _ ih =>
    rw [List.filterMap_cons, List.filterMap_cons, Census.nodeRecord?_eq visited, ih]
    rfl

/-! ### A cycle that returns -/

/-- The account of a cycle: when it began, what it was given, and what it has written. Its lines are
those of the declared containers, in the order of the pods, and after them those of the nodes. -/
structure Collector.Account (c : Collector) (w : Surroundings) (cluster : Cluster) (now : Moment)
    (pods : List Pod) (nodes : List Node) (nodeUsage usage : UsageIndex) (census : Census)
    (next : Collector) : Prop where
  reading : w.clock c.readings = .ok now
  pods_eq : cluster.pods = .ok pods
  nodes_eq : cluster.nodes = .ok nodes
  nodeUsage_eq : ∃ items, Gateway.Reads cluster.metrics .nodes items ∧
    UsageIndex.ofNodeMetrics items = .ok nodeUsage
  usage_eq : ∃ items, Gateway.Reads cluster.metrics .pods items ∧
    UsageIndex.ofPodMetrics items = .ok usage
  scanned : (Script.scanPods usage now pods).outcome = .ok census
  visited : ∀ node ∈ nodes, (census.visitNode nodeUsage now node).Returns
  lines : next.lines = c.lines ++
    ((declarations pods).filterMap (Declaration.line? usage.container? now pods) ++
      nodes.filterMap (census.nodeLine? nodeUsage now))

section Account

variable {usage nodeUsage otherUsage : UsageIndex} {census otherCensus : Census}

/-- The lines of the pods are those of the declared containers, in order. -/
theorem podLines_of_gathered {seen : List (Sighting now)}
    (gathered : Script.Gathered reported pods seen census) :
    (census.settled.map ContainerRecord.fields).filterMap Fields.line? =
      (declarations pods).filterMap (Declaration.line? reported now pods) := by
  have lines : (census.settled.map ContainerRecord.fields).filterMap Fields.line? =
      (seen.map (·.pairing)).filterMap (Pairing.line? now pods) := by
    rw [gathered.settled_eq, List.map_map, List.filterMap_map, List.filterMap_map]
    exact List.filterMap_congr fun s _ => s.line?_settled
  rw [lines, gathered.paired, pairings_eq_filterMap, List.filterMap_filterMap]
  exact List.filterMap_congr fun x _ => (x.line?_eq reported now pods).symm

/-- A cycle that returns can give its account. -/
theorem account_of_returned {w : Surroundings} {gateway : Gateway} {cluster : Cluster}
    {c : Collector} {s : CycleSummary} (returned : (c.cycle w gateway cluster).1 = .ok s) :
    ∃ now pods nodes nodeUsage usage census,
      c.Account w cluster now pods nodes nodeUsage usage census
        (c.cycle w gateway cluster).2 := by
  obtain ⟨now, finished, snapshot, p, passes⟩ := Collector.passes_of_returned returned
  obtain ⟨-, pods_eq, nodes_eq, podMetrics, nodeMetrics⟩ :=
    Gateway.snapshot_ok_iff.mp passes.fetched
  rcases Script.ofSnapshot_cases now snapshot with
    ⟨fault, failed, -⟩ |
      ⟨usage, nodeUsage, census, podIndexed, nodeIndexed, scanned, ended, podsHanded, nodesHanded⟩
  · rw [passes.ended] at failed
    cases failed
  · obtain ⟨seen, gathered⟩ := Script.scanPods_gathers scanned
    have nodesScanned := ended ▸ passes.ended
    refine ⟨now, snapshot.pods, snapshot.nodes, nodeUsage, usage, census, passes.reading, pods_eq,
      nodes_eq, ⟨_, nodeMetrics, nodeIndexed⟩, ⟨_, podMetrics, podIndexed⟩, scanned, ?_, ?_⟩
    · -- Every node could be visited, for the script has come to its end.
      intro node listed
      apply (Census.returns_visitNode_iff nodeUsage now census node).mpr
      exact (Script.returns_scanNodes_iff nodeUsage now census _).mp ⟨(), nodesScanned⟩ node listed
    · rw [Collector.lines, passes.lines_eq, Script.lines_ofSnapshot, List.filterMap_append,
        podsHanded, podLines_of_gathered gathered, nodesHanded,
        Script.handed_scanNodes nodesScanned, List.filterMap_map, List.filterMap_filterMap]
      rfl

/-- Two censuses of the same pods both give a node a record, with the same tally of pods, or neither
does. -/
theorem nodePods_congr (scanned : (Script.scanPods usage now pods).outcome = .ok census)
    (rescanned : (Script.scanPods otherUsage now pods).outcome = .ok otherCensus) {node : Node}
    (visited : (census.visitNode nodeUsage now node).Returns)
    (revisited : (otherCensus.visitNode nodeUsage now node).Returns) :
    (census.nodeRecord? nodeUsage now node).map NodeRecord.pods =
      (otherCensus.nodeRecord? nodeUsage now node).map NodeRecord.pods := by
  obtain ⟨seen, gathered⟩ := Script.scanPods_gathers scanned
  obtain ⟨otherSeen, again⟩ := Script.scanPods_gathers rescanned
  obtain ⟨attempt, visited⟩ := visited
  obtain ⟨other, revisited⟩ := revisited
  obtain ⟨given, tallied⟩ := Census.visitNode_ok visited
  obtain ⟨alsoGiven, alsoTallied⟩ := Census.visitNode_ok revisited
  rw [Census.nodeRecord?_eq visited, Census.nodeRecord?_eq revisited]
  -- Neither the name of a node nor its usage is a matter of the census.
  have both : attempt.isSome ↔ other.isSome := given.trans alsoGiven.symm
  cases attempt with
  | none =>
    cases other with
    | none => rfl
    | some q => simp at both
  | some r =>
    cases other with
    | none => simp at both
    | some q =>
      have one := gathered.accounts (tallied r rfl)
      have two := again.accounts (alsoTallied q rfl)
      have sameName : r.node = q.node := Option.some.inj (one.name.symm.trans two.name)
      rw [Option.map_some, Option.map_some, one.pods_eq, two.pods_eq, sameName]

/-- Two censuses of the same pods give a node the same record when the same of its containers are
reported to both. -/
theorem nodeRecord_congr (scanned : (Script.scanPods usage now pods).outcome = .ok census)
    (rescanned : (Script.scanPods otherUsage now pods).outcome = .ok otherCensus) {node : Node}
    (same : ∀ x ∈ declarations pods, x.pod.nodeName? = node.name? →
      (x.usage? usage.container?).isSome = (x.usage? otherUsage.container?).isSome) :
    census.nodeRecord? nodeUsage now node = otherCensus.nodeRecord? nodeUsage now node := by
  obtain ⟨seen, gathered⟩ := Script.scanPods_gathers scanned
  obtain ⟨otherSeen, again⟩ := Script.scanPods_gathers rescanned
  have visits : census.visitNode nodeUsage now node = otherCensus.visitNode nodeUsage now node := by
    apply Census.visitNode_congr
    · intro name own
      obtain ⟨-, -, -, named⟩ := Node.recordName?_eq_some_iff.mp own
      rw [gathered.podTally named, again.podTally named]
    · intro name own
      obtain ⟨-, -, listed, named⟩ := Node.recordName?_eq_some_iff.mp own
      apply gathered.containerTally_congr again
      intro x declared here
      -- A pod that has the name of a node in its facts is declared for the node.
      have placed := (x.pod.observe_node_eq_iff now named).mp here
      exact same x declared (placed.trans listed.symm)
  rw [Census.nodeRecord?, Census.nodeRecord?, visits]

end Account

/-! ## Main result -/

/-- When two cycles return that were begun at the same time and were given the same pods, nodes and
node metrics, each writes the lines of the same containers and of the same nodes, in the same order.
A container whose usage is the same in both has the same line in both. Whatever is reported of
containers, pods of one controller have the same counters in both, and a node counts the same pods;
if the same of its containers are reported, it has the same line. -/
theorem usage_does_not_leak (w v : Surroundings) (gateway otherGateway : Gateway)
    (cluster other : Cluster) (c d : Collector) (s t : CycleSummary)
    (sameTime : w.clock c.readings = v.clock d.readings) (samePods : cluster.pods = other.pods)
    (sameNodes : cluster.nodes = other.nodes)
    (sameNodeMetrics : cluster.metrics .nodes = other.metrics .nodes)
    (returned : (c.cycle w gateway cluster).1 = .ok s)
    (alsoReturned : (d.cycle v otherGateway other).1 = .ok t) :
    ∃ now pods nodes nodeUsage usage census otherUsage otherCensus,
      c.Account w cluster now pods nodes nodeUsage usage census (c.cycle w gateway cluster).2 ∧
      d.Account v other now pods nodes nodeUsage otherUsage otherCensus
        (d.cycle v otherGateway other).2 ∧
      (∀ x ∈ declarations pods, x.usage? usage.container? = x.usage? otherUsage.container? →
        x.line? usage.container? now pods = x.line? otherUsage.container? now pods) ∧
      (∀ x ∈ declarations pods, ∀ y ∈ declarations pods,
        x.pod.controllerKey = y.pod.controllerKey →
        ∀ r ∈ x.record? usage.container? now pods, ∀ q ∈ y.record? otherUsage.container? now pods,
          r.controller = q.controller) ∧
      ∀ node ∈ nodes,
        (census.nodeRecord? nodeUsage now node).map NodeRecord.pods =
          (otherCensus.nodeRecord? nodeUsage now node).map NodeRecord.pods ∧
        ((∀ x ∈ declarations pods, x.pod.nodeName? = node.name? →
            (x.usage? usage.container?).isSome = (x.usage? otherUsage.container?).isSome) →
          census.nodeLine? nodeUsage now node = otherCensus.nodeLine? nodeUsage now node) := by
  obtain ⟨now, pods, nodes, nodeUsage, usage, census, account⟩ := account_of_returned returned
  obtain ⟨otherNow, otherPods, otherNodes, otherNodeUsage, otherUsage, otherCensus, again⟩ :=
    account_of_returned alsoReturned
  -- What both were given is the same.
  obtain rfl : now = otherNow :=
    Except.ok.inj (account.reading.symm.trans (sameTime.trans again.reading))
  obtain rfl : pods = otherPods :=
    Except.ok.inj (account.pods_eq.symm.trans (samePods.trans again.pods_eq))
  obtain rfl : nodes = otherNodes :=
    Except.ok.inj (account.nodes_eq.symm.trans (sameNodes.trans again.nodes_eq))
  obtain rfl : nodeUsage = otherNodeUsage := by
    obtain ⟨items, ⟨response, given, read⟩, indexed⟩ := account.nodeUsage_eq
    obtain ⟨others, ⟨otherResponse, otherGiven, otherRead⟩, otherIndexed⟩ := again.nodeUsage_eq
    obtain rfl := Except.ok.inj (given.symm.trans (sameNodeMetrics.trans otherGiven))
    obtain rfl := Except.ok.inj (read.symm.trans otherRead)
    exact Except.ok.inj (indexed.symm.trans otherIndexed)
  refine ⟨now, pods, nodes, nodeUsage, usage, census, otherUsage, otherCensus, account, again,
    fun x _ same => Declaration.line?_congr same, ?_, ?_⟩
  · intro x _ y _ sameController r recorded q alsoRecorded
    rw [Declaration.controller_of_record recorded, Declaration.controller_of_record alsoRecorded,
      sameController]
  · intro node listed
    constructor
    · exact nodePods_congr account.scanned again.scanned (account.visited node listed)
        (again.visited node listed)
    · intro same
      rw [Census.nodeLine?, Census.nodeLine?, nodeRecord_congr account.scanned again.scanned same]

/-! ### A sample -/

namespace Sample

def cpuReport (name cpu : String) : Value :=
  .object [("metadata", .object [("name", .text name), ("namespace", .text "default")]),
    ("containers", .list
      [.object [("name", .text "web"), ("usage", .object [("cpu", .text cpu)])]])]

/-- The cluster of the two pods, when the container of the second uses some processor time. -/
def busyShop (cpu : String) : Cluster where
  pods := .ok [pod, peer]
  nodes := .ok [node]
  metrics
    | .pods => .ok (.object [("items", .list [cpuReport "shop" "3m", cpuReport "peer" cpu])])
    | .nodes => shop.metrics .nodes

/-- The container of a pod that is reported. -/
def web (pod : Pod) : Declaration :=
  ⟨pod, container "web" (some "web:v1"), false⟩

end Sample

open Collector in
/-- The second pod uses more processor time in one cycle than in the other. This shows neither on
the line of the first pod nor on that of their node. -/
theorem usage_does_not_leak_sample :
    ∃ s t, (({} : Collector).cycle Sample.calm ⟨true, 5⟩ (Sample.busyShop "1m")).1 = .ok s ∧
      (({} : Collector).cycle Sample.calm ⟨true, 5⟩ (Sample.busyShop "2m")).1 = .ok t ∧
      ∃ now pods nodes nodeUsage usage census otherUsage otherCensus,
        ({} : Collector).Account Sample.calm (Sample.busyShop "1m") now pods nodes nodeUsage usage
          census (({} : Collector).cycle Sample.calm ⟨true, 5⟩ (Sample.busyShop "1m")).2 ∧
        ({} : Collector).Account Sample.calm (Sample.busyShop "2m") now pods nodes nodeUsage
          otherUsage otherCensus
          (({} : Collector).cycle Sample.calm ⟨true, 5⟩ (Sample.busyShop "2m")).2 ∧
        ((Sample.web Sample.peer).usage? usage.container?).map (Value.textAt "cpu") = some "1m" ∧
        ((Sample.web Sample.peer).usage? otherUsage.container?).map (Value.textAt "cpu") =
          some "2m" ∧
        (Sample.web Sample.pod).line? usage.container? now pods =
          (Sample.web Sample.pod).line? otherUsage.container? now pods ∧
        census.nodeLine? nodeUsage now Sample.node =
          otherCensus.nodeLine? nodeUsage now Sample.node := by
  obtain ⟨p, passes⟩ : ∃ p, Passes Sample.calm ⟨true, 5⟩ (Sample.busyShop "1m") {} ⟨0, none⟩
      ⟨1, none⟩ _ p :=
    passes_of_open (fun _ => rfl) rfl rfl (by decide +kernel) rfl
  obtain ⟨q, again⟩ : ∃ q, Passes Sample.calm ⟨true, 5⟩ (Sample.busyShop "2m") {} ⟨0, none⟩
      ⟨1, none⟩ _ q :=
    passes_of_open (fun _ => rfl) rfl rfl (by decide +kernel) rfl
  have returned := congrArg Prod.fst passes.cycle_eq
  have alsoReturned := congrArg Prod.fst again.cycle_eq
  refine ⟨_, _, returned, alsoReturned, ?_⟩
  obtain ⟨now, pods, nodes, nodeUsage, usage, census, otherUsage, otherCensus, account, recount,
    containers, -, each⟩ := usage_does_not_leak Sample.calm Sample.calm ⟨true, 5⟩ ⟨true, 5⟩
      (Sample.busyShop "1m") (Sample.busyShop "2m") {} {} _ _ rfl rfl rfl rfl returned alsoReturned
  refine ⟨now, pods, nodes, nodeUsage, usage, census, otherUsage, otherCensus, account, recount, ?_⟩
  -- All that both were given can be read off the clusters.
  obtain rfl := Except.ok.inj account.reading
  obtain rfl := Except.ok.inj account.pods_eq
  obtain rfl := Except.ok.inj account.nodes_eq
  obtain ⟨items, ⟨response, given, read⟩, indexed⟩ := account.usage_eq
  obtain rfl := Except.ok.inj given
  obtain rfl := Except.ok.inj read
  obtain rfl := Except.ok.inj indexed
  obtain ⟨others, ⟨otherResponse, otherGiven, otherRead⟩, otherIndexed⟩ := recount.usage_eq
  obtain rfl := Except.ok.inj otherGiven
  obtain rfl := Except.ok.inj otherRead
  obtain rfl := Except.ok.inj otherIndexed
  obtain ⟨-, sameLine⟩ := each Sample.node (.head _)
  refine ⟨rfl, rfl, containers _ (.head _) rfl, sameLine ?_⟩
  decide +kernel

end ClusterCensus
