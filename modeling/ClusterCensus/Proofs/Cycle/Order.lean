import ClusterCensus.Proofs.Census.Order
import ClusterCensus.Proofs.Cycle.Books
import ClusterCensus.Proofs.Gateway.Fetches

/-!
# The order of the pods does not matter

A cluster may list its pods in any order. Each pod has a block of lines, which depends on the pod
and on which pods there are; a cycle writes the blocks in the order of the list, and after them the
same lines for the nodes. All that it counts is the same.

## Main result

`pod_order_is_free`: two cycles that differ in nothing but the order of the pods.
-/
namespace ClusterCensus

variable {pods others : List Pod}

/-! ### The block of a pod -/

/-- The line of a pairing: that of its record with the tally of its controller among the pods. -/
def Pairing.line? (now : Moment) (pods : List Pod) (p : Pairing) : Option String :=
  (p.record now).toOption.bind fun record => Fields.line? (ContainerRecord.fields
    { record with controller := ControllerTally.ofPods pods record.pod.controllerKey })

/-- The lines of a pod, in the order of its containers. -/
def Pod.block (reported : UsageLookup) (now : Moment) (pods : List Pod) (pod : Pod) : List String :=
  if pod.isKept then (pod.pairings reported).filterMap (Pairing.line? now pods) else []

/-- The block of a pod does not depend on the order of the pods. -/
theorem Pod.block_perm (same : pods.Perm others) (reported : UsageLookup) (now : Moment) :
    Pod.block reported now pods = Pod.block reported now others := by
  have line (p : Pairing) : p.line? now pods = p.line? now others := by
    simp only [Pairing.line?, ControllerTally.ofPods_perm same]
  funext pod
  unfold block
  rw [funext line]

theorem Sighting.line?_settled {now : Moment} (s : Sighting now) :
    (s.settled pods).fields.line? = s.pairing.line? now pods := by
  rw [Pairing.line?, s.built]
  rfl

theorem lines_of_pairings (reported : UsageLookup) (now : Moment) (all : List Pod) :
    (pairings reported pods).filterMap (Pairing.line? now all) =
      pods.flatMap (Pod.block reported now all) := by
  induction pods with
  | nil => rfl
  | cons pod rest ih =>
    rw [List.flatMap_cons, ← ih, pairings, List.filter_cons, Pod.block]
    -- A pod that is not kept has neither pairings nor a block.
    cases pod.isKept with
    | false => rfl
    | true => simp only [if_true, List.flatMap_cons, List.filterMap_append, pairings]

/-! ### Scripts -/

namespace Script

variable {now : Moment} {snapshot : Snapshot}

/-- A script that ends well hands over the settled sightings of a complete census. -/
theorem gathered_of_ok (ended : (ofSnapshot now snapshot).outcome = .ok ()) :
    ∃ usage nodeUsage census, ∃ seen : List (Sighting now),
      UsageIndex.ofPodMetrics snapshot.podMetrics = .ok usage ∧
      UsageIndex.ofNodeMetrics snapshot.nodeMetrics = .ok nodeUsage ∧
      Gathered usage.container? snapshot.pods seen census ∧
      (ofSnapshot now snapshot).handed .pod = seen.map (fun s => (s.settled snapshot.pods).fields) ∧
      (ofSnapshot now snapshot).handed .node =
        (scanNodes nodeUsage now census snapshot.nodes).handed .node := by
  rcases ofSnapshot_cases now snapshot with
    ⟨fault, failed, -⟩ |
      ⟨usage, nodeUsage, census, podIndexed, nodeIndexed, scanned, -, podsHanded, nodesHanded⟩
  · rw [ended] at failed
    cases failed
  · obtain ⟨seen, gathered⟩ := scanPods_gathers scanned
    refine ⟨usage, nodeUsage, census, seen, podIndexed, nodeIndexed, gathered, ?_, nodesHanded⟩
    -- The records handed over are settled with the tallies of all pods.
    rw [podsHanded, gathered.settled_eq, List.map_map]
    rfl

/-- The lines of all pods are their blocks, one after another. -/
theorem podLines_eq (ended : (ofSnapshot now snapshot).outcome = .ok ()) :
    ((ofSnapshot now snapshot).handed .pod).filterMap Fields.line? =
      snapshot.pods.flatMap
        (Pod.block (MetricsItem.lastUsage? snapshot.podMetrics) now snapshot.pods) := by
  obtain ⟨usage, nodeUsage, census, seen, podIndexed, -, gathered, podsHanded, -⟩ :=
    gathered_of_ok ended
  have paired := gathered.paired.trans (pairings_indexed podIndexed snapshot.pods)
  rw [podsHanded, List.filterMap_map, ← lines_of_pairings, ← paired, List.filterMap_map]
  exact List.filterMap_congr fun s _ => s.line?_settled

/-- A script that ends well does so with the pods in another order. -/
theorem ended_of_perm (same : snapshot.pods.Perm others)
    (ended : (ofSnapshot now snapshot).outcome = .ok ()) :
    (ofSnapshot now { snapshot with pods := others }).outcome = .ok () := by
  obtain ⟨usage, nodeUsage, podIndexed, nodeIndexed, observed, nodesObserved⟩ :=
    (returns_ofSnapshot_iff now snapshot).mp ⟨(), ended⟩
  -- All pairings can be observed, and those of the other list are the same ones.
  have again : (ofSnapshot now { snapshot with pods := others }).Returns := by
    refine (returns_ofSnapshot_iff now _).mpr
      ⟨usage, nodeUsage, podIndexed, nodeIndexed, fun p member => ?_, nodesObserved⟩
    exact observed p ((pairings_perm same usage.container?).mem_iff.mpr member)
  obtain ⟨⟨⟩, outcome⟩ := again
  exact outcome

/-- With the pods in another order the same records are handed over: those of the pods in another
order, those of the nodes in the same. -/
theorem handed_of_perm (same : snapshot.pods.Perm others)
    (ended : (ofSnapshot now snapshot).outcome = .ok ()) :
    ((ofSnapshot now snapshot).handed .pod).Perm
        ((ofSnapshot now { snapshot with pods := others }).handed .pod) ∧
      (ofSnapshot now snapshot).handed .node =
        (ofSnapshot now { snapshot with pods := others }).handed .node := by
  obtain ⟨usage, nodeUsage, census, seen, podIndexed, nodeIndexed, gathered, podsHanded,
    nodesHanded⟩ := gathered_of_ok ended
  obtain ⟨otherUsage, otherNodeUsage, otherCensus, otherSeen, podIndexedAgain, nodeIndexedAgain,
    again, podsHandedAgain, nodesHandedAgain⟩ := gathered_of_ok (ended_of_perm same ended)
  -- Both use the same reports, so they have the same indexes.
  obtain rfl : usage = otherUsage := Except.ok.inj (podIndexed.symm.trans podIndexedAgain)
  obtain rfl : nodeUsage = otherNodeUsage := Except.ok.inj (nodeIndexed.symm.trans nodeIndexedAgain)
  constructor
  · rw [podsHanded, podsHandedAgain]
    simp only [Sighting.settled_perm same]
    exact (gathered.seen_perm again same).map _
  · rw [nodesHanded, nodesHandedAgain, gathered.scanNodes_eq again same]

end Script

/-! ### Cycles -/

namespace Collector

variable {w : Surroundings} {gateway : Gateway} {cluster : Cluster} {c : Collector}
  {now finished : Moment} {snapshot : Snapshot} {p : Progress}

theorem fetched_pods
    (fetched : (gateway.snapshot { cluster with pods := .ok pods }).outcome = .ok snapshot) :
    snapshot.pods = pods ∧ Gateway.Reads cluster.metrics .pods snapshot.podMetrics ∧
      ∀ others, (gateway.snapshot { cluster with pods := .ok others }).outcome =
        .ok { snapshot with pods := others } := by
  obtain ⟨configured, given, nodes, podMetrics, nodeMetrics⟩ := Gateway.snapshot_ok_iff.mp fetched
  refine ⟨(Except.ok.inj given).symm, podMetrics, fun others => ?_⟩
  exact Gateway.snapshot_ok_iff.mpr ⟨configured, rfl, nodes, podMetrics, nodeMetrics⟩

/-- When a cycle goes through, so does the one with the pods in another order. It counts the same,
and it writes the blocks of the pods in their order. -/
theorem Passes.perm
    (passes : Passes w gateway { cluster with pods := .ok pods } c now finished snapshot p)
    (willing : ∀ n, w.sink n = none) (same : pods.Perm others) :
    ∃ q, Passes w gateway { cluster with pods := .ok others } c now finished
        { snapshot with pods := others } q ∧ q.summary = p.summary := by
  obtain ⟨rfl, -, fetchedAgain⟩ := fetched_pods passes.fetched
  have ended := Script.ended_of_perm same passes.ended
  obtain ⟨q, again⟩ :=
    passes_of_open willing passes.reading (fetchedAgain others) ended passes.readAgain
  refine ⟨q, again, ?_⟩
  obtain ⟨podsHanded, nodesHanded⟩ := Script.handed_of_perm same passes.ended
  -- All counters count the same pods and the same records.
  rw [passes.took.summary, again.took.summary, Script.count_of_ok passes.ended,
    Script.count_of_ok ended]
  simp only [same.length_eq, same.countP_eq, podsHanded.countP_eq, nodesHanded,
    List.countP_append]

/-- A cycle that returns does so with the pods in another order. -/
theorem returns_of_perm (willing : ∀ n, w.sink n = none) (same : pods.Perm others)
    (returns : ∃ s, (c.cycle w gateway { cluster with pods := .ok pods }).1 = .ok s) :
    ∃ s, (c.cycle w gateway { cluster with pods := .ok others }).1 = .ok s := by
  obtain ⟨s, returned⟩ := returns
  obtain ⟨now, finished, snapshot, p, passes⟩ := passes_of_returned returned
  obtain ⟨q, again, -⟩ := passes.perm willing same
  exact ⟨_, congrArg Prod.fst again.cycle_eq⟩

end Collector

/-! ## Main result -/

open Collector in
/-- With a sink that takes every line, a cycle returns with the pods in one order exactly when it
returns with them in another. Then it returns the same summary, and the lines of the nodes, which
come last, are the same; those before them are the blocks of the pods, in the order of the pods. -/
theorem pod_order_is_free (w : Surroundings) (gateway : Gateway) (cluster : Cluster)
    (c : Collector) (pods others : List Pod) (same : pods.Perm others)
    (willing : ∀ n, w.sink n = none) :
    let run := c.cycle w gateway { cluster with pods := .ok pods }
    let rerun := c.cycle w gateway { cluster with pods := .ok others }
    ((∃ s, run.1 = .ok s) ↔ ∃ s, rerun.1 = .ok s) ∧
      ∀ s, run.1 = .ok s → rerun.1 = .ok s ∧ ∃ now items nodeLines,
        w.clock c.readings = .ok now ∧ Gateway.Reads cluster.metrics .pods items ∧
        let block := Pod.block (MetricsItem.lastUsage? items) now pods
        run.2.lines = c.lines ++ (pods.flatMap block ++ nodeLines) ∧
        rerun.2.lines = c.lines ++ (others.flatMap block ++ nodeLines) := by
  intro run rerun
  constructor
  · exact ⟨returns_of_perm willing same, returns_of_perm willing same.symm⟩
  · intro s returned
    obtain ⟨now, finished, snapshot, p, passes⟩ := passes_of_returned returned
    obtain ⟨q, again, counted⟩ := passes.perm willing same
    obtain ⟨rfl, reads, -⟩ := fetched_pods passes.fetched
    obtain ⟨-, nodesHanded⟩ := Script.handed_of_perm same passes.ended
    refine ⟨?_, now, snapshot.podMetrics,
      ((Script.ofSnapshot now snapshot).handed .node).filterMap Fields.line?, passes.reading, reads,
      ?_, ?_⟩
    · rw [← returned]
      simp only [run, rerun, passes.cycle_eq, again.cycle_eq, counted]
    · rw [← Script.podLines_eq passes.ended, ← List.filterMap_append, ← Script.lines_ofSnapshot]
      exact passes.lines_eq
    · -- The blocks are the same, since the tallies in them count the same pods.
      have lines := again.lines_eq
      rw [Script.lines_ofSnapshot, List.filterMap_append, Script.podLines_eq again.ended] at lines
      rw [nodesHanded, Pod.block_perm same]
      exact lines

/-! ### A sample -/

namespace Sample

/-- Another pod of the same controller. -/
def peer : Pod :=
  { pod with
    metadata := some ⟨some "peer", some "default", [⟨some "shop", some "ReplicaSet", true⟩]⟩ }

def podReport (name : String) : Value :=
  .object [("metadata", .object [("name", .text name), ("namespace", .text "default")]),
    ("containers", .list [entry "web" 1])]

/-- What the cluster of the two pods answers, but for the order of the pods. -/
def shop : Cluster where
  pods := .ok []
  nodes := .ok [node]
  metrics
    | .pods => .ok (.object [("items", .list [podReport "shop", podReport "peer"])])
    | .nodes => .ok (response [("metadata", .object [("name", .text "alpha")]),
        ("usage", .object [("cpu", .int 1)])])

end Sample

open Collector in
/-- The pods of one controller change places, and so do their lines. -/
theorem pod_order_is_free_sample :
    [Sample.pod, Sample.peer].Perm [Sample.peer, Sample.pod] ∧
      ∃ (s : CycleSummary) (block : Pod → List String) (nodeLines : List String),
        (({} : Collector).cycle Sample.calm ⟨true, 5⟩
          { Sample.shop with pods := .ok [Sample.pod, Sample.peer] }).1 = .ok s ∧
        s.podRecords = 2 ∧
        (({} : Collector).cycle Sample.calm ⟨true, 5⟩
          { Sample.shop with pods := .ok [Sample.pod, Sample.peer] }).2.lines =
            block Sample.pod ++ block Sample.peer ++ nodeLines ∧
        (({} : Collector).cycle Sample.calm ⟨true, 5⟩
          { Sample.shop with pods := .ok [Sample.peer, Sample.pod] }).2.lines =
            block Sample.peer ++ block Sample.pod ++ nodeLines := by
  have same : [Sample.pod, Sample.peer].Perm [Sample.peer, Sample.pod] := .swap _ _ _
  obtain ⟨p, passes⟩ : ∃ p, Passes Sample.calm ⟨true, 5⟩
      { Sample.shop with pods := .ok [Sample.pod, Sample.peer] } {} ⟨0, none⟩ ⟨1, none⟩ _ p :=
    passes_of_open (fun _ => rfl) rfl rfl rfl rfl
  have returned := congrArg Prod.fst passes.cycle_eq
  obtain ⟨-, again⟩ := pod_order_is_free Sample.calm ⟨true, 5⟩ Sample.shop {} _ _ same fun _ => rfl
  obtain ⟨-, now, items, nodeLines, -, -, lines, linesAgain⟩ := again _ returned
  refine ⟨same, _, Pod.block (MetricsItem.lastUsage? items) now [Sample.pod, Sample.peer],
    nodeLines, returned, ?_, ?_, ?_⟩
  · have counted : p.summary.podRecords = _ :=
      congrArg CycleSummary.podRecords (passes.took.summary.trans (Script.count_of_ok passes.ended))
    rw [counted]
    decide +kernel
  · simpa [Collector.lines] using lines
  · simpa [Collector.lines] using linesAgain

end ClusterCensus
