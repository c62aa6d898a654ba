import ClusterCensus.Proofs.Census.Buckets
import ClusterCensus.Proofs.Census.Join
import ClusterCensus.Proofs.Cycle.Controllers
import ClusterCensus.Proofs.Observe.Node
import Mathlib.Data.List.Forall2

/-!
# Node records conserve what was scanned

The nodes are visited after the scan of the pods, when the tallies under their names are final. A
visit makes at most one record, and the record takes its tallies from the census as they stand.

## Main result

`node_records_conserve`: when a script ends well, each node has been given its record or none, and
the counters of a record are those of all kept pods and of all pod records of its node.
-/
namespace ClusterCensus

open UsageIndex (missingNodeName)

/-! ### One node -/

/-- A node that can have a record is declared and observed, and it has a name. -/
theorem Node.recordName?_eq_some_iff {node : Node} {name : String} :
    node.recordName? = some name ↔
      node.spec.isSome ∧ node.status.isSome ∧ node.name? = some name ∧ name ≠ "" := by
  unfold recordName?
  split
  next both =>
    rw [Bool.and_eq_true] at both
    simp [both.1, both.2, Option.filter_eq_some_iff]
  next missing =>
    rw [Bool.and_eq_true] at missing
    -- Undeclared or unobserved, it has no record under any name.
    constructor
    · intro impossible
      cases impossible
    · rintro ⟨declared, observed, -⟩
      exact absurd ⟨declared, observed⟩ missing

namespace Census

/-- The record has the tallies that stand in the census under the name of its node. -/
structure Tallied (census : Census) (node : Node) (record : NodeRecord) : Prop where
  name : node.recordName? = some record.node
  pods : record.pods = (census.nodePods.find? record.node).getD {}
  containers : record.containers = (census.nodeContainers.find? record.node).getD {}

/-- Everything that a visit can do: a node that can have a record and whose usage is known gets
one, with its tallies; any other gets none. -/
theorem visitNode_ok {usage : UsageIndex} {now : Moment} {census : Census} {node : Node}
    {attempt : Option NodeRecord}
    (visited : (census.visitNode usage now node).outcome = .ok attempt) :
    (attempt.isSome ↔ ∃ name, node.recordName? = some name ∧ (usage.node? name).isSome) ∧
      ∀ record ∈ attempt, census.Tallied node record := by
  unfold visitNode at visited
  split at visited
  next unnamed =>
    rw [← Except.ok.inj visited, unnamed]
    simp
  next name named =>
    split at visited
    next unreported =>
      rw [← Except.ok.inj visited, named]
      simp [unreported]
    next reported known =>
      obtain ⟨record, observed, same⟩ := Trace.bind_outcome_ok_iff.mp visited
      obtain ⟨cpu, -, observed⟩ := Trace.bind_outcome_ok_iff.mp observed
      obtain ⟨memory, -, observed⟩ := Trace.bind_outcome_ok_iff.mp observed
      have sources := NodeRecord.hasSources_of_observed observed
      obtain ⟨-, -, listed, -⟩ := Node.recordName?_eq_some_iff.mp named
      -- The record bears the name under which the tallies were looked up.
      have own : record.node = name := by
        rw [sources.name, listed, Option.getD_some]
      rw [← Except.ok.inj same]
      refine ⟨by simp [named, known], ?_⟩
      intro other inside
      rw [Option.mem_some_iff] at inside
      subst inside
      refine ⟨?_, ?_, ?_⟩
      · rw [named, own]
      · rw [sources.pods, own]
      · rw [sources.containers, own]

end Census

/-! ### All nodes -/

/-- When the observation of nodes ends well, every node has been visited, and the records that the
visits made are handed over in the order of the nodes. -/
theorem Script.scanNodes_ok {usage : UsageIndex} {now : Moment} {census : Census}
    {nodes : List Node} (scanned : (scanNodes usage now census nodes).outcome = .ok ()) :
    ∃ attempts : List (Option NodeRecord),
      List.Forall₂ (fun node attempt => (census.visitNode usage now node).outcome = .ok attempt)
        nodes attempts ∧
      (scanNodes usage now census nodes).handed .node =
        (attempts.filterMap id).map NodeRecord.fields := by
  induction nodes with
  | nil => exact ⟨[], .nil, rfl⟩
  | cons node rest ih =>
    obtain ⟨⟨⟩, first, onward⟩ := Trace.bind_outcome_ok_iff.mp scanned
    obtain ⟨attempt, visited, handedFirst⟩ := scanNode_ok first
    obtain ⟨attempts, visits, handedRest⟩ := ih onward
    refine ⟨attempt :: attempts, .cons visited visits, ?_⟩
    -- The first node hands over its record, then the others hand over theirs.
    have split : (scanNodes usage now census (node :: rest)).handed .node =
        (scanNode usage now census node).handed .node ++
          (scanNodes usage now census rest).handed .node := handed_bind_of_ok first _
    rw [split, handedFirst, handedRest]
    cases attempt <;> rfl

/-- A node lacks nothing that a record needs: it is declared and observed, it has a name, and some
item carries the name. -/
structure Node.Recordable (items : List MetricsItem) (node : Node) (name : String) : Prop where
  declared : node.spec.isSome
  observed : node.status.isSome
  name_eq : node.name? = some name
  named : name ≠ ""
  usage : ∃ item ∈ items, item.name.isText name

/-- The record is the one of the node, its counters are those of the kept pods and of the pod
records of its name, and its line shows them. -/
structure NodeRecord.Accounts {now : Moment} (pods : List Pod) (seen : List (Sighting now))
    (node : Node) (record : NodeRecord) : Prop where
  name : node.name? = some record.node
  pods_eq : record.pods = PodTally.ofPods record.node pods
  containers_eq : record.containers = ContainerTally.ofSightings record.node seen
  shows_pods : record.fields.Shows record.pods.fields
  shows_containers : record.fields.Shows record.containers.fields

/-- A record that takes its tallies from a complete census accounts for the whole scan. -/
theorem Script.Gathered.accounts {now : Moment} {reported : UsageLookup} {pods : List Pod}
    {seen : List (Sighting now)} {census : Census} (gathered : Gathered reported pods seen census)
    {node : Node} {record : NodeRecord} (tallied : census.Tallied node record) :
    record.Accounts pods seen node := by
  obtain ⟨-, -, name, named⟩ := Node.recordName?_eq_some_iff.mp tallied.name
  refine ⟨name, ?_, ?_, record.shows_pods, record.shows_containers⟩
  · rw [tallied.pods, gathered.podTally named]
  · rw [tallied.containers, gathered.containerTally]

/-- A node whose name is not the placeholder can have a record exactly when it lacks nothing. -/
theorem Node.recordable_iff {items : List MetricsItem} {usage : UsageIndex}
    (indexed : UsageIndex.ofNodeMetrics items = .ok usage) {node : Node}
    (real : node.name? ≠ some missingNodeName) :
    (∃ name, node.recordName? = some name ∧ (usage.node? name).isSome) ↔
      ∃ name, node.Recordable items name := by
  refine exists_congr fun name => ?_
  rw [Node.recordName?_eq_some_iff]
  -- The index keeps usage without a name under the placeholder, which is not this name.
  constructor
  · rintro ⟨⟨declared, observed, name_eq, named⟩, known⟩
    have distinct : name ≠ missingNodeName := fun same => real (same ▸ name_eq)
    rw [UsageIndex.node?_isSome_of_named indexed named distinct, List.any_eq_true] at known
    exact ⟨declared, observed, name_eq, named, known⟩
  · rintro ⟨declared, observed, name_eq, named, known⟩
    have distinct : name ≠ missingNodeName := fun same => real (same ▸ name_eq)
    refine ⟨⟨declared, observed, name_eq, named⟩, ?_⟩
    rw [UsageIndex.node?_isSome_of_named indexed named distinct, List.any_eq_true]
    exact known

/-! ## Main result -/

/-- When a script ends well, whether or not the sink took its lines, the pod records collected are
those of all pairings, and every node has been tried in the order of the list: a node whose name is
not the placeholder is given a record exactly when it lacks nothing. A record accounts for the kept
pods and for the pod records of its node, and its buckets add up. -/
theorem node_records_conserve (now : Moment) (snapshot : Snapshot)
    (completed : (Script.ofSnapshot now snapshot).outcome = .ok ()) :
    ∃ (seen : List (Sighting now)) (attempts : List (Option NodeRecord)),
      seen.map (·.pairing) =
        pairings (MetricsItem.lastUsage? snapshot.podMetrics) snapshot.pods ∧
      (Script.ofSnapshot now snapshot).handed .pod =
        seen.map (fun s => (s.settled snapshot.pods).fields) ∧
      (Script.ofSnapshot now snapshot).handed .node =
        (attempts.filterMap id).map NodeRecord.fields ∧
      List.Forall₂ (fun node attempt =>
        (node.name? ≠ some missingNodeName →
          (attempt.isSome ↔ ∃ name, node.Recordable snapshot.nodeMetrics name)) ∧
        ∀ record ∈ attempt, record.Accounts snapshot.pods seen node ∧
          record.pods.Balanced ∧ record.containers.Balanced) snapshot.nodes attempts := by
  rcases Script.ofSnapshot_cases now snapshot with
    ⟨fault, failed, -⟩ |
      ⟨podUsage, nodeUsage, census, podIndexed, nodeIndexed, scanned, ended, pods, nodes⟩
  · -- A script that ends early has not ended well.
    rw [failed] at completed
    cases completed
  · obtain ⟨seen, gathered⟩ := Script.scanPods_gathers scanned
    obtain ⟨attempts, visits, handed⟩ := Script.scanNodes_ok (ended ▸ completed)
    refine ⟨seen, attempts, ?_, ?_, nodes.trans handed, ?_⟩
    · rw [gathered.paired, pairings_indexed podIndexed]
    · rw [pods, gathered.settled_eq, List.map_map]
      rfl
    · -- Each visit has found the tallies of the whole scan.
      refine visits.imp fun node attempt visited => ?_
      obtain ⟨given, tallied⟩ := Census.visitNode_ok visited
      refine ⟨fun real => given.trans (Node.recordable_iff nodeIndexed real), ?_⟩
      intro record made
      have accounts := gathered.accounts (tallied record made)
      refine ⟨accounts, ?_, ?_⟩
      · rw [accounts.pods_eq]
        exact PodTally.ofPods_balanced _ _
      · rw [accounts.containers_eq]
        exact ContainerTally.ofSightings_balanced _ _

/-- The node of the sample is given a record. -/
theorem node_records_conserve_sample :
    (Script.ofSnapshot ⟨0, none⟩ Sample.snapshot).outcome = .ok () ∧
      ∃ (seen : List (Sighting ⟨0, none⟩)) (record : NodeRecord),
        (Script.ofSnapshot ⟨0, none⟩ Sample.snapshot).handed .node = [record.fields] ∧
        record.Accounts [Sample.pod] seen Sample.node ∧
        record.pods.Balanced ∧ record.containers.Balanced := by
  refine ⟨rfl, ?_⟩
  obtain ⟨seen, attempts, -, -, handed, tries⟩ :=
    node_records_conserve ⟨0, none⟩ Sample.snapshot rfl
  obtain ⟨attempt, _, ⟨given, each⟩, ⟨⟩, rfl⟩ := List.forall₂_cons_left_iff.mp tries
  -- The node lacks nothing, so its attempt has a record.
  have recordable : Sample.node.Recordable [Sample.nodeMetrics] "alpha" :=
    ⟨rfl, rfl, rfl, by decide, Sample.nodeMetrics, .head _, rfl⟩
  obtain ⟨record, rfl⟩ := Option.isSome_iff_exists.mp ((given (by decide)).mpr ⟨_, recordable⟩)
  exact ⟨seen, record, handed, each record rfl⟩

end ClusterCensus
