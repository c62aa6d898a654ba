import ClusterCensus.Cycle.Script
import ClusterCensus.Proofs.Trace

/-!
# What a script hands to emission

The records of a cycle are events of its script. The scan of the pods hands over none; then come
the settled records of the census, all of them, and then those of the nodes as far as they can be
observed. So a script either ends before its first record or goes through a complete census.

## Main result

`ofSnapshot_cases`: the two ways a script can go, with the records it hands over.
-/
namespace ClusterCensus

/-- The fields that an event hands to emission as a record of a kind. -/
def CycleEvent.handed? (kind : RecordKind) : CycleEvent → Option Fields
  | .record of fields => if of = kind then some fields else none
  | _ => none

namespace Script

variable {α β : Type} {kind : RecordKind}

/-- The records of a kind that a part of a cycle hands to emission, in order. -/
def handed (kind : RecordKind) (script : Script α) : List Fields :=
  script.events.filterMap (CycleEvent.handed? kind)

/-! ### Parts that hand over nothing -/

/-- The part hands over no record of a kind, however it ends. -/
def IsQuiet (kind : RecordKind) (script : Script α) : Prop :=
  script.Leaves fun event => event.handed? kind = none

theorem IsQuiet.handed {script : Script α} (quiet : script.IsQuiet kind) :
    script.handed kind = [] :=
  List.filterMap_eq_nil_iff.mpr quiet

theorem isQuiet_tell {event : CycleEvent} (quiet : event.handed? kind = none) :
    IsQuiet kind (Trace.tell event : Script Unit) :=
  Trace.leaves_tell quiet

theorem isQuiet_noted (work : Noted α) : IsQuiet kind (noted work) :=
  Trace.Leaves.mapEvents fun _ _ => rfl

/-- Work is quiet when all its parts are. -/
theorem IsQuiet.bind {first : Script α} {next : α → Script β} (one : first.IsQuiet kind)
    (other : ∀ value, (next value).IsQuiet kind) : IsQuiet kind (first >>= next) :=
  Trace.Leaves.bind one other

/-- Scanning a pod hands over nothing; its records wait until all pods are scanned. -/
theorem isQuiet_scanPod (usage : UsageIndex) (now : Moment) (census : Census) (pod : Pod) :
    (scanPod usage now census pod).IsQuiet kind := by
  refine (isQuiet_tell rfl).bind fun _ => ?_
  cases pod.live? with
  | none => exact (isQuiet_tell rfl).bind fun _ => Trace.leaves_pure _
  | some live => exact isQuiet_noted _

theorem isQuiet_scanPods (usage : UsageIndex) (now : Moment) (pods : List Pod) :
    (scanPods usage now pods).IsQuiet kind :=
  Trace.Leaves.thread (isQuiet_scanPod usage now) _ _

/-- Scanning a node hands over no record of a pod. -/
theorem isQuiet_scanNode (usage : UsageIndex) (now : Moment) (census : Census) (node : Node) :
    (scanNode usage now census node).IsQuiet .pod := by
  refine (isQuiet_noted _).bind fun record? => (isQuiet_tell rfl).bind fun _ => ?_
  cases record? with
  | none => exact Trace.leaves_pure _
  | some record => exact isQuiet_tell rfl

theorem isQuiet_scanNodes (usage : UsageIndex) (now : Moment) (census : Census)
    (nodes : List Node) : (scanNodes usage now census nodes).IsQuiet .pod :=
  Trace.Leaves.thread (fun _ => isQuiet_scanNode usage now census) _ _

/-! ### Parts that hand over records -/

theorem handed_bind_of_ok {first : Script α} {value : α} (ended : first.outcome = .ok value)
    (next : α → Script β) :
    handed kind (first >>= next) = first.handed kind ++ (next value).handed kind := by
  rw [handed, Trace.bind_events_of_ok ended, List.filterMap_append]
  rfl

theorem handed_bind_of_error {first : Script α} {fault : Fault}
    (ended : first.outcome = .error fault) (next : α → Script β) :
    handed kind (first >>= next) = first.handed kind := by
  rw [handed, Trace.bind_events_of_error ended]
  rfl

theorem handed_offerPods_pod (records : List ContainerRecord) :
    (offerPods records).handed .pod = records.map ContainerRecord.fields := by
  simp [handed, offerPods, CycleEvent.handed?, List.filterMap_map, Function.comp_def]

theorem handed_offerPods_node (records : List ContainerRecord) :
    (offerPods records).handed .node = [] := by
  simp [handed, offerPods, CycleEvent.handed?]

/-- A node that could be visited hands over its record, if it has one. -/
theorem scanNode_ok {usage : UsageIndex} {now : Moment} {census : Census} {node : Node}
    (scanned : (scanNode usage now census node).outcome = .ok ()) :
    ∃ record?, (census.visitNode usage now node).outcome = .ok record? ∧
      (scanNode usage now census node).handed .node = record?.toList.map NodeRecord.fields := by
  obtain ⟨record?, visited, -⟩ := Trace.bind_outcome_ok_iff.mp scanned
  refine ⟨record?, visited, ?_⟩
  rw [scanNode, handed_bind_of_ok visited, (isQuiet_noted _).handed, List.nil_append]
  cases record? <;> rfl

/-! ### Before and after the first record -/

/-- The work before the first record: the usage is indexed and all pods are scanned. What is left
is the usage of the nodes and a complete census. -/
def survey (now : Moment) (snapshot : Snapshot) : Script (UsageIndex × Census) := do
  let podUsage ← Trace.ofExcept (UsageIndex.ofPodMetrics snapshot.podMetrics)
  let nodeUsage ← Trace.ofExcept (UsageIndex.ofNodeMetrics snapshot.nodeMetrics)
  let census ← scanPods podUsage now snapshot.pods
  return (nodeUsage, census)

/-- The work that hands over records: those of the census, then those of the nodes. -/
def emission (now : Moment) (nodes : List Node) (found : UsageIndex × Census) : Script Unit := do
  offerPods found.2.settled
  scanNodes found.1 now found.2 nodes

/-- The work on a snapshot is a survey and an emission. -/
theorem ofSnapshot_eq (now : Moment) (snapshot : Snapshot) :
    ofSnapshot now snapshot = survey now snapshot >>= emission now snapshot.nodes := by
  simp only [ofSnapshot, survey, emission, Trace.bind_eq_andThen, Trace.andThen_assoc,
    Trace.pure_andThen]

theorem isQuiet_survey (now : Moment) (snapshot : Snapshot) :
    (survey now snapshot).IsQuiet kind := by
  refine IsQuiet.bind (Trace.leaves_ofExcept _) fun podUsage => ?_
  refine IsQuiet.bind (Trace.leaves_ofExcept _) fun nodeUsage => ?_
  exact (isQuiet_scanPods podUsage now snapshot.pods).bind fun _ => Trace.leaves_pure _

/-- A survey ends well exactly when the usage can be indexed and all pods can be scanned. -/
theorem survey_ok_iff {now : Moment} {snapshot : Snapshot} {nodeUsage : UsageIndex}
    {census : Census} :
    (survey now snapshot).outcome = .ok (nodeUsage, census) ↔
      ∃ podUsage, UsageIndex.ofPodMetrics snapshot.podMetrics = .ok podUsage ∧
        UsageIndex.ofNodeMetrics snapshot.nodeMetrics = .ok nodeUsage ∧
        (scanPods podUsage now snapshot.pods).outcome = .ok census := by
  simp only [survey, Trace.bind_outcome_ok_iff, Trace.ofExcept_outcome, Trace.pure_outcome,
    Except.ok.injEq, Prod.mk.injEq]
  grind

/-! ### The whole script -/

section Snapshot

variable (now : Moment) (snapshot : Snapshot)

/-- A script ends before its first record, or it goes through a complete census: then it hands over
the settled records, and goes on as the observation of the nodes does. -/
theorem ofSnapshot_cases :
    (∃ fault, (ofSnapshot now snapshot).outcome = .error fault ∧
        ∀ kind, (ofSnapshot now snapshot).handed kind = []) ∨
      ∃ podUsage nodeUsage census,
        UsageIndex.ofPodMetrics snapshot.podMetrics = .ok podUsage ∧
        UsageIndex.ofNodeMetrics snapshot.nodeMetrics = .ok nodeUsage ∧
        (scanPods podUsage now snapshot.pods).outcome = .ok census ∧
        (ofSnapshot now snapshot).outcome =
          (scanNodes nodeUsage now census snapshot.nodes).outcome ∧
        (ofSnapshot now snapshot).handed .pod = census.settled.map ContainerRecord.fields ∧
        (ofSnapshot now snapshot).handed .node =
          (scanNodes nodeUsage now census snapshot.nodes).handed .node := by
  unfold ofSnapshot
  cases podIndexed : UsageIndex.ofPodMetrics snapshot.podMetrics with
  | error fault => exact .inl ⟨fault, rfl, fun _ => rfl⟩
  | ok podUsage =>
    cases nodeIndexed : UsageIndex.ofNodeMetrics snapshot.nodeMetrics with
    | error fault => exact .inl ⟨fault, rfl, fun _ => rfl⟩
    | ok nodeUsage =>
      simp only [Trace.ofExcept_ok_bind]
      -- The records are handed over after the scan, so a failing scan hands over none.
      cases scanned : (scanPods podUsage now snapshot.pods).outcome with
      | error fault =>
        refine .inl ⟨fault, Trace.bind_outcome_of_error scanned _, fun kind => ?_⟩
        rw [handed_bind_of_error scanned, (isQuiet_scanPods podUsage now snapshot.pods).handed]
      | ok census =>
        have offered : (offerPods census.settled).outcome = .ok () := rfl
        refine .inr ⟨podUsage, nodeUsage, census, rfl, rfl, scanned, ?_, ?_, ?_⟩
        · rw [Trace.bind_outcome_of_ok scanned, Trace.bind_outcome_of_ok offered]
        · rw [handed_bind_of_ok scanned, handed_bind_of_ok offered,
            (isQuiet_scanPods podUsage now snapshot.pods).handed, handed_offerPods_pod,
            (isQuiet_scanNodes nodeUsage now census snapshot.nodes).handed, List.nil_append,
            List.append_nil]
        · rw [handed_bind_of_ok scanned, handed_bind_of_ok offered,
            (isQuiet_scanPods podUsage now snapshot.pods).handed, handed_offerPods_node,
            List.nil_append, List.nil_append]

end Snapshot
end Script
end ClusterCensus
