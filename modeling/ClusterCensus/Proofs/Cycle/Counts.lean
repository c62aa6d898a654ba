import ClusterCensus.Proofs.Census.Listing
import ClusterCensus.Proofs.Cycle.Ledger

/-!
# Every pod and every node is counted once

The events that count pods come before the first record of a cycle, one for each listed pod and one
more for each pod that is not kept. Those that count nodes come after it, one for each listed node.

## Main results

`Script.countP_survey` and `Script.countP_emission`: the counts of a script that goes through.
-/
namespace ClusterCensus.Script

variable {usage : UsageIndex} {now : Moment} {census : Census}

theorem countP_noted {α : Type} (work : Noted α) {sort : CycleEvent → Bool}
    (silent : ∀ told, sort (.note told) = false) : (noted work).events.countP sort = 0 :=
  Trace.Leaves.countP_eq_zero (Trace.Leaves.mapEvents fun told _ => silent told)

/-! ### Pods -/

/-- A pod is counted once when it is scanned, and once more when it is skipped. -/
theorem countP_scanPod (usage : UsageIndex) (now : Moment) (census : Census) (pod : Pod)
    {sort : CycleEvent → Bool} (silent : ∀ told, sort (.note told) = false) :
    (scanPod usage now census pod).events.countP sort =
      (if sort .podScanned then 1 else 0) +
        if !pod.isKept && sort .podSkipped then 1 else 0 := by
  have told : (Trace.tell .podScanned : Script Unit).outcome = .ok () := rfl
  rw [scanPod, Trace.bind_events_of_ok told, Trace.tell_events, List.singleton_append,
    List.countP_cons, Pod.live?_eq, Nat.add_comm]
  congr 1
  -- A pod that is not kept is counted once more, as skipped; one that is kept leaves only notes.
  cases kept : pod.isKept with
  | false =>
    have dropped : (Trace.tell .podSkipped : Script Unit).outcome = .ok () := rfl
    simp [Trace.bind_events_of_ok dropped]
  | true => simpa [kept] using countP_noted _ silent

theorem countP_scanPods {pods : List Pod} {sort : CycleEvent → Bool}
    (silent : ∀ told, sort (.note told) = false)
    (scanned : (scanPods usage now pods).outcome = .ok census) :
    (scanPods usage now pods).events.countP sort =
      (if sort .podScanned then pods.length else 0) +
        if sort .podSkipped then pods.countP (!·.isKept) else 0 := by
  rw [scanPods, Trace.thread_countP
    (fun state pod _ _ => countP_scanPod usage now state pod silent) scanned]
  clear scanned
  induction pods with
  | nil => simp
  | cons pod rest ih =>
    rw [List.map_cons, List.sum_cons, ih, List.length_cons, List.countP_cons]
    -- The counter may be the one of pods scanned, of pods skipped, or neither.
    cases sort .podScanned <;> cases sort .podSkipped <;> simp <;> omega

/-- A survey that goes through counts every pod once, and those that are not kept as skipped. -/
theorem countP_survey {snapshot : Snapshot} {found : UsageIndex × Census}
    (surveyed : (survey now snapshot).outcome = .ok found) :
    (survey now snapshot).events.countP CycleEvent.isPodScanned = snapshot.pods.length ∧
      (survey now snapshot).events.countP CycleEvent.isPodSkipped =
        snapshot.pods.countP (!·.isKept) ∧
      (survey now snapshot).events.countP CycleEvent.isNodeScanned = 0 := by
  obtain ⟨nodeUsage, census⟩ := found
  obtain ⟨podUsage, podIndexed, nodeIndexed, scanned⟩ := survey_ok_iff.mp surveyed
  -- Indexing leaves no events, so the survey counts what the scan counts.
  have events : (survey now snapshot).events =
      (scanPods podUsage now snapshot.pods).events := by
    simp only [survey, podIndexed, nodeIndexed, Trace.ofExcept_ok_bind,
      Trace.bind_events_of_ok scanned, Trace.pure_events, List.append_nil]
  rw [events]
  refine ⟨?_, ?_, ?_⟩ <;> rw [countP_scanPods (fun _ => rfl) scanned] <;> simp

/-! ### Nodes -/

/-- The event does not count a pod. -/
def IsPodless (event : CycleEvent) : Prop :=
  event.isPodScanned = false ∧ event.isPodSkipped = false

/-- What comes after a survey counts no pod, however it ends. -/
theorem podless_emission (nodes : List Node) (found : UsageIndex × Census) :
    (emission now nodes found).Leaves IsPodless := by
  refine Trace.Leaves.bind ?_ fun _ => Trace.Leaves.thread (fun _ node => ?_) _ _
  · -- Records are offered, which counts no pod; then the nodes are scanned one by one.
    intro event member
    obtain ⟨record, -, rfl⟩ := List.mem_map.mp member
    exact ⟨rfl, rfl⟩
  · refine Trace.Leaves.bind (Trace.Leaves.mapEvents fun _ _ => ⟨rfl, rfl⟩) fun record? => ?_
    refine Trace.Leaves.bind (Trace.leaves_tell ⟨rfl, rfl⟩) fun _ => ?_
    cases record? with
    | none => exact Trace.leaves_pure _
    | some record => exact Trace.leaves_tell ⟨rfl, rfl⟩

/-- A node is counted once, with or without a record. -/
theorem countP_scanNode {node : Node}
    (scanned : (scanNode usage now census node).outcome = .ok ()) :
    (scanNode usage now census node).events.countP CycleEvent.isNodeScanned = 1 := by
  obtain ⟨record?, visited, -⟩ := Trace.bind_outcome_ok_iff.mp scanned
  have told : (Trace.tell .nodeScanned : Script Unit).outcome = .ok () := rfl
  rw [scanNode, Trace.bind_events_of_ok visited, List.countP_append, countP_noted _ fun _ => rfl,
    Trace.bind_events_of_ok told, Trace.tell_events]
  -- Its record, if it has one, counts no node.
  cases record? <;> rfl

/-- An emission that goes through counts every node once. -/
theorem countP_emission {nodes : List Node} {found : UsageIndex × Census}
    (emitted : (emission now nodes found).outcome = .ok ()) :
    (emission now nodes found).events.countP CycleEvent.isNodeScanned = nodes.length := by
  obtain ⟨⟨⟩, offered, scanned⟩ := Trace.bind_outcome_ok_iff.mp emitted
  -- Offering records counts no node.
  have records : (offerPods found.2.settled).events.countP CycleEvent.isNodeScanned = 0 := by
    simp [offerPods, List.countP_map, Function.comp_def]
  have counted : (scanNodes found.1 now found.2 nodes).events.countP CycleEvent.isNodeScanned =
      (nodes.map fun _ => 1).sum :=
    Trace.thread_countP (fun _ _ _ visited => countP_scanNode visited) scanned
  rw [emission, Trace.bind_events_of_ok offered, List.countP_append, records, counted,
    List.map_const', List.sum_replicate_nat]
  omega

end ClusterCensus.Script
