import ClusterCensus.Census.Nodes
import Mathlib.Algebra.Ring.Int.Defs
import Mathlib.Tactic.SplitIfs

/-!
# Tallies count

Each tally is filled one item at a time. Here every tally that has been filled from a list is put
in closed form: a counter has grown by the number of items that belong in it. Since the start is
arbitrary, the same equations serve a tally that is filled in several stages.
-/
namespace ClusterCensus

/-! ### Pods of a node -/

namespace PodTally

def isPhase (bucket : String) (phase : Option String) : Bool :=
  lowered phase == bucket

/-- The phase has no bucket of its own. -/
def isOtherPhase (phase : Option String) : Bool :=
  !(["failed", "pending", "running", "succeeded"].contains (lowered phase))

theorem phase_cases (phase : Option String) :
    lowered phase = "failed" ∨ lowered phase = "pending" ∨ lowered phase = "running" ∨
      lowered phase = "succeeded" ∨ (lowered phase ≠ "failed" ∧ lowered phase ≠ "pending" ∧
        lowered phase ≠ "running" ∧ lowered phase ≠ "succeeded") := by
  by_cases failed : lowered phase = "failed"
  · exact .inl failed
  by_cases pending : lowered phase = "pending"
  · exact .inr (.inl pending)
  by_cases running : lowered phase = "running"
  · exact .inr (.inr (.inl running))
  by_cases succeeded : lowered phase = "succeeded"
  · exact .inr (.inr (.inr (.inl succeeded)))
  exact .inr (.inr (.inr (.inr ⟨failed, pending, running, succeeded⟩)))

theorem add_eq (tally : PodTally) (phase : Option String) :
    tally.add phase =
      { failed := tally.failed + if isPhase "failed" phase then 1 else 0
        pending := tally.pending + if isPhase "pending" phase then 1 else 0
        running := tally.running + if isPhase "running" phase then 1 else 0
        succeeded := tally.succeeded + if isPhase "succeeded" phase then 1 else 0
        unknown := tally.unknown + if isOtherPhase phase then 1 else 0
        total := tally.total + 1 } := by
  -- One case for each bucket; in the last the phase is none of the four names.
  rcases phase_cases phase with h | h | h | h | ⟨failed, pending, running, succeeded⟩
  · simp [add, bump, isPhase, isOtherPhase, h]
  · simp [add, bump, isPhase, isOtherPhase, h]
  · simp [add, bump, isPhase, isOtherPhase, h]
  · simp [add, bump, isPhase, isOtherPhase, h]
  · simp [add, bump, isPhase, isOtherPhase, failed, pending, running, succeeded]

/-- Every phase counts once in the total and once in its bucket. -/
theorem foldl_add (phases : List (Option String)) (tally : PodTally) :
    phases.foldl add tally =
      { failed := tally.failed + phases.countP (isPhase "failed")
        pending := tally.pending + phases.countP (isPhase "pending")
        running := tally.running + phases.countP (isPhase "running")
        succeeded := tally.succeeded + phases.countP (isPhase "succeeded")
        unknown := tally.unknown + phases.countP isOtherPhase
        total := tally.total + phases.length } := by
  induction phases generalizing tally with
  | nil => simp
  | cons phase rest ih =>
    rw [List.foldl_cons, ih, add_eq]
    simp only [List.countP_cons, List.length_cons, PodTally.mk.injEq]
    push_cast
    omega

/-- The five buckets take every phase exactly once. -/
theorem length_eq_sum_countP (phases : List (Option String)) :
    phases.length = phases.countP (isPhase "failed") + phases.countP (isPhase "pending") +
      phases.countP (isPhase "running") + phases.countP (isPhase "succeeded") +
      phases.countP isOtherPhase := by
  induction phases with
  | nil => rfl
  | cons phase rest ih =>
    -- A phase is counted in one bucket only.
    have once : 1 = (if isPhase "failed" phase then 1 else 0) +
        (if isPhase "pending" phase then 1 else 0) + (if isPhase "running" phase then 1 else 0) +
        (if isPhase "succeeded" phase then 1 else 0) + (if isOtherPhase phase then 1 else 0) := by
      rcases phase_cases phase with h | h | h | h | ⟨failed, pending, running, succeeded⟩
      · simp [isPhase, isOtherPhase, h]
      · simp [isPhase, isOtherPhase, h]
      · simp [isPhase, isOtherPhase, h]
      · simp [isPhase, isOtherPhase, h]
      · simp [isPhase, isOtherPhase, failed, pending, running, succeeded]
    simp only [List.countP_cons, List.length_cons]
    omega

end PodTally

/-! ### Containers of a node -/

namespace ContainerTally

/-- A container as its node counts it. -/
structure Item where
  state : Option String
  ready : Bool
  isInit : Bool

def Item.isIn (bucket : String) (item : Item) : Bool :=
  lowered item.state == bucket

def Item.isCounted (item : Item) : Bool :=
  ["waiting", "terminated", "running"].contains (lowered item.state)

def addItem (tally : ContainerTally) (item : Item) : ContainerTally :=
  tally.add item.state item.ready item.isInit

theorem addItem_eq (tally : ContainerTally) (item : Item) :
    tally.addItem item =
      { init := tally.init + if item.isInit then 1 else 0
        ready := tally.ready + if item.isIn "running" && item.ready then 1 else 0
        running := tally.running + if item.isIn "running" then 1 else 0
        terminated := tally.terminated + if item.isIn "terminated" then 1 else 0
        waiting := tally.waiting + if item.isIn "waiting" then 1 else 0
        total := tally.total + if item.isCounted then 1 else 0 } := by
  obtain ⟨state, ready, isInit⟩ := item
  by_cases waiting : lowered state = "waiting"
  · cases isInit <;> simp [addItem, add, bump, Item.isIn, Item.isCounted, waiting]
  by_cases terminated : lowered state = "terminated"
  · cases isInit <;> simp [addItem, add, bump, Item.isIn, Item.isCounted, terminated]
  by_cases running : lowered state = "running"
  · cases isInit <;> cases ready <;> simp [addItem, add, bump, Item.isIn, Item.isCounted, running]
  -- A state that has no bucket is only counted among the init containers.
  cases isInit <;>
    simp [addItem, add, bump, Item.isIn, Item.isCounted, waiting, terminated, running]

/-- Every container counts in the total and in a bucket when its state is counted, among the ready
ones when it runs and is ready, and among the init containers whatever its state. -/
theorem foldl_addItem (items : List Item) (tally : ContainerTally) :
    items.foldl addItem tally =
      { init := tally.init + items.countP (·.isInit)
        ready := tally.ready + items.countP fun item => item.isIn "running" && item.ready
        running := tally.running + items.countP (·.isIn "running")
        terminated := tally.terminated + items.countP (·.isIn "terminated")
        waiting := tally.waiting + items.countP (·.isIn "waiting")
        total := tally.total + items.countP (·.isCounted) } := by
  induction items generalizing tally with
  | nil => simp
  | cons item rest ih =>
    rw [List.foldl_cons, ih, addItem_eq]
    simp only [List.countP_cons, ContainerTally.mk.injEq]
    push_cast
    omega

end ContainerTally

/-! ### Pods and containers of a controller -/

namespace ControllerTally

theorem foldl_addStatus (statuses : List ContainerStatus) (tally : ControllerTally) :
    statuses.foldl addStatus tally =
      { tally with
        containersTotal := tally.containersTotal + statuses.length
        containersReady := tally.containersReady + statuses.countP (·.ready.getD false) } := by
  induction statuses generalizing tally with
  | nil => simp
  | cons status rest ih =>
    rw [List.foldl_cons, ih]
    simp only [addStatus, List.countP_cons, List.length_cons]
    split_ifs <;> simp [addContainer, addReadyContainer] <;> omega

theorem addLivePod_eq (tally : ControllerTally) (live : LivePod) :
    tally.addLivePod live =
      { podsTotal := tally.podsTotal + 1
        podsReady := tally.podsReady + if live.isReady then 1 else 0
        containersTotal := tally.containersTotal + live.statuses.length
        containersReady := tally.containersReady + live.statuses.countP (·.ready.getD false) } := by
  simp only [addLivePod, foldl_addStatus]
  split_ifs <;> simp [addPod, addReadyPod]

/-- Every pod counts once, with all its container statuses. -/
theorem foldl_addLivePod (pods : List LivePod) (tally : ControllerTally) :
    pods.foldl addLivePod tally =
      { podsTotal := tally.podsTotal + pods.length
        podsReady := tally.podsReady + pods.countP (·.isReady)
        containersTotal := tally.containersTotal + (pods.flatMap (·.statuses)).length
        containersReady :=
          tally.containersReady + (pods.flatMap (·.statuses)).countP (·.ready.getD false) } := by
  induction pods generalizing tally with
  | nil => simp
  | cons pod rest ih =>
    rw [List.foldl_cons, ih, addLivePod_eq]
    simp only [List.countP_cons, List.length_cons, List.flatMap_cons, List.length_append,
      List.countP_append, ControllerTally.mk.injEq]
    push_cast
    omega

end ControllerTally

end ClusterCensus
