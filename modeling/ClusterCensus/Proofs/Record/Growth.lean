import ClusterCensus.Proofs.Tally

/-!
# Tallies add up

A tally is filled one item at a time. Wherever it starts, each of its counters grows by the number
of items that belong in it, and the buckets together grow as the total does. So it makes no
difference in which order the items come, and what is tallied in two parts is the sum of both.

## Main result

`tallies_add_up`: this holds of the tally of pods by phase and of that of containers by state.
-/
namespace ClusterCensus

/-- Filling a tally item by item counts the items, in any order, and can be done in parts. -/
structure AddsUp {τ ι : Type} [Add τ] (add : τ → ι → τ) (zero : τ)
    (counts : τ → τ → List ι → Prop) : Prop where
  counts : ∀ (start : τ) (items : List ι), counts start (items.foldl add start) items
  anyOrder : ∀ (start : τ) (items others : List ι), items.Perm others →
    items.foldl add start = others.foldl add start
  inParts : ∀ items others : List ι,
    (items ++ others).foldl add zero = items.foldl add zero + others.foldl add zero

/-! ### Pods by phase -/

namespace PodTally

/-- The buckets of all phases together. -/
def buckets (t : PodTally) : Int :=
  t.failed + t.pending + t.running + t.succeeded + t.unknown

instance : Add PodTally where
  add t u :=
    { failed := t.failed + u.failed
      pending := t.pending + u.pending
      running := t.running + u.running
      succeeded := t.succeeded + u.succeeded
      unknown := t.unknown + u.unknown
      total := t.total + u.total }

/-- Every counter has grown by the number of phases that belong in it. -/
structure Counts (start final : PodTally) (phases : List (Option String)) : Prop where
  total : final.total = start.total + phases.length
  buckets : final.buckets = start.buckets + phases.length
  failed : final.failed = start.failed + phases.countP (isPhase "failed")
  pending : final.pending = start.pending + phases.countP (isPhase "pending")
  running : final.running = start.running + phases.countP (isPhase "running")
  succeeded : final.succeeded = start.succeeded + phases.countP (isPhase "succeeded")
  unknown : final.unknown = start.unknown + phases.countP isOtherPhase

/-- A fold adds to every counter the number of phases that belong to it. -/
theorem counts_foldl_add (start : PodTally) (phases : List (Option String)) :
    Counts start (phases.foldl add start) phases := by
  rw [foldl_add]
  constructor
  case buckets =>
    -- The total grows by one for each phase, and so does exactly one of the buckets.
    have split := length_eq_sum_countP phases
    simp only [PodTally.buckets]
    omega
  all_goals rfl

/-- What the start holds can be added afterwards. -/
theorem foldl_add_start (start : PodTally) (phases : List (Option String)) :
    phases.foldl add start = start + phases.foldl add {} := by
  -- Both sides are the counts of the phases added to the start, on the right by way of zero.
  simp only [foldl_add, Int.zero_add]
  rfl

theorem addsUp : AddsUp add {} Counts where
  counts := counts_foldl_add
  anyOrder := by
    intro start phases others same
    simp only [foldl_add, same.countP_eq, same.length_eq]
  inParts := by
    intro phases others
    rw [List.foldl_append, foldl_add_start]

end PodTally

/-! ### Containers by state -/

namespace ContainerTally

def buckets (t : ContainerTally) : Int :=
  t.running + t.waiting + t.terminated

instance : Add ContainerTally where
  add t u :=
    { init := t.init + u.init
      ready := t.ready + u.ready
      running := t.running + u.running
      terminated := t.terminated + u.terminated
      waiting := t.waiting + u.waiting
      total := t.total + u.total }

/-- Every counter has grown by the number of containers that belong in it. A container whose state
is none of the three counts nowhere but among the init containers. -/
structure Counts (start final : ContainerTally) (items : List Item) : Prop where
  total : final.total = start.total + items.countP (·.isCounted)
  buckets : final.buckets = start.buckets + items.countP (·.isCounted)
  running : final.running = start.running + items.countP (·.isIn "running")
  waiting : final.waiting = start.waiting + items.countP (·.isIn "waiting")
  terminated : final.terminated = start.terminated + items.countP (·.isIn "terminated")
  ready : final.ready = start.ready + items.countP fun item => item.isIn "running" && item.ready
  init : final.init = start.init + items.countP (·.isInit)

theorem Item.isCounted_once (item : Item) :
    (if item.isCounted then 1 else 0) = (if item.isIn "running" then 1 else 0) +
      (if item.isIn "waiting" then 1 else 0) + (if item.isIn "terminated" then 1 else 0) := by
  by_cases running : lowered item.state = "running"
  · simp [isCounted, isIn, running]
  by_cases waiting : lowered item.state = "waiting"
  · simp [isCounted, isIn, waiting]
  by_cases terminated : lowered item.state = "terminated"
  · simp [isCounted, isIn, terminated]
  simp [isCounted, isIn, running, waiting, terminated]

/-- The three buckets take every container that is counted exactly once. -/
theorem countP_isCounted (items : List Item) :
    items.countP (·.isCounted) = items.countP (·.isIn "running") +
      items.countP (·.isIn "waiting") + items.countP (·.isIn "terminated") := by
  induction items with
  | nil => rfl
  | cons item rest ih =>
    simp only [List.countP_cons, ih, item.isCounted_once]
    omega

theorem counts_foldl_addItem (start : ContainerTally) (items : List Item) :
    Counts start (items.foldl addItem start) items := by
  rw [foldl_addItem]
  constructor
  case buckets =>
    have split := countP_isCounted items
    simp only [ContainerTally.buckets]
    omega
  all_goals rfl

theorem foldl_addItem_start (start : ContainerTally) (items : List Item) :
    items.foldl addItem start = start + items.foldl addItem {} := by
  simp only [foldl_addItem, Int.zero_add]
  rfl

theorem addsUp : AddsUp addItem {} Counts where
  counts := counts_foldl_addItem
  anyOrder := by
    intro start items others same
    simp only [foldl_addItem, same.countP_eq]
  inParts := by
    intro items others
    rw [List.foldl_append, foldl_addItem_start]

end ContainerTally

/-! ## Main result -/

/-- Both tallies of a node count exactly what they are given: from any start, in any order, and in
parts as well as at once. -/
theorem tallies_add_up :
    AddsUp PodTally.add {} PodTally.Counts ∧
      AddsUp ContainerTally.addItem {} ContainerTally.Counts :=
  ⟨PodTally.addsUp, ContainerTally.addsUp⟩

/-- A running pod, one without a phase and a failed one are tallied alike in another order. A paused
container counts among the init containers only. -/
theorem tallies_add_up_sample :
    [some "RUNNING", none, some "Failed"].foldl PodTally.add {} =
        { failed := 1, running := 1, unknown := 1, total := 3 } ∧
      [some "Failed", some "RUNNING", none].foldl PodTally.add {} =
        { failed := 1, running := 1, unknown := 1, total := 3 } ∧
      ContainerTally.Counts {} { init := 2, ready := 1, running := 1, total := 1 }
        [⟨some "running", true, true⟩, ⟨some "Paused", true, true⟩] := by
  have tallied : [some "RUNNING", none, some "Failed"].foldl PodTally.add {} =
      { failed := 1, running := 1, unknown := 1, total := 3 } := by
    decide +kernel
  obtain ⟨pods, containers⟩ := tallies_add_up
  refine ⟨tallied, ?_, ?_⟩
  · rw [← pods.anyOrder {} [some "RUNNING", none, some "Failed"] _ (by decide)]
    exact tallied
  · have counted := containers.counts {} [⟨some "running", true, true⟩, ⟨some "Paused", true, true⟩]
    have final : [⟨some "running", true, true⟩, ⟨some "Paused", true, true⟩].foldl
        ContainerTally.addItem {} = { init := 2, ready := 1, running := 1, total := 1 } := by
      decide +kernel
    rwa [final] at counted

end ClusterCensus
