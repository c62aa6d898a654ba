import ClusterCensus.Census.Nodes

/-!
# Pods as they are listed

What the list of pods says by itself, without any scan: which pods are kept, which node and which
controller a pod belongs to, which conditions, statuses and containers it shows. The results about
scans are stated in these terms; here the scan's own view of a pod is traced back to them.
-/
namespace ClusterCensus
namespace Pod

/-! ### Reading a pod -/

/-- The pod is declared and observed, and its conditions and container statuses are known. -/
def isKept (pod : Pod) : Bool :=
  pod.spec.isSome && (pod.status.bind (·.conditions)).isSome &&
    (pod.status.bind (·.containerStatuses)).isSome

def conditionList (pod : Pod) : List PodCondition :=
  (pod.status.bind (·.conditions)).getD []

/-- Some condition has the type ready and the status true, in any case of letters. -/
def isReady (pod : Pod) : Bool :=
  pod.conditionList.any fun condition =>
    lowered condition.type == "ready" && lowered condition.status == "true"

/-- The statuses of the containers, then of the init containers. -/
def statusList (pod : Pod) : List ContainerStatus :=
  (pod.status.bind (·.containerStatuses)).getD [] ++
    (pod.status.map (·.initContainerStatuses)).getD []

/-- The declared containers, then the init containers, each with whether it is one. -/
def containerList (pod : Pod) : List (Container × Bool) :=
  ((pod.spec.map (·.containers)).getD []).map (·, false) ++
    ((pod.spec.map (·.initContainers)).getD []).map (·, true)

def nodeName? (pod : Pod) : Option String :=
  pod.spec.bind (·.node)

def phase? (pod : Pod) : Option String :=
  pod.status.bind (·.phase)

/-- The namespace of a pod; an absent one is empty. -/
def space (pod : Pod) : String :=
  (pod.metadata.bind (·.space)).getD ""

def nameText (pod : Pod) : String :=
  (pod.metadata.bind (·.name)).getD ""

/-- Namespace, kind and name of the first owner that controls the pod; absent parts are empty. -/
def controllerKey (pod : Pod) : ControllerKey where
  space := pod.space
  type := (pod.controller?.bind (·.kind)).getD ""
  name := (pod.controller?.bind (·.name)).getD ""

/-! ### The view of a scan -/

/-- A kept pod as a scan looks at it. -/
def listing (pod : Pod) : LivePod where
  spec := pod.spec.getD ⟨none, none, none, [], []⟩
  conditions := pod.conditionList
  statuses := pod.statusList

/-- A scan takes up exactly the kept pods, as they are listed. -/
theorem live?_eq (pod : Pod) : pod.live? = if pod.isKept then some pod.listing else none := by
  obtain ⟨metadata, spec, status⟩ := pod
  cases spec with
  | none => rfl
  | some spec =>
    cases status with
    | none => rfl
    | some status =>
      obtain ⟨_, _, _, _, conditions, statuses, _⟩ := status
      -- Conditions and statuses have to be known, both of them.
      cases conditions <;> cases statuses <;> rfl

@[simp]
theorem listing_isReady (pod : Pod) : pod.listing.isReady = pod.isReady := rfl

@[simp]
theorem listing_statuses (pod : Pod) : pod.listing.statuses = pod.statusList := rfl

@[simp]
theorem listing_containers (pod : Pod) : pod.listing.containers = pod.containerList := by
  rcases pod with ⟨_, _ | _, _⟩ <;> rfl

/-! ### The facts of a pod -/

section Facts

variable (pod : Pod) (now : Moment)

@[simp]
theorem observe_controllerKey : (PodFacts.observe pod now).controllerKey = pod.controllerKey := rfl

@[simp]
theorem observe_space : (PodFacts.observe pod now).space = pod.space := rfl

@[simp]
theorem observe_pod : (PodFacts.observe pod now).pod = pod.nameText := rfl

theorem observe_node : (PodFacts.observe pod now).node = pod.nodeName?.getD "" := rfl

/-- An absent phase counts like an empty one. -/
theorem lowered_observe_phase :
    lowered (some (PodFacts.observe pod now).phase) = lowered pod.phase? := by
  simp only [PodFacts.observe, phase?]
  cases pod.status.bind (·.phase) <;> rfl

/-- Only a pod that is declared for a named node has the name in its facts. -/
theorem observe_node_eq_iff {name : String} (named : name ≠ "") :
    (PodFacts.observe pod now).node = name ↔ pod.nodeName? = some name := by
  rw [observe_node]
  cases pod.nodeName? with
  | none => simpa using named.symm
  | some node => simp

end Facts
end Pod
end ClusterCensus
