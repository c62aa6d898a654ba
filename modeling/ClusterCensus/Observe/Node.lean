import ClusterCensus.Cluster.Node
import ClusterCensus.Observe.Pod
import ClusterCensus.Quantity.Count
import ClusterCensus.Record.Node

/-!
# Observing a node

The facts of one node at a moment. Readiness is taken from the first condition of that type, an
address from the last address of its type. Processor capacities are whole cores and become
millicores; a capacity that is not a plain integer is left out.
-/
namespace ClusterCensus

def Node.name? (node : Node) : Option String :=
  node.metadata.bind (·.name)

def Node.createdAt? (node : Node) : Option Moment :=
  node.metadata.bind (·.createdAt)

/-- The address of a node of a given type, written in lower case: the last one listed. -/
def addressOf (type : String) (addresses : List NodeAddress) : String :=
  ((addresses.reverse.find? fun a => lowered a.type = type).bind (·.address)).getD ""

/-- What a condition says of the readiness of its node. -/
def Readiness.ofCondition (condition : NodeCondition) (now : Moment) : Readiness :=
  { ready := lowered condition.status = "true"
    status := condition.status.getD ""
    message := condition.message.getD ""
    heartbeatAge := condition.heartbeatAt.map fun moment => moment.millisBetween now
    heartbeatTime := condition.heartbeatAt.map (·.epochSeconds)
    transitionAge := condition.transitionAt.map fun moment => moment.millisBetween now
    transitionTime := condition.transitionAt.map (·.epochSeconds) }

/-- The readiness of a node: that of the first condition of this type. -/
def Readiness.observe (conditions : List NodeCondition) (now : Moment) : Readiness :=
  match conditions.find? fun c => lowered c.type = "ready" with
  | some condition => .ofCondition condition now
  | none => {}

/-- Whole cores as millicores. -/
def coreMillis (value : Value) : Option Int :=
  (Quantity.count? value).map (· * 1000)

/-- The status of a node; a node without one has an empty status. -/
def Node.statusOrEmpty (node : Node) : NodeStatus :=
  node.status.getD ⟨none, [], [], [], []⟩

/-- The facts of a node at a moment, with the tallies of its pods and containers. -/
def NodeRecord.observe (node : Node) (pods : PodTally) (containers : ContainerTally)
    (cpuUsage memoryUsage : String) (now : Moment) : Noted NodeRecord := do
  let status := node.statusOrEmpty
  let memoryAllocatable ← declared Quantity.bytes (status.allocatable.get "memory")
  let memoryCapacity ← declared Quantity.bytes (status.capacity.get "memory")
  let cpu ← Quantity.millicores cpuUsage.toList
  let memory ← Quantity.bytes memoryUsage.toList
  return {
    node := node.name?.getD ""
    pods := pods
    containers := containers
    cpuUsage := cpu
    memoryUsage := memory
    age := node.createdAt?.map fun moment => moment.millisBetween now
    created := node.createdAt?.map (·.epochSeconds)
    containerRuntimeVersion := (status.info.bind (·.containerRuntimeVersion)).getD ""
    kernelVersion := (status.info.bind (·.kernelVersion)).getD ""
    kubeletVersion := (status.info.bind (·.kubeletVersion)).getD ""
    osImage := (status.info.bind (·.osImage)).getD ""
    ip := addressOf "internalip" status.addresses
    ipExternal := addressOf "externalip" status.addresses
    cpuAllocatable := coreMillis (status.allocatable.get "cpu")
    cpuCapacity := coreMillis (status.capacity.get "cpu")
    memoryAllocatable := memoryAllocatable
    memoryCapacity := memoryCapacity
    podsAllocatable := Quantity.count? (status.allocatable.get "pods")
    podsCapacity := Quantity.count? (status.capacity.get "pods")
    readiness := Readiness.observe status.conditions now
    unschedulable := (node.spec.bind (·.unschedulable)).getD false }

end ClusterCensus
