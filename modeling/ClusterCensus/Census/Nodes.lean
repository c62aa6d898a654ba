import ClusterCensus.Census.Usage
import ClusterCensus.Observe.Node

/-!
# Taking a census of pods and nodes

Pods are visited in the order they are listed. A pod that has been looked at by the cluster counts
in the tallies of its node and of its controller, with all its container statuses. Each declared
container that has a name, an image, declared resources, a status and a reported usage becomes a
record and counts in the container tally of the node.

A controller's tally is complete only after the last pod, so records are settled at the end: each
takes the tally of its controller. The nodes are visited then. A node has a record when it has a
name, is declared and observed, and its usage is reported. The record carries the tallies that the
pods left for the node's name; a node without pods has tallies of zero.
-/
namespace ClusterCensus

/-! ### Pods -/

/-- A pod whose declaration and conditions are known. -/
structure LivePod where
  spec : PodSpec
  conditions : List PodCondition
  /-- Statuses of the containers, then of the init containers. -/
  statuses : List ContainerStatus

/-- The pod as far as it can be scanned. -/
def Pod.live? (pod : Pod) : Option LivePod := do
  let spec ← pod.spec
  let status ← pod.status
  let conditions ← status.conditions
  let statuses ← status.containerStatuses
  return ⟨spec, conditions, statuses ++ status.initContainerStatuses⟩

namespace LivePod

def saysReady (condition : PodCondition) : Bool :=
  lowered condition.type == "ready" && lowered condition.status == "true"

def isReady (live : LivePod) : Bool :=
  live.conditions.any saysReady

/-- The declared containers, each with whether it is an init container. -/
def containers (live : LivePod) : List (Container × Bool) :=
  live.spec.containers.map (·, false) ++ live.spec.initContainers.map (·, true)

/-- The statuses by name; of several with one name the last holds. -/
def statusTable (live : LivePod) : Table (Option String) ContainerStatus :=
  Table.ofBindings (live.statuses.map fun status => (status.name, status))

end LivePod

def ControllerTally.addStatus (tally : ControllerTally) (status : ContainerStatus) :
    ControllerTally :=
  if status.ready.getD false then tally.addContainer.addReadyContainer else tally.addContainer

/-- Counts a pod with all its container statuses. -/
def ControllerTally.addLivePod (tally : ControllerTally) (live : LivePod) : ControllerTally :=
  let counted := if live.isReady then tally.addReadyPod.addPod else tally.addPod
  live.statuses.foldl addStatus counted

/-- Records and tallies gathered so far. -/
structure Census where
  records : List ContainerRecord := []
  controllers : Table ControllerKey ControllerTally := {}
  nodePods : Table String PodTally := {}
  nodeContainers : Table String ContainerTally := {}

namespace Census

/-- Counts a pod in the tallies of its node and its controller. -/
def countPod (census : Census) (facts : PodFacts) (live : LivePod) : Census :=
  { census with
    nodePods := census.nodePods.adjust facts.node {} fun tally => tally.add (some facts.phase)
    controllers :=
      census.controllers.adjust facts.controllerKey {} fun tally => tally.addLivePod live }

/-- Adds a record, and counts its container in the tally of its node. -/
def addRecord (census : Census) (record : ContainerRecord) (isInit : Bool) : Census :=
  { census with
    records := census.records ++ [record]
    nodeContainers := census.nodeContainers.adjust record.pod.node {} fun tally =>
      tally.add (some record.container.state) record.container.ready isInit }

/-- The status and the usage of a declared container, when it is to have a record. -/
def match? (usage : UsageIndex) (facts : PodFacts)
    (statuses : Table (Option String) ContainerStatus) (container : Container) :
    Option (ContainerStatus × Value) := do
  let name ← container.name
  if name.isEmpty || container.image.isNone || container.resources.isNone then none
  else
    let status ← statuses.find? (some name)
    let reported ← usage.container? facts.space facts.pod name
    return (status, reported)

def observe (container : Container) (status : ContainerStatus) (reported : Value)
    (now : Moment) : Noted ContainerFacts := do
  let cpu ← Trace.ofExcept (UsageIndex.quantity reported "cpu")
  let memory ← Trace.ofExcept (UsageIndex.quantity reported "memory")
  ContainerFacts.observe container status status.state cpu memory now

def visitContainer (usage : UsageIndex) (now : Moment) (facts : PodFacts)
    (statuses : Table (Option String) ContainerStatus) (census : Census)
    (declared : Container × Bool) : Noted Census :=
  match match? usage facts statuses declared.1 with
  | none => pure census
  | some (status, reported) => do
    let container ← observe declared.1 status reported now
    return census.addRecord ⟨facts, container, {}⟩ declared.2

def visitPod (usage : UsageIndex) (now : Moment) (census : Census) (pod : Pod) (live : LivePod) :
    Noted Census :=
  let facts := PodFacts.observe pod now
  Trace.thread (visitContainer usage now facts live.statusTable)
    (census.countPod facts live) live.containers

/-- A record with the tally of its controller, as far as that is known. -/
def settle (controllers : Table ControllerKey ControllerTally) (record : ContainerRecord) :
    ContainerRecord :=
  match controllers.find? record.pod.controllerKey with
  | some tally => { record with controller := tally }
  | none => record

def settled (census : Census) : List ContainerRecord :=
  census.records.map (settle census.controllers)

end Census

/-! ### Nodes -/

/-- The name of a node that can have a record. -/
def Node.recordName? (node : Node) : Option String :=
  if node.spec.isSome && node.status.isSome then node.name?.filter fun name => !name.isEmpty
  else none

namespace Census

def observeNode (census : Census) (now : Moment) (node : Node) (name : String)
    (reported : Value) : Noted NodeRecord := do
  let cpu ← Trace.ofExcept (UsageIndex.quantity reported "cpu")
  let memory ← Trace.ofExcept (UsageIndex.quantity reported "memory")
  NodeRecord.observe node ((census.nodePods.find? name).getD {})
    ((census.nodeContainers.find? name).getD {}) cpu memory now

def visitNode (usage : UsageIndex) (now : Moment) (census : Census) (node : Node) :
    Noted (Option NodeRecord) :=
  match node.recordName? with
  | none => pure none
  | some name =>
    match usage.node? name with
    | none => do
      Trace.tell (.noNodeUsage name)
      return none
    | some reported => do
      let record ← census.observeNode now node name reported
      return some record

end Census

end ClusterCensus
