import ClusterCensus.Record.Tally

/-!
# Node records

A node record holds what is known of the node itself, followed by the tallies of its pods and
containers. The same facts are left out as in a container record: absent and empty ones.
-/
namespace ClusterCensus

/-- What a record says of the condition that tells whether a node is ready. -/
structure Readiness where
  ready : Bool := false
  status : String := ""
  message : String := ""
  heartbeatAge : Option Int := none
  heartbeatTime : Option Int := none
  transitionAge : Option Int := none
  transitionTime : Option Int := none
deriving DecidableEq, Inhabited

structure NodeRecord where
  node : String
  pods : PodTally := {}
  containers : ContainerTally := {}
  cpuUsage : Int := 0
  memoryUsage : Int := 0
  age : Option Int := none
  created : Option Int := none
  containerRuntimeVersion : String := ""
  kernelVersion : String := ""
  kubeletVersion : String := ""
  osImage : String := ""
  ip : String := ""
  ipExternal : String := ""
  cpuAllocatable : Option Int := none
  cpuCapacity : Option Int := none
  memoryAllocatable : Option Int := none
  memoryCapacity : Option Int := none
  podsAllocatable : Option Int := none
  podsCapacity : Option Int := none
  readiness : Readiness := {}
  unschedulable : Bool := false
  resource : String := "node"
  type : String := "metric"
deriving DecidableEq, Inhabited

namespace NodeRecord

/-- All facts of the node itself, in the order of the line. -/
def allFields (n : NodeRecord) : Fields :=
  [("node", .text n.node), ("cpu_usage", .int n.cpuUsage), ("memory_usage", .int n.memoryUsage),
   ("age", .ofInt? n.age), ("created", .ofInt? n.created),
   ("container_runtime_version", .text n.containerRuntimeVersion),
   ("kernel_version", .text n.kernelVersion), ("kubelet_version", .text n.kubeletVersion),
   ("os_image", .text n.osImage), ("ip", .text n.ip), ("ip_external", .text n.ipExternal),
   ("cpu_allocatable", .ofInt? n.cpuAllocatable), ("cpu_capacity", .ofInt? n.cpuCapacity),
   ("memory_allocatable", .ofInt? n.memoryAllocatable),
   ("memory_capacity", .ofInt? n.memoryCapacity),
   ("pods_allocatable", .ofInt? n.podsAllocatable), ("pods_capacity", .ofInt? n.podsCapacity),
   ("ready", .bool n.readiness.ready), ("ready_status", .text n.readiness.status),
   ("ready_message", .text n.readiness.message),
   ("ready_heartbeat_age", .ofInt? n.readiness.heartbeatAge),
   ("ready_heartbeat_time", .ofInt? n.readiness.heartbeatTime),
   ("ready_transition_age", .ofInt? n.readiness.transitionAge),
   ("ready_transition_time", .ofInt? n.readiness.transitionTime),
   ("unschedulable", .bool n.unschedulable), ("resource", .text n.resource),
   ("type", .text n.type)]

def fields (n : NodeRecord) : Fields :=
  Fields.compact n.allFields ++ n.pods.fields ++ n.containers.fields

end NodeRecord
end ClusterCensus
