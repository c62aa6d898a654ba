import ClusterCensus.Record.Tally

/-!
# Container records

A container record has three parts: what is known of the pod, what is known of the container, and
the tally of the controller that owns the pod. On a line the parts follow one another; facts that
are absent or empty are left out, while zeros, false and the tally always stand.
-/
namespace ClusterCensus

structure PodFacts where
  space : String := ""
  pod : String := ""
  node : String := ""
  phase : String := ""
  ip : String := ""
  priority : Option Int := none
  priorityClass : String := ""
  qosClass : String := ""
  age : Option Int := none
  created : Option Int := none
  controller : String := ""
  controllerType : String := ""
  resource : String := "container"
  type : String := "metric"
deriving DecidableEq, Inhabited

/-- A controller is known by its namespace, its type and its name. -/
structure ControllerKey where
  space : String
  type : String
  name : String
deriving DecidableEq

namespace PodFacts

def controllerKey (p : PodFacts) : ControllerKey :=
  ⟨p.space, p.controllerType, p.controller⟩

/-- All facts, in the order of the line. -/
def allFields (p : PodFacts) : Fields :=
  [("namespace", .text p.space), ("pod", .text p.pod), ("node", .text p.node),
   ("phase", .text p.phase), ("ip", .text p.ip), ("priority", .ofInt? p.priority),
   ("priority_class", .text p.priorityClass), ("qos_class", .text p.qosClass),
   ("pod_age", .ofInt? p.age), ("created", .ofInt? p.created),
   ("controller", .text p.controller), ("controller_type", .text p.controllerType),
   ("resource", .text p.resource), ("type", .text p.type)]

def fields (p : PodFacts) : Fields :=
  Fields.compact p.allFields

end PodFacts

structure ContainerFacts where
  container : String
  state : String
  ready : Bool
  restarts : Int
  cpuUsage : Int
  memoryUsage : Int
  image : String := ""
  imageTag : String := ""
  age : Option Int := some 0
  started : Option Int := some 0
  lastState : String := ""
  lastReason : String := ""
  lastStarted : Option Int := none
  lastFinished : Option Int := none
  cpuLimit : Option Int := none
  cpuRequest : Option Int := none
  memoryLimit : Option Int := none
  memoryRequest : Option Int := none
deriving DecidableEq, Inhabited

namespace ContainerFacts

/-- All facts, in the order of the line. -/
def allFields (c : ContainerFacts) : Fields :=
  [("container", .text c.container), ("state", .text c.state), ("ready", .bool c.ready),
   ("restarts", .int c.restarts), ("cpu_usage", .int c.cpuUsage),
   ("memory_usage", .int c.memoryUsage), ("image", .text c.image), ("image_tag", .text c.imageTag),
   ("container_age", .ofInt? c.age), ("started", .ofInt? c.started),
   ("last_state", .text c.lastState), ("last_reason", .text c.lastReason),
   ("last_started", .ofInt? c.lastStarted), ("last_finished", .ofInt? c.lastFinished),
   ("cpu_limit", .ofInt? c.cpuLimit), ("cpu_request", .ofInt? c.cpuRequest),
   ("memory_limit", .ofInt? c.memoryLimit), ("memory_request", .ofInt? c.memoryRequest)]

def fields (c : ContainerFacts) : Fields :=
  Fields.compact c.allFields

end ContainerFacts

structure ContainerRecord where
  pod : PodFacts
  container : ContainerFacts
  controller : ControllerTally := {}
deriving DecidableEq, Inhabited

/-- The record as it stands on a line. -/
def ContainerRecord.fields (r : ContainerRecord) : Fields :=
  r.pod.fields ++ r.container.fields ++ r.controller.fields

end ClusterCensus
