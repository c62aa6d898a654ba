import ClusterCensus.Time.Moment
import ClusterCensus.Value.Basic

/-!
# Pods

Pods as the cluster lists them. Almost every part may be missing; a list that is missing counts as
empty except where its absence says that the pod has not been looked at yet.
-/
namespace ClusterCensus

structure OwnerReference where
  name : Option String
  kind : Option String
  /-- The owner manages the object; others merely refer to it. -/
  controls : Bool
deriving Inhabited

structure PodMetadata where
  name : Option String
  space : Option String
  owners : List OwnerReference
deriving Inhabited

/-- Declared bounds, by resource name. -/
structure Resources where
  limits : Fields
  requests : Fields
deriving Inhabited

/-- A container as it is declared. -/
structure Container where
  name : Option String
  image : Option String
  resources : Option Resources
deriving Inhabited

/-- A running life of a container. -/
structure Running where
  startedAt : Option Moment
deriving Inhabited

/-- A finished life of a container. -/
structure Terminated where
  reason : Option String
  startedAt : Option Moment
  finishedAt : Option Moment
deriving Inhabited

structure Waiting where
  reason : Option String
deriving Inhabited

/-- The state of a container; nothing forbids several parts to be present at once. -/
structure ContainerState where
  running : Option Running
  terminated : Option Terminated
  waiting : Option Waiting
deriving Inhabited

/-- A container as it is observed. -/
structure ContainerStatus where
  name : Option String
  ready : Option Bool
  restartCount : Option Int
  state : Option ContainerState
  lastState : Option ContainerState
deriving Inhabited

/-- What a pod declares. -/
structure PodSpec where
  node : Option String
  priority : Option Int
  priorityClass : Option String
  containers : List Container
  initContainers : List Container
deriving Inhabited

structure PodCondition where
  type : Option String
  status : Option String
deriving Inhabited

/-- What is observed of a pod. -/
structure PodStatus where
  phase : Option String
  ip : Option String
  qosClass : Option String
  startTime : Option Moment
  conditions : Option (List PodCondition)
  containerStatuses : Option (List ContainerStatus)
  initContainerStatuses : List ContainerStatus
deriving Inhabited

structure Pod where
  metadata : Option PodMetadata
  spec : Option PodSpec
  status : Option PodStatus
deriving Inhabited

end ClusterCensus
