import ClusterCensus.Time.Moment
import ClusterCensus.Value.Basic

/-!
# Nodes

Nodes as the cluster lists them, with the same freedom as pods to leave parts out.
-/
namespace ClusterCensus

structure NodeMetadata where
  name : Option String
  createdAt : Option Moment
deriving Inhabited

/-- What is declared of a node. -/
structure NodeSpec where
  unschedulable : Option Bool
deriving Inhabited

/-- The software of a node. -/
structure NodeInfo where
  containerRuntimeVersion : Option String
  kernelVersion : Option String
  kubeletVersion : Option String
  osImage : Option String
deriving Inhabited

structure NodeAddress where
  type : Option String
  address : Option String
deriving Inhabited

structure NodeCondition where
  type : Option String
  status : Option String
  message : Option String
  heartbeatAt : Option Moment
  transitionAt : Option Moment
deriving Inhabited

/-- What is observed of a node. -/
structure NodeStatus where
  info : Option NodeInfo
  addresses : List NodeAddress
  allocatable : Fields
  capacity : Fields
  conditions : List NodeCondition
deriving Inhabited

structure Node where
  metadata : Option NodeMetadata
  spec : Option NodeSpec
  status : Option NodeStatus
deriving Inhabited

end ClusterCensus
