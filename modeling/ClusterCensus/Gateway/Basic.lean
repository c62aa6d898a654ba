import ClusterCensus.Cluster.Node
import ClusterCensus.Cluster.Pod
import ClusterCensus.Gateway.Metrics
import ClusterCensus.Note

/-!
# The gateway to a cluster

A gateway is configured when credentials are found, either inside the cluster or in a file. It
asks for four lists. Every question that is put is an event, also one that is refused; without
credentials none is put.
-/
namespace ClusterCensus

/-- What came of looking for credentials in one place. -/
inductive Credentials where
  | found
  | missing (reason : String)
  | unreadable (reason : String)

inductive MetricsKind where
  | pods
  | nodes
deriving DecidableEq

namespace MetricsKind

/-- The group that serves metrics. -/
def group : String := "metrics.k8s.io"

/-- The version of the group that the collector reads. -/
def version : String := "v1beta1"

def name : MetricsKind → String
  | pods => "PodMetrics"
  | nodes => "NodeMetrics"

/-- The plural that requests for a kind of metrics use. -/
def plural : MetricsKind → String
  | pods => "pods"
  | nodes => "nodes"

def find? (inGroup kind : String) : Option MetricsKind :=
  [pods, nodes].find? fun candidate => inGroup == group && kind == candidate.name

end MetricsKind

/-- A question to the cluster, with the seconds that it may take. -/
inductive Request where
  | pods (timeout : Int)
  | nodes (timeout : Int)
  | metrics (kind : MetricsKind) (version : String) (timeout : Int)
deriving DecidableEq

/-- What the cluster answers: a value, or the reason why it refuses. -/
abbrev Answer := Except String

/-- What the cluster answers to each question. -/
structure Cluster where
  pods : Answer (List Pod)
  nodes : Answer (List Node)
  metrics : MetricsKind → Answer Value

/-- Everything a cycle works on. -/
structure Snapshot where
  pods : List Pod
  nodes : List Node
  podMetrics : List MetricsItem
  nodeMetrics : List MetricsItem

structure Gateway where
  configured : Bool
  timeout : Int
deriving DecidableEq, Inhabited

namespace Gateway

/-- Looks for credentials inside the cluster, then in a file. -/
def connect (inCluster fromFile : Credentials) (timeout : Int) : Noted Gateway :=
  match inCluster, fromFile with
  | .found, _ => do
    Trace.tell .credentialsFromCluster
    return ⟨true, timeout⟩
  | .unreadable reason, _ => .fail (.unreadableCredentials reason)
  | .missing _, .found => do
    Trace.tell .credentialsFromFile
    return ⟨true, timeout⟩
  | .missing _, .missing reason => do
    Trace.tell (.gatewayUnconfigured reason)
    return ⟨false, timeout⟩
  | .missing _, .unreadable reason => .fail (.unreadableCredentials reason)

def ask {α : Type} (gateway : Gateway) (request : Request) (answer : Answer α) :
    Trace Request Fault α :=
  if gateway.configured then ⟨[request], answer.mapError .fetchRefused⟩
  else .fail .unconfigured

def listPods {α : Type} (gateway : Gateway) (answer : Answer α) : Trace Request Fault α :=
  gateway.ask (.pods gateway.timeout) answer

def listNodes {α : Type} (gateway : Gateway) (answer : Answer α) : Trace Request Fault α :=
  gateway.ask (.nodes gateway.timeout) answer

def listMetrics (gateway : Gateway) (group version kind : String)
    (answers : MetricsKind → Answer Value) : Trace Request Fault (List MetricsItem) :=
  match MetricsKind.find? group kind with
  | none => .fail (.unknownResource group version kind)
  | some metrics => do
    let response ← gateway.ask (.metrics metrics version gateway.timeout) (answers metrics)
    Trace.ofExcept (MetricsItem.ofResponse response)

/-- Asks for everything a cycle works on; the first failure ends the questions. -/
def snapshot (gateway : Gateway) (cluster : Cluster) : Trace Request Fault Snapshot := do
  let pods ← gateway.listPods cluster.pods
  let nodes ← gateway.listNodes cluster.nodes
  let podMetrics ←
    gateway.listMetrics MetricsKind.group MetricsKind.version MetricsKind.pods.name cluster.metrics
  let nodeMetrics ←
    gateway.listMetrics MetricsKind.group MetricsKind.version MetricsKind.nodes.name cluster.metrics
  return ⟨pods, nodes, podMetrics, nodeMetrics⟩

end Gateway
end ClusterCensus
