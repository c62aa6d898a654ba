import ClusterCensus.Fault
import ClusterCensus.Trace

/-!
# Notes

What the collector tells its operator while it works. A note is recorded by its cause; the part
of the collector that speaks, the level and the wording follow from it.
-/
namespace ClusterCensus

open ClusterCensus.Text

inductive Level where
  | debug
  | info
  | warning
  | error
deriving DecidableEq

def Level.name : Level → String
  | debug => "DEBUG"
  | info => "INFO"
  | warning => "WARNING"
  | error => "ERROR"

/-- The part of the collector that a note comes from. -/
inductive Part where
  | quantities
  | gateway
  | cycles
  | service
deriving DecidableEq

/-- What the collector has to tell. -/
inductive Note where
  | unknownCpuUnit (unit quantity : String)
  | unknownMemoryUnit (unit quantity : String)
  | credentialsFromCluster
  | credentialsFromFile
  | gatewayUnconfigured (reason : String)
  | noNodeUsage (node : String)
  | recordDropped (cause : Fault)
  | cycleComplete (podRecords nodeRecords podsSkipped : Int)
  | watchStarted (seconds : Nat)
  | cycleFailed (fault : CycleFault)
  | watchStopped
  | serviceStarting (listenPort : Int)
  | collectionDisabled
  | collectionUnconfigured
deriving DecidableEq

namespace Note

def part : Note → Part
  | unknownCpuUnit .. | unknownMemoryUnit .. => .quantities
  | credentialsFromCluster | credentialsFromFile | gatewayUnconfigured _ => .gateway
  | noNodeUsage _ | recordDropped _ | cycleComplete .. => .cycles
  | watchStarted _ | cycleFailed _ | watchStopped => .cycles
  | serviceStarting _ | collectionDisabled | collectionUnconfigured => .service

def level : Note → Level
  | unknownMemoryUnit .. | noNodeUsage _ => .debug
  | gatewayUnconfigured _ | recordDropped _ | collectionUnconfigured => .warning
  | unknownCpuUnit .. | cycleFailed _ => .error
  | _ => .info

/-- The failure that is reported along with the note. -/
def failure? : Note → Option CycleFault
  | cycleFailed fault => some fault
  | _ => none

def message : Note → String
  | unknownCpuUnit unit quantity =>
    s!"Unknown CPU unit {quoted unit} in quantity {quoted quantity}"
  | unknownMemoryUnit unit quantity =>
    s!"Unknown memory unit {quoted unit} in quantity {quoted quantity}"
  | credentialsFromCluster => "Loaded in-cluster Kubernetes config"
  | credentialsFromFile => "Loaded kubeconfig for local development"
  | gatewayUnconfigured reason => s!"Failed to configure Kubernetes client: {reason}"
  | noNodeUsage node => s!"No usage reported for node {node}"
  | recordDropped cause => s!"Failed to serialize record: {cause.message}"
  | cycleComplete podRecords nodeRecords podsSkipped =>
    s!"Cycle complete: {podRecords} pod records, {nodeRecords} node records" ++
      s!" ({podsSkipped} pods skipped)"
  | watchStarted seconds => s!"Starting metrics collection every {seconds}s"
  | cycleFailed (.fetchFailed _) => "Failed to gather metrics server info"
  | cycleFailed (.workFailed _) => "Metrics cycle failed"
  | watchStopped => "Metrics collection stopped"
  | serviceStarting listenPort => s!"Starting kube-stats-collector on port {listenPort}"
  | collectionDisabled => "Metrics collection disabled by COLLECTOR_ENABLED"
  | collectionUnconfigured =>
    "Kubernetes client is not configured; metrics collection disabled"

end Note

/-- Work that may leave notes and may stop at a fault. -/
abbrev Noted := Trace Note Fault

end ClusterCensus
