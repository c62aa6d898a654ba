import ClusterCensus.Observe.Pod
import ClusterCensus.Proofs.Trace

/-!
# What an observed container consists of

Observing a container reads six quantities, and then puts its facts together. Only the quantities
can stop the observation, and they are read from the bounds of the container and from its usage, so
name, image, status and states decide nothing but the facts that show them.

## Main result

`ContainerFacts.observe_eq`: an observation is the reading of the quantities, followed by facts.
-/
namespace ClusterCensus

structure ContainerAmounts where
  cpuUsage : Int
  cpuLimit : Option Int
  cpuRequest : Option Int
  memoryUsage : Int
  memoryLimit : Option Int
  memoryRequest : Option Int

namespace ContainerAmounts

/-- Reads the quantities, in the order in which they are looked at. -/
def read (bounds : Resources) (cpuUsage memoryUsage : String) : Noted ContainerAmounts := do
  let cpu ← Quantity.millicores cpuUsage.toList
  let cpuLimit ← declared Quantity.millicores (bounds.limits.get "cpu")
  let cpuRequest ← declared Quantity.millicores (bounds.requests.get "cpu")
  let memory ← Quantity.bytes memoryUsage.toList
  let memoryLimit ← declared Quantity.bytes (bounds.limits.get "memory")
  let memoryRequest ← declared Quantity.bytes (bounds.requests.get "memory")
  return ⟨cpu, cpuLimit, cpuRequest, memory, memoryLimit, memoryRequest⟩

def facts (amounts : ContainerAmounts) (container : Container) (status : ContainerStatus)
    (state : Option ContainerState) (now : Moment) : ContainerFacts :=
  let since := runningSince state
  let image := Image.split (container.image.getD "")
  let last := distinctLastLife? (currentStage state) status.lastState
  { container := container.name.getD ""
    state := (currentStage state).name
    ready := status.ready.getD false
    restarts := status.restartCount.getD 0
    cpuUsage := amounts.cpuUsage
    memoryUsage := amounts.memoryUsage
    image := image.1
    imageTag := image.2
    age := some ((since.map fun start => start.millisBetween now).getD 0)
    started := some ((since.map (·.epochMillis)).getD 0)
    lastState := (last.map (·.stage.name)).getD ""
    lastReason := (last.map (·.reason)).getD ""
    lastStarted := last.bind (·.started)
    lastFinished := last.bind (·.finished)
    cpuLimit := amounts.cpuLimit
    cpuRequest := amounts.cpuRequest
    memoryLimit := amounts.memoryLimit
    memoryRequest := amounts.memoryRequest }

end ContainerAmounts

namespace ContainerFacts

variable {container : Container} {status : ContainerStatus} {state : Option ContainerState}
  {cpuUsage memoryUsage : String} {now : Moment} {facts : ContainerFacts}

theorem observe_eq : observe container status state cpuUsage memoryUsage now =
    (ContainerAmounts.read container.bounds cpuUsage memoryUsage).andThen fun amounts =>
      pure (amounts.facts container status state now) := by
  simp only [observe, ContainerAmounts.read, Trace.bind_eq_andThen, Trace.andThen_assoc,
    Trace.pure_andThen, ContainerAmounts.facts]

/-- What has been observed are facts with quantities that could be read. -/
theorem observe_ok_iff :
    (observe container status state cpuUsage memoryUsage now).outcome = .ok facts ↔
      ∃ amounts, (ContainerAmounts.read container.bounds cpuUsage memoryUsage).outcome =
          .ok amounts ∧ facts = amounts.facts container status state now := by
  rw [observe_eq, ← Trace.bind_eq_andThen, Trace.bind_outcome_ok_iff]
  simp only [Trace.pure_outcome, Except.ok.injEq, eq_comm]

end ContainerFacts
end ClusterCensus
