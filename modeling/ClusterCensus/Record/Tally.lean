import ClusterCensus.Text.Case
import ClusterCensus.Value.Basic

/-!
# Tallies

Counters that are kept while a cluster is scanned: for every controller the pods and containers it
owns, for every node the pods by phase and the containers by state. Phases and states are compared
in lower case. A pod of a phase that is not known is counted as unknown; a container of a state
that is not known is not counted.
-/
namespace ClusterCensus

open ClusterCensus.Text

/-- A string in lower case; an absent one is empty. -/
def lowered (s : Option String) : String :=
  String.ofList (lower (s.getD "").toList)

/-- Pods and containers of a controller. -/
structure ControllerTally where
  podsTotal : Int := 0
  podsReady : Int := 0
  containersTotal : Int := 0
  containersReady : Int := 0
deriving DecidableEq, Inhabited

namespace ControllerTally

def addPod (t : ControllerTally) : ControllerTally :=
  { t with podsTotal := t.podsTotal + 1 }

def addReadyPod (t : ControllerTally) : ControllerTally :=
  { t with podsReady := t.podsReady + 1 }

def addContainer (t : ControllerTally) : ControllerTally :=
  { t with containersTotal := t.containersTotal + 1 }

def addReadyContainer (t : ControllerTally) : ControllerTally :=
  { t with containersReady := t.containersReady + 1 }

def fields (t : ControllerTally) : Fields :=
  [("pods_total", .int t.podsTotal), ("pods_ready", .int t.podsReady),
   ("containers_total", .int t.containersTotal), ("containers_ready", .int t.containersReady)]

end ControllerTally

/-- Pods of a node, by phase. -/
structure PodTally where
  failed : Int := 0
  pending : Int := 0
  running : Int := 0
  succeeded : Int := 0
  unknown : Int := 0
  total : Int := 0
deriving DecidableEq, Inhabited

namespace PodTally

/-- Counts a phase in lower case in its bucket. -/
def bump (t : PodTally) (phase : String) : PodTally :=
  if phase = "failed" then { t with failed := t.failed + 1 }
  else if phase = "pending" then { t with pending := t.pending + 1 }
  else if phase = "running" then { t with running := t.running + 1 }
  else if phase = "succeeded" then { t with succeeded := t.succeeded + 1 }
  else { t with unknown := t.unknown + 1 }

/-- One more pod of the given phase. -/
def add (t : PodTally) (phase : Option String) : PodTally :=
  { t with total := t.total + 1 }.bump (lowered phase)

def fields (t : PodTally) : Fields :=
  [("pods_failed", .int t.failed), ("pods_pending", .int t.pending),
   ("pods_running", .int t.running), ("pods_succeeded", .int t.succeeded),
   ("pods_unknown", .int t.unknown), ("pods_total", .int t.total)]

end PodTally

/-- Containers of a node, by state. -/
structure ContainerTally where
  init : Int := 0
  ready : Int := 0
  running : Int := 0
  terminated : Int := 0
  waiting : Int := 0
  total : Int := 0
deriving DecidableEq, Inhabited

namespace ContainerTally

/-- Counts a state in lower case in its bucket; only running containers can be ready. -/
def bump (t : ContainerTally) (state : String) (ready : Bool) : ContainerTally :=
  if state = "waiting" then { t with waiting := t.waiting + 1, total := t.total + 1 }
  else if state = "terminated" then { t with terminated := t.terminated + 1, total := t.total + 1 }
  else if state = "running" then
    { t with
      running := t.running + 1
      total := t.total + 1
      ready := if ready then t.ready + 1 else t.ready }
  else t

/-- One more container, in the given state. -/
def add (t : ContainerTally) (state : Option String) (ready isInit : Bool) : ContainerTally :=
  { t with init := if isInit then t.init + 1 else t.init }.bump (lowered state) ready

def fields (t : ContainerTally) : Fields :=
  [("containers_init", .int t.init), ("containers_ready", .int t.ready),
   ("containers_running", .int t.running), ("containers_terminated", .int t.terminated),
   ("containers_waiting", .int t.waiting), ("containers_total", .int t.total)]

end ContainerTally
end ClusterCensus
