import ClusterCensus.Observe.Node
import ClusterCensus.Proofs.Trace
import Mathlib.Control.Monad.Basic

/-!
# Where the facts of a node come from

The readiness of a node is told by one condition, the first of its type, and each of its addresses
by one entry, the last of its type. What precedes the first condition or follows it, and entries of
other types, are not looked at: they can be added anywhere without a trace.

## Main result

`node_facts_have_one_source`: readiness, ages, addresses and tallies of a node that has been
observed, and what makes no difference to them.
-/
namespace ClusterCensus

/-! ### The first condition -/

namespace Readiness

/-- Everything that is told of readiness comes from one condition. -/
structure Tells (r : Readiness) (c : NodeCondition) (now : Moment) : Prop where
  ready : r.ready = true ↔ lowered c.status = "true"
  status : r.status = c.status.getD ""
  message : r.message = c.message.getD ""
  heartbeatAge : r.heartbeatAge = c.heartbeatAt.map fun moment => moment.millisBetween now
  heartbeatTime : r.heartbeatTime = c.heartbeatAt.map (·.epochSeconds)
  transitionAge : r.transitionAge = c.transitionAt.map fun moment => moment.millisBetween now
  transitionTime : r.transitionTime = c.transitionAt.map (·.epochSeconds)

/-- The readiness is that of the first condition of this type, or none is told. -/
structure IsOfFirst (r : Readiness) (conditions : List NodeCondition) (now : Moment) : Prop where
  first : ∀ before c after, conditions = before ++ c :: after →
    (∀ b ∈ before, lowered b.type ≠ "ready") → lowered c.type = "ready" → r.Tells c now
  absent : (∀ c ∈ conditions, lowered c.type ≠ "ready") → r = ⟨false, "", "", none, none, none, none⟩

variable {before after xs ys zs : List NodeCondition} {c : NodeCondition} (now : Moment)

theorem ofCondition_tells (c : NodeCondition) : (ofCondition c now).Tells c now :=
  ⟨by simp [ofCondition], rfl, rfl, rfl, rfl, rfl, rfl⟩

theorem observe_of_first (others : ∀ b ∈ before, lowered b.type ≠ "ready")
    (ready : lowered c.type = "ready") :
    observe (before ++ c :: after) now = ofCondition c now := by
  have passed : before.find? (fun c => lowered c.type = "ready") = none := by
    simpa [List.find?_eq_none] using others
  rw [observe, List.find?_append, passed, Option.none_or, List.find?_cons_of_pos (by simpa)]

/-- Readiness is that of the first ready condition, in any case of its letters. -/
theorem observe_isOfFirst (conditions : List NodeCondition) :
    (observe conditions now).IsOfFirst conditions now := by
  constructor
  · rintro before c after rfl others ready
    rw [observe_of_first now others ready]
    exact ofCondition_tells now c
  · intro others
    have passed : conditions.find? (fun c => lowered c.type = "ready") = none := by
      simpa [List.find?_eq_none] using others
    rw [observe, passed]

/-- Each of the two ages is known exactly where its time is. -/
theorem observe_ages (conditions : List NodeCondition) :
    ((observe conditions now).heartbeatAge.isSome ↔
        (observe conditions now).heartbeatTime.isSome) ∧
      ((observe conditions now).transitionAge.isSome ↔
        (observe conditions now).transitionTime.isSome) := by
  unfold observe
  split
  · simp [ofCondition]
  · simp

/-- Conditions of other types can stand anywhere. -/
theorem observe_insert (others : ∀ y ∈ ys, lowered y.type ≠ "ready") :
    observe (xs ++ ys ++ zs) now = observe (xs ++ zs) now := by
  have passed : ys.find? (fun c => lowered c.type = "ready") = none := by
    simpa [List.find?_eq_none] using others
  simp only [observe, List.find?_append, passed, Option.or_none]

/-- Behind a condition of the type anything can stand. -/
theorem observe_behind (ready : lowered c.type = "ready") (after after' : List NodeCondition) :
    observe (before ++ c :: after') now = observe (before ++ c :: after) now := by
  have stops (rest : List NodeCondition) :
      (c :: rest).find? (fun c => lowered c.type = "ready") = some c :=
    List.find?_cons_of_pos (by simpa)
  simp only [observe, List.find?_append, stops]

end Readiness

/-! ### The last address -/

/-- The address is that of the last entry of a type, or empty. -/
structure IsOfLast (address type : String) (addresses : List NodeAddress) : Prop where
  last : ∀ before a after, addresses = before ++ a :: after → lowered a.type = type →
    (∀ b ∈ after, lowered b.type ≠ type) → address = a.address.getD ""
  absent : (∀ a ∈ addresses, lowered a.type ≠ type) → address = ""

section Addresses

variable {type : String} {xs ys zs : List NodeAddress}

theorem find?_of_other (others : ∀ y ∈ ys, lowered y.type ≠ type) :
    ys.reverse.find? (fun a => lowered a.type = type) = none := by
  simpa [List.find?_eq_none] using others

/-- Of several addresses of one type the last is taken. -/
theorem addressOf_isOfLast (type : String) (addresses : List NodeAddress) :
    IsOfLast (addressOf type addresses) type addresses := by
  constructor
  · rintro before a after rfl own others
    rw [addressOf, List.reverse_append, List.reverse_cons, List.append_assoc, List.find?_append,
      find?_of_other others, Option.none_or, List.singleton_append,
      List.find?_cons_of_pos (by simpa)]
    rfl
  · intro others
    rw [addressOf, find?_of_other others]
    rfl

/-- Entries of other types can stand anywhere. -/
theorem addressOf_insert (others : ∀ y ∈ ys, lowered y.type ≠ type) :
    addressOf type (xs ++ ys ++ zs) = addressOf type (xs ++ zs) := by
  simp only [addressOf, List.reverse_append, List.find?_append, find?_of_other others,
    Option.none_or]

end Addresses

/-! ### Records -/

namespace NodeRecord

variable {node : Node} {pods : PodTally} {containers : ContainerTally}
  {cpuUsage memoryUsage : String} {now : Moment} {record : NodeRecord}

/-- What a record takes from where, quantities and descriptions apart. -/
structure HasSources (record : NodeRecord) (node : Node) (pods : PodTally)
    (containers : ContainerTally) (now : Moment) : Prop where
  name : record.node = node.name?.getD ""
  pods : record.pods = pods
  containers : record.containers = containers
  age : record.age = node.createdAt?.map fun moment => moment.millisBetween now
  created : record.created = node.createdAt?.map (·.epochSeconds)
  ip : record.ip = addressOf "internalip" node.statusOrEmpty.addresses
  ipExternal : record.ipExternal = addressOf "externalip" node.statusOrEmpty.addresses
  readiness : record.readiness = Readiness.observe node.statusOrEmpty.conditions now

theorem hasSources_of_observed
    (observed : (observe node pods containers cpuUsage memoryUsage now).outcome = .ok record) :
    record.HasSources node pods containers now := by
  obtain ⟨memoryAllocatable, -, observed⟩ := Trace.bind_outcome_ok_iff.mp observed
  obtain ⟨memoryCapacity, -, observed⟩ := Trace.bind_outcome_ok_iff.mp observed
  obtain ⟨cpu, -, observed⟩ := Trace.bind_outcome_ok_iff.mp observed
  obtain ⟨memory, -, observed⟩ := Trace.bind_outcome_ok_iff.mp observed
  rw [← Except.ok.inj observed]
  exact ⟨rfl, rfl, rfl, rfl, rfl, rfl, rfl, rfl⟩

/-- What stands in a status without being looked at: conditions of other types, conditions behind
one that tells of readiness, and, for each address, entries of other types. -/
structure Overlooks (observe : NodeStatus → Noted NodeRecord) (status : NodeStatus) : Prop where
  otherConditions : ∀ xs ys zs, status.conditions = xs ++ zs →
    (∀ y ∈ ys, lowered y.type ≠ "ready") →
      observe { status with conditions := xs ++ ys ++ zs } = observe status
  laterConditions : ∀ before c after after', status.conditions = before ++ c :: after →
    lowered c.type = "ready" →
      observe { status with conditions := before ++ c :: after' } = observe status
  otherAddresses : ∀ xs ys zs record record', status.addresses = xs ++ zs →
    (observe status).outcome = .ok record →
      (observe { status with addresses := xs ++ ys ++ zs }).outcome = .ok record' →
        ((∀ y ∈ ys, lowered y.type ≠ "internalip") → record'.ip = record.ip) ∧
          ((∀ y ∈ ys, lowered y.type ≠ "externalip") → record'.ipExternal = record.ipExternal)

/-- The conditions are looked at for readiness only. -/
theorem observe_conditions {status : NodeStatus} {conditions : List NodeCondition}
    (same : Readiness.observe conditions now = Readiness.observe status.conditions now) :
    observe { node with status := some { status with conditions := conditions } } pods containers
        cpuUsage memoryUsage now =
      observe { node with status := some status } pods containers cpuUsage memoryUsage now := by
  simp only [observe, Node.statusOrEmpty, Node.name?, Node.createdAt?, Option.getD_some, same]

/-- Conditions of other types, conditions behind the ready one and addresses of other types can be
added to any status. -/
theorem observe_overlooks (node : Node) (status : NodeStatus) (pods : PodTally)
    (containers : ContainerTally) (cpuUsage memoryUsage : String) (now : Moment) :
    Overlooks (fun s => observe { node with status := some s } pods containers cpuUsage memoryUsage
      now) status := by
  refine ⟨?_, ?_, ?_⟩
  · intro xs ys zs split others
    refine observe_conditions ?_
    rw [split]
    exact Readiness.observe_insert now others
  · intro before c after after' split ready
    refine observe_conditions ?_
    rw [split]
    exact Readiness.observe_behind now ready after after'
  · -- An entry of one type changes that address and keeps the other, so each is compared alone.
    intro xs ys zs record record' split observed observed'
    have sources := hasSources_of_observed observed
    have sources' := hasSources_of_observed observed'
    have addresses : Node.statusOrEmpty { node with status := some status } = status := rfl
    constructor
    · intro others
      rw [sources.ip, addresses, split, sources'.ip]
      exact addressOf_insert others
    · intro others
      rw [sources.ipExternal, addresses, split, sources'.ipExternal]
      exact addressOf_insert others

end NodeRecord

/-! ## Main result -/

/-- Readiness comes from the first condition of its type, each address from the last entry of its
type, an age goes with its time, and the tallies are those given. What else stands among the
conditions and addresses makes no difference. -/
theorem node_facts_have_one_source {node : Node} {pods : PodTally} {containers : ContainerTally}
    {cpuUsage memoryUsage : String} {now : Moment} {record : NodeRecord}
    (observed : (NodeRecord.observe node pods containers cpuUsage memoryUsage now).outcome =
      .ok record) :
    record.readiness.IsOfFirst node.statusOrEmpty.conditions now ∧
      ((record.readiness.heartbeatAge.isSome ↔ record.readiness.heartbeatTime.isSome) ∧
        (record.readiness.transitionAge.isSome ↔ record.readiness.transitionTime.isSome)) ∧
      (record.age.isSome ↔ node.createdAt?.isSome) ∧ (record.age.isSome ↔ record.created.isSome) ∧
      IsOfLast record.ip "internalip" node.statusOrEmpty.addresses ∧
      IsOfLast record.ipExternal "externalip" node.statusOrEmpty.addresses ∧
      record.pods = pods ∧ record.containers = containers ∧
      ∀ status, NodeRecord.Overlooks (fun s =>
        NodeRecord.observe { node with status := some s } pods containers cpuUsage memoryUsage now)
        status := by
  have sources := NodeRecord.hasSources_of_observed observed
  rw [sources.readiness, sources.age, sources.created, sources.ip, sources.ipExternal]
  refine ⟨Readiness.observe_isOfFirst now _, Readiness.observe_ages now _, ?_, ?_,
    addressOf_isOfLast _ _, addressOf_isOfLast _ _, sources.pods, sources.containers, ?_⟩
  · rw [Option.isSome_map]
  · rw [Option.isSome_map, Option.isSome_map]
  · intro status
    exact NodeRecord.observe_overlooks node status pods containers cpuUsage memoryUsage now

namespace Sample

/-- The condition that counts, of three. -/
def readyCondition : NodeCondition :=
  ⟨some "READY", some "True", some "kubelet is posting", some ⟨5000000, none⟩, none⟩

/-- A node with two conditions on readiness and two internal addresses. -/
def ambiguous : Node where
  metadata := some ⟨some "alpha", some ⟨0, none⟩⟩
  spec := none
  status := some {
    info := none
    addresses := [⟨some "InternalIP", some "10.0.0.1"⟩, ⟨some "Hostname", some "alpha"⟩,
      ⟨some "internalip", some "10.0.0.2"⟩]
    allocatable := []
    capacity := []
    conditions := [⟨some "MemoryPressure", some "False", none, none, some ⟨0, none⟩⟩,
      readyCondition, ⟨some "Ready", some "False", some "stopped", none, some ⟨0, none⟩⟩] }

def ambiguousRecord : NodeRecord where
  node := "alpha"
  pods := { running := 2, total := 2 }
  containers := { running := 3, total := 3 }
  age := some 9000
  created := some 0
  ip := "10.0.0.2"
  readiness := ⟨true, "True", "kubelet is posting", some 4000, some 5, none, none⟩

end Sample

/-- The first condition on readiness and the last internal address are told. -/
theorem node_facts_have_one_source_sample :
    (NodeRecord.observe Sample.ambiguous { running := 2, total := 2 } { running := 3, total := 3 }
        "" "" ⟨9000000, none⟩).outcome = .ok Sample.ambiguousRecord ∧
      Sample.ambiguousRecord.readiness.Tells Sample.readyCondition ⟨9000000, none⟩ ∧
      Sample.ambiguousRecord.ip = "10.0.0.2" := by
  have observed : (NodeRecord.observe Sample.ambiguous { running := 2, total := 2 }
      { running := 3, total := 3 } "" "" ⟨9000000, none⟩).outcome = .ok Sample.ambiguousRecord := by
    decide +kernel
  obtain ⟨readiness, -, -, -, ip, -⟩ := node_facts_have_one_source observed
  refine ⟨observed, readiness.first
    [⟨some "MemoryPressure", some "False", none, none, some ⟨0, none⟩⟩] Sample.readyCondition
    [⟨some "Ready", some "False", some "stopped", none, some ⟨0, none⟩⟩] rfl ?_ ?_,
    ip.last [⟨some "InternalIP", some "10.0.0.1"⟩, ⟨some "Hostname", some "alpha"⟩]
    ⟨some "internalip", some "10.0.0.2"⟩ [] rfl ?_ (by simp)⟩
  · rw [List.forall_mem_singleton]
    decide +kernel
  · decide +kernel
  · decide +kernel

end ClusterCensus
