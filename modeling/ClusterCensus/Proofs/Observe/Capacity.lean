import ClusterCensus.Observe.Node
import ClusterCensus.Proofs.Quantity.Count
import ClusterCensus.Proofs.Record.Decode
import ClusterCensus.Proofs.Trace

/-!
# Capacities of a node

How many pods a node takes and how many cores it has are plain integers. A capacity that is one is
told exactly, cores in thousandths, and one with a unit is left out of the record and of its line.
None of them can keep a node from being observed.

## Main result

`capacities_are_plain_integers`: which texts hold a count, and what a record tells of capacities.
-/
namespace ClusterCensus

open ClusterCensus.Text ClusterCensus.Numeral

namespace NodeRecord

variable {node : Node} {pods : PodTally} {containers : ContainerTally}
  {cpuUsage memoryUsage : String} {now : Moment} {record : NodeRecord}

/-! ### What an observation needs -/

/-- Only amounts of memory and the usage can keep a node from being observed. -/
theorem returns_observe_iff :
    (observe node pods containers cpuUsage memoryUsage now).Returns ↔
      (declared Quantity.bytes (node.statusOrEmpty.allocatable.get "memory")).Returns ∧
        (declared Quantity.bytes (node.statusOrEmpty.capacity.get "memory")).Returns ∧
          (Quantity.millicores cpuUsage.toList).Returns ∧
            (Quantity.bytes memoryUsage.toList).Returns := by
  unfold observe
  apply Trace.returns_bind_and_iff
  intro memoryAllocatable
  apply Trace.returns_bind_and_iff
  intro memoryCapacity
  apply Trace.returns_bind_and_iff
  intro cpu
  exact Trace.returns_bind_pure_iff

/-! ### What a record tells -/

/-- The capacities of a record are the counts of a status. -/
structure HasCounts (record : NodeRecord) (status : NodeStatus) : Prop where
  podsCapacity : record.podsCapacity = Quantity.count? (status.capacity.get "pods")
  podsAllocatable : record.podsAllocatable = Quantity.count? (status.allocatable.get "pods")
  cpuCapacity : record.cpuCapacity = coreMillis (status.capacity.get "cpu")
  cpuAllocatable : record.cpuAllocatable = coreMillis (status.allocatable.get "cpu")

/-- Every capacity of the record is what its text counts in the status of the node. -/
theorem hasCounts_of_observed
    (observed : (observe node pods containers cpuUsage memoryUsage now).outcome = .ok record) :
    record.HasCounts node.statusOrEmpty := by
  obtain ⟨memoryAllocatable, -, observed⟩ := Trace.bind_outcome_ok_iff.mp observed
  obtain ⟨memoryCapacity, -, observed⟩ := Trace.bind_outcome_ok_iff.mp observed
  obtain ⟨cpu, -, observed⟩ := Trace.bind_outcome_ok_iff.mp observed
  obtain ⟨memory, -, observed⟩ := Trace.bind_outcome_ok_iff.mp observed
  rw [← Except.ok.inj observed]
  exact ⟨rfl, rfl, rfl, rfl⟩

/-- An optional number stands on the line when there is one, and its name is missing otherwise. -/
theorem contents_of_mem {name : String} {told : Option Int}
    (member : (name, .ofInt? told) ∈ record.wholeFields) :
    record.fields.contents name = told.map .int := by
  rw [Fields.contents, record.carries_fields _ member]
  cases told <;> rfl

/-! ### From a value to the line -/

/-- What is told of a count that is given as a value: an integer is told in the given measure, and a
text with a unit is not told, and its name is missing from the line. -/
structure TellsCount (line : Fields) (name : String) (told : Option Int) (measure : Int)
    (value : Value) : Prop where
  plain : ∀ n : Int, (naturalDigits n.natAbs).length ≤ 4300 → value.Gives n →
    told = some (measure * n) ∧ line.contents name = some (.int (measure * n))
  unit : value.HasUnit → told = none ∧ line.contents name = none

/-- A count among the fields of the record is told on its line, or its name is missing there. -/
theorem tellsCount_of_count {name : String} {told : Option Int} {measure : Int} {value : Value}
    (member : (name, .ofInt? told) ∈ record.wholeFields)
    (counts : told = (Quantity.count? value).map (measure * ·)) :
    TellsCount record.fields name told measure value := by
  constructor
  · intro n short gives
    rw [contents_of_mem member, counts, Quantity.count?_of_gives short gives]
    exact ⟨rfl, rfl⟩
  · intro unit
    rw [contents_of_mem member, counts, Quantity.count?_of_hasUnit unit]
    exact ⟨rfl, rfl⟩

/-- All four capacities are told: pods by ones, cores in thousandths. -/
structure TellsCapacities (record : NodeRecord) (status : NodeStatus) : Prop where
  podsCapacity : TellsCount record.fields "pods_capacity" record.podsCapacity 1
    (status.capacity.get "pods")
  podsAllocatable : TellsCount record.fields "pods_allocatable" record.podsAllocatable 1
    (status.allocatable.get "pods")
  cpuCapacity : TellsCount record.fields "cpu_capacity" record.cpuCapacity 1000
    (status.capacity.get "cpu")
  cpuAllocatable : TellsCount record.fields "cpu_allocatable" record.cpuAllocatable 1000
    (status.allocatable.get "cpu")

theorem HasCounts.tellsCapacities {status : NodeStatus} (counts : record.HasCounts status) :
    record.TellsCapacities status := by
  have pods (value : Value) : Quantity.count? value = (Quantity.count? value).map (1 * ·) := by
    simp
  have cores (value : Value) : coreMillis value = (Quantity.count? value).map (1000 * ·) := by
    simp only [coreMillis, Int.mul_comm]
  -- What is left for each is that its name stands for it among the fields.
  constructor
  · apply tellsCount_of_count _ (counts.podsCapacity.trans (pods _))
    simp [wholeFields, allFields]
  · apply tellsCount_of_count _ (counts.podsAllocatable.trans (pods _))
    simp [wholeFields, allFields]
  · apply tellsCount_of_count _ (counts.cpuCapacity.trans (cores _))
    simp [wholeFields, allFields]
  · apply tellsCount_of_count _ (counts.cpuAllocatable.trans (cores _))
    simp [wholeFields, allFields]

end NodeRecord

/-! ## Main result -/

/-- A text holds a count exactly when it spells an integer, blanks around it apart, and then it is
this integer; every other text holds none. An integer of at most 4300 digits, or its decimal text
between any blanks, is a count of that size. Counts are no reason for which a node cannot be
observed, and the record of a node tells each of them exactly, cores in thousandths. Those that have
a letter or a point are left out of the record and missing from its line. -/
theorem capacities_are_plain_integers :
    (∀ (s : String) (n : Int), Quantity.count? (.text s) = some n ↔
      ∃ core, IsPadded s.toList core ∧ Spells core n) ∧
    (∀ s : String, Quantity.count? (.text s) = none ↔
      ¬∃ n core, IsPadded s.toList core ∧ Spells core n) ∧
    (∀ (value : Value) (n : Int), (naturalDigits n.natAbs).length ≤ 4300 → value.Gives n →
      Quantity.count? value = some n) ∧
    ∀ (node : Node) (pods : PodTally) (containers : ContainerTally) (cpuUsage memoryUsage : String)
        (now : Moment),
      ((NodeRecord.observe node pods containers cpuUsage memoryUsage now).Returns ↔
        (declared Quantity.bytes (node.statusOrEmpty.allocatable.get "memory")).Returns ∧
          (declared Quantity.bytes (node.statusOrEmpty.capacity.get "memory")).Returns ∧
            (Quantity.millicores cpuUsage.toList).Returns ∧
              (Quantity.bytes memoryUsage.toList).Returns) ∧
      ∀ record, (NodeRecord.observe node pods containers cpuUsage memoryUsage now).outcome =
          .ok record → record.TellsCapacities node.statusOrEmpty := by
  refine ⟨fun s n => Quantity.count?_text_iff, ?_, ?_, ?_⟩
  · intro s
    -- A text counts nothing when no integer is its count.
    rw [Option.eq_none_iff_forall_ne_some, not_exists]
    exact forall_congr' fun n => not_congr Quantity.count?_text_iff
  · intro value n short gives
    exact Quantity.count?_of_gives short gives
  · intro node pods containers cpuUsage memoryUsage now
    refine ⟨NodeRecord.returns_observe_iff, ?_⟩
    intro record observed
    exact (NodeRecord.hasCounts_of_observed observed).tellsCapacities

namespace Sample

/-- A node whose capacities are plain, while what can be allocated has units. -/
def sized : Node where
  metadata := some ⟨some "alpha", none⟩
  spec := none
  status := some {
    info := none
    addresses := []
    allocatable := [("cpu", .text "3500m"), ("pods", .text "1e2")]
    capacity := [("cpu", .text " 4\n"), ("pods", .int 110)]
    conditions := [] }

def sizedRecord : NodeRecord where
  node := "alpha"
  cpuCapacity := some 4000
  podsCapacity := some 110

end Sample

/-- A sign, an underscore and a digit of another script are read. The plain capacities of a node are
told, the others are missing from its line. -/
theorem capacities_are_plain_integers_sample :
    Quantity.count? (.text "+1_0\u0665") = some 105 ∧
      (NodeRecord.observe Sample.sized {} {} "" "" ⟨0, none⟩).outcome = .ok Sample.sizedRecord ∧
      Sample.sizedRecord.fields.contents "pods_capacity" = some (.int 110) ∧
      Sample.sizedRecord.fields.contents "cpu_capacity" = some (.int 4000) ∧
      Sample.sizedRecord.fields.contents "pods_allocatable" = none ∧
      Sample.sizedRecord.fields.contents "cpu_allocatable" = none := by
  obtain ⟨read, -, -, observes⟩ := capacities_are_plain_integers
  have observed : (NodeRecord.observe Sample.sized {} {} "" "" ⟨0, none⟩).outcome =
      .ok Sample.sizedRecord := by
    decide +kernel
  have tells := (observes Sample.sized {} {} "" "" ⟨0, none⟩).2 _ observed
  have grouped : IsGrouped ['1', '_', '0', '\u0665'] := by
    rw [isGrouped_cons_underscore, isGrouped_cons_cons (by decide), isGrouped_singleton]
    decide +kernel
  have cores : Value.Gives 4 (.text " 4\n") := by
    refine .text ⟨[' '], ['\n'], by decide +kernel, ?_⟩
    exact List.forall_mem_cons.mpr ⟨by decide, List.forall_mem_singleton.mpr (by decide)⟩
  refine ⟨?_, observed, ?_, ?_, ?_, ?_⟩
  · refine (read _ _).mpr ⟨_, isPadded_self _, .plus, _, rfl, grouped, ?_, ?_⟩
    · decide +kernel
    · decide +kernel
  · exact (tells.podsCapacity.plain 110 (by decide +kernel) .number).2
  · exact (tells.cpuCapacity.plain 4 (by decide +kernel) cores).2
  · exact (tells.podsAllocatable.unit ⟨'e', by decide +kernel, by decide⟩).2
  · exact (tells.cpuAllocatable.unit ⟨'m', by decide +kernel, by decide⟩).2

end ClusterCensus
