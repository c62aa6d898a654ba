import ClusterCensus.Proofs.Record.Fields
import Mathlib.Data.List.Nodup
import Mathlib.Logic.Function.Basic

/-!
# Records read back

A record is flattened: its parts are laid one after another, and what is absent or empty is left
out. All its names are distinct, so no field is written over another, and a name that is missing
tells that the field is absent, or empty if it is a text; a zero and false are never missing.
Therefore the record can be read back from what stands under each name, whatever the order.

## Main result

`flattening_loses_nothing`: container records and node records are read back from their lines.
-/
namespace ClusterCensus

namespace Fields

variable {fields line : Fields} {field : String × Value}

/-! ### Distinct names -/

theorem names_append (fields rest : Fields) : names (fields ++ rest) = names fields ++ names rest :=
  List.map_append

theorem lookup_of_mem (distinct : (names fields).Nodup) (member : field ∈ fields) :
    fields.lookup field.1 = some field.2 := by
  obtain ⟨before, after, rfl⟩ := List.append_of_mem member
  rw [names_append] at distinct
  -- A field of the same name before this one would be a second one.
  have first : ∀ one ∈ before, field.1 != one.1 := by
    intro one earlier
    have apart := (List.nodup_append.mp distinct).2.2 one.1 (List.mem_map_of_mem earlier)
      field.1 (by simp [names])
    simpa using apart.symm
  exact List.lookup_eq_some_iff.mpr ⟨before, after, rfl, first⟩

theorem putEntry_of_notMem {entries : Fields} {name : String} (new : name ∉ names entries)
    (value : Value) : Table.putEntry name value entries = entries ++ [(name, value)] := by
  induction entries with
  | nil => rfl
  | cons entry rest ih =>
    rw [names, List.map_cons, List.mem_cons, not_or] at new
    have apart : (entry.1 == name) = false := beq_false_of_ne fun same => new.1 same.symm
    rw [Table.putEntry, apart, ih new.2]
    rfl

/-- Fields with new names go behind those of the table, in their order. -/
theorem entries_foldl_put (table : Table String Value)
    (distinct : (names (table.entries ++ fields)).Nodup) :
    (fields.foldl (fun table binding => table.put binding.1 binding.2) table).entries =
      table.entries ++ fields := by
  induction fields generalizing table with
  | nil => exact (List.append_nil _).symm
  | cons field rest ih =>
    rw [List.append_cons] at distinct ⊢
    -- The name of the first binding is not in the table yet.
    have new : field.1 ∉ names table.entries := by
      have whole := distinct
      rw [names_append, names_append] at whole
      have start := (List.nodup_append.mp (List.nodup_append.mp whole).1).2.2
      exact fun inside => start field.1 inside field.1 (by simp [names]) rfl
    have put : (table.put field.1 field.2).entries = table.entries ++ [field] :=
      putEntry_of_notMem new field.2
    rw [List.foldl_cons, ih _ (by rwa [put]), put]

/-- With distinct names, the last binding of each name is its only one. -/
theorem ofBindings_of_nodup (distinct : (names fields).Nodup) : ofBindings fields = fields :=
  entries_foldl_put .empty distinct

theorem nodup_names_compact (distinct : (names fields).Nodup) : (names (compact fields)).Nodup :=
  distinct.sublist (List.filter_sublist.map _)

/-! ### What a line carries -/

theorem isBlankValue_iff {value : Value} :
    isBlankValue value = true ↔ value = .null ∨ value = .text "" := by
  cases value <;> simp [isBlankValue]

/-- The line has the fields under their names, except for those that are null or empty: their names
are missing. -/
def Carries (line fields : Fields) : Prop :=
  ∀ field ∈ fields, line.lookup field.1 = if isBlankValue field.2 then none else some field.2

/-- Compact fields carry every field, if no two have one name. -/
theorem carries_compact (distinct : (names fields).Nodup) : Carries (compact fields) fields := by
  intro field member
  split
  next blank =>
    rw [List.lookup_eq_none_iff]
    intro kept inside
    obtain ⟨own, shows⟩ := List.mem_filter.mp inside
    -- A field that is kept under the name would be this one, which is left out.
    have apart : field.1 ≠ kept.1 := by
      intro same
      have found := lookup_of_mem distinct member
      rw [same, lookup_of_mem distinct own, Option.some.injEq] at found
      rw [found, blank] at shows
      cases shows
    simpa using apart
  next shows =>
    exact lookup_of_mem (nodup_names_compact distinct)
      (List.mem_filter.mpr ⟨member, by simp [shows]⟩)

end Fields

/-! ### Reading values -/

namespace Value

/-- What is seen of a value on a line. -/
def onLine (value : Value) : Value :=
  if Fields.isBlankValue value then null else value

/-- A text; a value that is none counts as empty. -/
def string : Value → String
  | text s => s
  | _ => ""

/-- An integer, if the value is one. -/
def integer? : Value → Option Int
  | int n => some n
  | _ => none

/-- An integer; a value that is none counts as zero. -/
def integer (value : Value) : Int :=
  value.integer?.getD 0

/-- A truth value; a value that is none counts as false. -/
def truth : Value → Bool
  | bool b => b
  | _ => false

@[simp]
theorem string_onLine (s : String) : (text s).onLine.string = s := by
  rw [onLine, Fields.isBlankValue]
  split
  next empty => exact (String.isEmpty_iff.mp empty).symm
  next => rfl

@[simp]
theorem integer?_onLine_ofInt? (n : Option Int) : (ofInt? n).onLine.integer? = n := by
  cases n <;> rfl

@[simp]
theorem integer_onLine (n : Int) : (int n).onLine.integer = n := by
  rfl

@[simp]
theorem truth_onLine (b : Bool) : (bool b).onLine.truth = b := by
  rfl

end Value

theorem Fields.Carries.get_eq {line fields : Fields} (carries : Fields.Carries line fields) :
    ∀ field ∈ fields, line.get field.1 = field.2.onLine := by
  intro field member
  rw [Fields.get, carries field member, Value.onLine]
  split <;> rfl

/-! ### The parts of a record -/

/-- The facts of the pod that a line tells. -/
def PodFacts.ofFields (line : Fields) : PodFacts where
  space := (line.get "namespace").string
  pod := (line.get "pod").string
  node := (line.get "node").string
  phase := (line.get "phase").string
  ip := (line.get "ip").string
  priority := (line.get "priority").integer?
  priorityClass := (line.get "priority_class").string
  qosClass := (line.get "qos_class").string
  age := (line.get "pod_age").integer?
  created := (line.get "created").integer?
  controller := (line.get "controller").string
  controllerType := (line.get "controller_type").string
  resource := (line.get "resource").string
  type := (line.get "type").string

def ContainerFacts.ofFields (line : Fields) : ContainerFacts where
  container := (line.get "container").string
  state := (line.get "state").string
  ready := (line.get "ready").truth
  restarts := (line.get "restarts").integer
  cpuUsage := (line.get "cpu_usage").integer
  memoryUsage := (line.get "memory_usage").integer
  image := (line.get "image").string
  imageTag := (line.get "image_tag").string
  age := (line.get "container_age").integer?
  started := (line.get "started").integer?
  lastState := (line.get "last_state").string
  lastReason := (line.get "last_reason").string
  lastStarted := (line.get "last_started").integer?
  lastFinished := (line.get "last_finished").integer?
  cpuLimit := (line.get "cpu_limit").integer?
  cpuRequest := (line.get "cpu_request").integer?
  memoryLimit := (line.get "memory_limit").integer?
  memoryRequest := (line.get "memory_request").integer?

def ControllerTally.ofFields (line : Fields) : ControllerTally where
  podsTotal := (line.get "pods_total").integer
  podsReady := (line.get "pods_ready").integer
  containersTotal := (line.get "containers_total").integer
  containersReady := (line.get "containers_ready").integer

def PodTally.ofFields (line : Fields) : PodTally where
  failed := (line.get "pods_failed").integer
  pending := (line.get "pods_pending").integer
  running := (line.get "pods_running").integer
  succeeded := (line.get "pods_succeeded").integer
  unknown := (line.get "pods_unknown").integer
  total := (line.get "pods_total").integer

def ContainerTally.ofFields (line : Fields) : ContainerTally where
  init := (line.get "containers_init").integer
  ready := (line.get "containers_ready").integer
  running := (line.get "containers_running").integer
  terminated := (line.get "containers_terminated").integer
  waiting := (line.get "containers_waiting").integer
  total := (line.get "containers_total").integer

section

variable {line : Fields}

open Fields (Carries)

theorem PodFacts.ofFields_of_carries {p : PodFacts} (carries : Carries line p.allFields) :
    PodFacts.ofFields line = p := by
  have shows := carries.get_eq
  simp only [PodFacts.allFields, List.forall_mem_cons] at shows
  simp only [PodFacts.ofFields, shows, Value.string_onLine, Value.integer?_onLine_ofInt?]

theorem ContainerFacts.ofFields_of_carries {c : ContainerFacts}
    (carries : Carries line c.allFields) : ContainerFacts.ofFields line = c := by
  have shows := carries.get_eq
  simp only [ContainerFacts.allFields, List.forall_mem_cons] at shows
  simp only [ContainerFacts.ofFields, shows, Value.string_onLine, Value.integer?_onLine_ofInt?,
    Value.integer_onLine, Value.truth_onLine]

theorem ControllerTally.ofFields_of_carries {t : ControllerTally}
    (carries : Carries line t.fields) : ControllerTally.ofFields line = t := by
  have shows := carries.get_eq
  simp only [ControllerTally.fields, List.forall_mem_cons] at shows
  simp only [ControllerTally.ofFields, shows, Value.integer_onLine]

theorem PodTally.ofFields_of_carries {t : PodTally} (carries : Carries line t.fields) :
    PodTally.ofFields line = t := by
  have shows := carries.get_eq
  simp only [PodTally.fields, List.forall_mem_cons] at shows
  simp only [PodTally.ofFields, shows, Value.integer_onLine]

theorem ContainerTally.ofFields_of_carries {t : ContainerTally} (carries : Carries line t.fields) :
    ContainerTally.ofFields line = t := by
  have shows := carries.get_eq
  simp only [ContainerTally.fields, List.forall_mem_cons] at shows
  simp only [ContainerTally.ofFields, shows, Value.integer_onLine]

end

/-! ### Records -/

namespace ContainerRecord

/-- All fields of the record with its counters, in the order of the line. -/
def wholeFields (r : ContainerRecord) : Fields :=
  r.pod.allFields ++ (r.container.allFields ++ r.controller.fields)

/-- The record that a line tells. -/
def ofFields (line : Fields) : ContainerRecord where
  pod := .ofFields line
  container := .ofFields line
  controller := .ofFields line

theorem nodup_names_wholeFields (r : ContainerRecord) : (Fields.names r.wholeFields).Nodup := by
  -- The names are fixed, whatever the values are.
  simp only [Fields.names, wholeFields, PodFacts.allFields, ContainerFacts.allFields,
    ControllerTally.fields, List.map_cons, List.map_nil, List.cons_append, List.nil_append]
  decide

theorem fields_eq_compact (r : ContainerRecord) : r.fields = Fields.compact r.wholeFields := by
  have counters : Fields.compact r.controller.fields = r.controller.fields := by
    rfl
  rw [wholeFields, Fields.compact, List.filter_append, List.filter_append, fields,
    List.append_assoc]
  exact congrArg (fun counters => r.pod.fields ++ (r.container.fields ++ counters)) counters.symm

theorem carries_fields (r : ContainerRecord) : Fields.Carries r.fields r.wholeFields := by
  rw [r.fields_eq_compact]
  exact Fields.carries_compact r.nodup_names_wholeFields

theorem ofFields_of_carries {r : ContainerRecord} {line : Fields}
    (carries : Fields.Carries line r.wholeFields) : ofFields line = r := by
  obtain ⟨pod, rest⟩ := List.forall_mem_append.mp carries
  obtain ⟨container, controller⟩ := List.forall_mem_append.mp rest
  rw [ofFields, PodFacts.ofFields_of_carries pod, ContainerFacts.ofFields_of_carries container,
    ControllerTally.ofFields_of_carries controller]

end ContainerRecord

namespace NodeRecord

def wholeFields (n : NodeRecord) : Fields :=
  n.allFields ++ (n.pods.fields ++ n.containers.fields)

def ofFields (line : Fields) : NodeRecord where
  node := (line.get "node").string
  pods := .ofFields line
  containers := .ofFields line
  cpuUsage := (line.get "cpu_usage").integer
  memoryUsage := (line.get "memory_usage").integer
  age := (line.get "age").integer?
  created := (line.get "created").integer?
  containerRuntimeVersion := (line.get "container_runtime_version").string
  kernelVersion := (line.get "kernel_version").string
  kubeletVersion := (line.get "kubelet_version").string
  osImage := (line.get "os_image").string
  ip := (line.get "ip").string
  ipExternal := (line.get "ip_external").string
  cpuAllocatable := (line.get "cpu_allocatable").integer?
  cpuCapacity := (line.get "cpu_capacity").integer?
  memoryAllocatable := (line.get "memory_allocatable").integer?
  memoryCapacity := (line.get "memory_capacity").integer?
  podsAllocatable := (line.get "pods_allocatable").integer?
  podsCapacity := (line.get "pods_capacity").integer?
  readiness :=
    { ready := (line.get "ready").truth
      status := (line.get "ready_status").string
      message := (line.get "ready_message").string
      heartbeatAge := (line.get "ready_heartbeat_age").integer?
      heartbeatTime := (line.get "ready_heartbeat_time").integer?
      transitionAge := (line.get "ready_transition_age").integer?
      transitionTime := (line.get "ready_transition_time").integer? }
  unschedulable := (line.get "unschedulable").truth
  resource := (line.get "resource").string
  type := (line.get "type").string

theorem nodup_names_wholeFields (n : NodeRecord) : (Fields.names n.wholeFields).Nodup := by
  simp only [Fields.names, wholeFields, allFields, PodTally.fields, ContainerTally.fields,
    List.map_cons, List.map_nil, List.cons_append, List.nil_append]
  decide

theorem fields_eq_compact (n : NodeRecord) : n.fields = Fields.compact n.wholeFields := by
  have counters : Fields.compact (n.pods.fields ++ n.containers.fields) =
      n.pods.fields ++ n.containers.fields := by
    rfl
  rw [wholeFields, Fields.compact, List.filter_append, fields, List.append_assoc]
  exact congrArg (Fields.compact n.allFields ++ ·) counters.symm

theorem carries_fields (n : NodeRecord) : Fields.Carries n.fields n.wholeFields := by
  rw [n.fields_eq_compact]
  exact Fields.carries_compact n.nodup_names_wholeFields

theorem ofFields_of_carries {n : NodeRecord} {line : Fields}
    (carries : Fields.Carries line n.wholeFields) : ofFields line = n := by
  obtain ⟨own, rest⟩ := List.forall_mem_append.mp carries
  obtain ⟨pods, containers⟩ := List.forall_mem_append.mp rest
  have shows := Fields.Carries.get_eq own
  simp only [allFields, List.forall_mem_cons] at shows
  simp only [ofFields, PodTally.ofFields_of_carries pods,
    ContainerTally.ofFields_of_carries containers, shows, Value.string_onLine,
    Value.integer?_onLine_ofInt?, Value.integer_onLine, Value.truth_onLine]

end NodeRecord

/-! ## Main result -/

/-- What stands under each name of a line. -/
def Fields.contents (line : Fields) : String → Option Value :=
  fun name => line.lookup name

theorem Fields.Carries.congr {line other fields : Fields} (carries : Fields.Carries line fields)
    (same : line.contents = other.contents) : Fields.Carries other fields := by
  intro field member
  rw [← carries field member]
  exact (congrFun same field.1).symm

/-- The line of some fields has no name twice, nothing on it is written over, and it tells of each
field: the name is missing exactly when the field is null or the empty text, and else the value
stands under it. -/
structure Fields.Keeps (line fields : Fields) : Prop where
  distinct : (names line).Nodup
  merged : ofBindings line = line
  missing : ∀ field ∈ fields, line.contents field.1 = none ↔ field.2 = .null ∨ field.2 = .text ""
  told : ∀ field ∈ fields, ∀ value, line.contents field.1 = some value → value = field.2

/-- Fields with distinct names are kept by the compact ones. -/
theorem Fields.keeps_compact {fields : Fields} (distinct : (names fields).Nodup) :
    Keeps (compact fields) fields where
  distinct := nodup_names_compact distinct
  merged := ofBindings_of_nodup (nodup_names_compact distinct)
  missing := by
    intro field member
    rw [contents, carries_compact distinct field member, ← isBlankValue_iff]
    split <;> simp_all
  told := by
    intro field member value found
    rw [contents, carries_compact distinct field member] at found
    split at found
    next => cases found
    next => exact (Option.some.inj found).symm

/-- The line of a container record and that of a node record keep every field of every part, the
counters included. A record is read back from its line, and two records of one kind are the same
when the same stands under each name of their lines. -/
theorem flattening_loses_nothing :
    (∀ r : ContainerRecord,
      Fields.Keeps r.fields r.wholeFields ∧ ContainerRecord.ofFields r.fields = r) ∧
    (∀ n : NodeRecord, Fields.Keeps n.fields n.wholeFields ∧ NodeRecord.ofFields n.fields = n) ∧
    Function.Injective (fun r : ContainerRecord => r.fields.contents) ∧
    Function.Injective (fun n : NodeRecord => n.fields.contents) := by
  refine ⟨fun r => ⟨?_, ContainerRecord.ofFields_of_carries r.carries_fields⟩,
    fun n => ⟨?_, NodeRecord.ofFields_of_carries n.carries_fields⟩, ?_, ?_⟩
  · rw [r.fields_eq_compact]
    exact Fields.keeps_compact r.nodup_names_wholeFields
  · rw [n.fields_eq_compact]
    exact Fields.keeps_compact n.nodup_names_wholeFields
  · intro r other same
    -- The other line carries the fields of this record too, and both records are read from it.
    rw [← ContainerRecord.ofFields_of_carries (r.carries_fields.congr same),
      ContainerRecord.ofFields_of_carries other.carries_fields]
  · intro n other same
    rw [← NodeRecord.ofFields_of_carries (n.carries_fields.congr same),
      NodeRecord.ofFields_of_carries other.carries_fields]

end ClusterCensus
