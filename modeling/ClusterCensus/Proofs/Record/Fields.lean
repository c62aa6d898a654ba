import ClusterCensus.Record.Container
import ClusterCensus.Record.Node

/-!
# Fields on a line

The parts of a record follow one another on its line. A field is found in the first part that has
it, and compacting a part brings in no new names; so a tally shows on the line, since no part before
it has a field of the same name.
-/
namespace ClusterCensus
namespace Fields

def names (fields : Fields) : List String :=
  fields.map (·.1)

/-- The text under a name; a value that is no text counts as empty. -/
def textAt (name : String) (fields : Fields) : String :=
  match get fields name with
  | .text s => s
  | _ => ""

theorem get_cons_of_ne {field : String × Value} {rest : Fields} {name : String}
    (other : name ≠ field.1) : get (field :: rest) name = get rest name := by
  rw [get, get, List.lookup_cons, beq_false_of_ne other]

theorem get_of_notMem {fields : Fields} {name : String} (absent : name ∉ names fields) :
    get fields name = .null := by
  have missing : fields.lookup name = none := by
    rw [List.lookup_eq_none_iff]
    intro field member
    have distinct : name ≠ field.1 := fun same => absent (same ▸ List.mem_map_of_mem member)
    simpa using distinct
  rw [get, missing]
  rfl

theorem get_append_of_notMem {fields rest : Fields} {name : String}
    (absent : name ∉ names fields) : get (fields ++ rest) name = get rest name := by
  induction fields with
  | nil => rfl
  | cons field fields ih =>
    rw [names, List.map_cons, List.mem_cons, not_or] at absent
    rw [List.cons_append, get_cons_of_ne absent.1]
    exact ih absent.2

theorem get_append_of_mem {fields rest : Fields} {name : String} (own : name ∈ names fields) :
    get (fields ++ rest) name = get fields name := by
  induction fields with
  | nil => cases own
  | cons field fields ih =>
    rw [List.cons_append]
    by_cases same : name = field.1
    · rw [get, get, same, List.lookup_cons_self, List.lookup_cons_self]
    · rw [get_cons_of_ne same, get_cons_of_ne same]
      exact ih ((List.mem_cons.mp own).resolve_left same)

theorem notMem_names_compact {fields : Fields} {name : String} (absent : name ∉ names fields) :
    name ∉ names (compact fields) := by
  intro inside
  obtain ⟨field, kept, rfl⟩ := List.mem_map.mp inside
  exact absent (List.mem_map_of_mem (List.mem_filter.mp kept).1)

theorem textAt_cons_self (name : String) (value : Value) (rest : Fields) :
    textAt name ((name, value) :: rest) = match value with | .text s => s | _ => "" := by
  rw [textAt, get, List.lookup_cons_self, Option.getD_some]

theorem textAt_cons_of_ne {field : String × Value} {rest : Fields} {name : String}
    (other : name ≠ field.1) : textAt name (field :: rest) = textAt name rest := by
  rw [textAt, textAt, get_cons_of_ne other]

theorem textAt_of_notMem {fields : Fields} {name : String} (absent : name ∉ names fields) :
    textAt name fields = "" := by
  rw [textAt, get_of_notMem absent]

/-- A text is read from a line as it was written, also one that is empty and left out. -/
theorem textAt_compact_append {fields rest : Fields} {name : String}
    (distinct : (names fields).Nodup) (absent : name ∉ names rest) :
    textAt name (compact fields ++ rest) = textAt name fields := by
  induction fields with
  | nil => rw [compact, List.filter_nil, List.nil_append, textAt_of_notMem absent]; rfl
  | cons field fields ih =>
    rw [names, List.map_cons, List.nodup_cons] at distinct
    have later := ih distinct.2
    obtain ⟨own, value⟩ := field
    cases blank : isBlankValue value with
    | true =>
      -- The field is left out, so the name is looked for among the others.
      have left : compact ((own, value) :: fields) = compact fields := by
        rw [compact, List.filter_cons_of_neg (by simp [blank])]
        rfl
      rw [left, later]
      by_cases same : name = own
      · -- The name is dropped, and nothing after it has the name.
        subst same
        rw [textAt_of_notMem distinct.1, textAt_cons_self]
        cases value <;> simp_all [isBlankValue]
      · rw [textAt_cons_of_ne same]
    | false =>
      -- The field stands first on the line, as it does before.
      have kept : compact ((own, value) :: fields) = (own, value) :: compact fields := by
        rw [compact, List.filter_cons_of_pos (by simp [blank])]
        rfl
      rw [kept, List.cons_append]
      by_cases same : name = own
      · subst same
        rw [textAt_cons_self, textAt_cons_self]
      · rw [textAt_cons_of_ne same, textAt_cons_of_ne same, later]

end Fields

/-! ### Tallies on a line -/

/-- The fields of the part are read from the line as they are in the part. -/
def Fields.Shows (line part : Fields) : Prop :=
  ∀ name ∈ Fields.names part, Fields.get line name = Fields.get part name

/-- A part shows when no field before it has one of its names. -/
theorem Fields.shows_part {before part : Fields} (after : Fields)
    (apart : ∀ name ∈ Fields.names part, name ∉ Fields.names before) :
    Fields.Shows (before ++ (part ++ after)) part := by
  intro name own
  rw [Fields.get_append_of_notMem (apart name own), Fields.get_append_of_mem own]

/-- The line of a record shows its tally, zeros included. -/
theorem ContainerRecord.shows_controller (r : ContainerRecord) :
    Fields.Shows r.fields r.controller.fields := by
  -- The names are fixed, whatever the values are.
  have apart : ∀ name ∈ Fields.names r.controller.fields,
      name ∉ Fields.names r.pod.allFields ∧ name ∉ Fields.names r.container.allFields := by
    simp only [Fields.names, ControllerTally.fields, PodFacts.allFields, ContainerFacts.allFields,
      List.map_cons, List.map_nil]
    decide
  rw [ContainerRecord.fields, ← List.append_nil r.controller.fields]
  refine Fields.shows_part [] fun name counter => ?_
  rw [Fields.names, List.map_append, List.mem_append, not_or]
  exact ⟨Fields.notMem_names_compact (apart name counter).1,
    Fields.notMem_names_compact (apart name counter).2⟩

theorem NodeRecord.shows_pods (n : NodeRecord) : Fields.Shows n.fields n.pods.fields := by
  have apart : ∀ name ∈ Fields.names n.pods.fields, name ∉ Fields.names n.allFields := by
    simp only [Fields.names, PodTally.fields, NodeRecord.allFields, List.map_cons, List.map_nil]
    decide
  rw [NodeRecord.fields, List.append_assoc]
  exact Fields.shows_part _ fun name counter => Fields.notMem_names_compact (apart name counter)

theorem NodeRecord.shows_containers (n : NodeRecord) :
    Fields.Shows n.fields n.containers.fields := by
  have apart : ∀ name ∈ Fields.names n.containers.fields,
      name ∉ Fields.names n.allFields ∧ name ∉ Fields.names n.pods.fields := by
    simp only [Fields.names, PodTally.fields, ContainerTally.fields, NodeRecord.allFields,
      List.map_cons, List.map_nil]
    decide
  rw [NodeRecord.fields, ← List.append_nil n.containers.fields]
  refine Fields.shows_part [] fun name counter => ?_
  rw [Fields.names, List.map_append, List.mem_append, not_or]
  exact ⟨Fields.notMem_names_compact (apart name counter).1, (apart name counter).2⟩

/-! ### Controllers on a line -/

/-- The controller that the fields of a line name. -/
def ControllerKey.ofFields (fields : Fields) : ControllerKey where
  space := fields.textAt "namespace"
  type := fields.textAt "controller_type"
  name := fields.textAt "controller"

/-- A fact of the pod that is no fact of the container and no counter is read from the line. -/
theorem ContainerRecord.textAt_fields (r : ContainerRecord) {name : String}
    (notOfContainer : name ∉ Fields.names r.container.allFields)
    (notCounter : name ∉ Fields.names r.controller.fields) :
    Fields.textAt name r.fields = Fields.textAt name r.pod.allFields := by
  have distinct : (Fields.names r.pod.allFields).Nodup := by
    simp only [Fields.names, PodFacts.allFields, List.map_cons, List.map_nil]
    decide
  rw [ContainerRecord.fields, List.append_assoc, PodFacts.fields]
  refine Fields.textAt_compact_append distinct ?_
  rw [Fields.names, List.map_append, List.mem_append, not_or]
  exact ⟨Fields.notMem_names_compact notOfContainer, notCounter⟩

/-- The line of a record names its controller. -/
theorem ContainerRecord.ofFields_fields (r : ContainerRecord) :
    ControllerKey.ofFields r.fields = r.pod.controllerKey := by
  have read {name : String} (one : name ∈ ["namespace", "controller_type", "controller"]) :
      Fields.textAt name r.fields = Fields.textAt name r.pod.allFields := by
    refine r.textAt_fields ?_ ?_
    · simp only [Fields.names, ContainerFacts.allFields, List.map_cons, List.map_nil,
        List.mem_cons, List.not_mem_nil, or_false] at one ⊢
      rcases one with rfl | rfl | rfl <;> decide
    · simp only [Fields.names, ControllerTally.fields, List.map_cons, List.map_nil,
        List.mem_cons, List.not_mem_nil, or_false] at one ⊢
      rcases one with rfl | rfl | rfl <;> decide
  rw [ControllerKey.ofFields, read (.head _), read (.tail _ (.head _)),
    read (.tail _ (.tail _ (.head _)))]
  rfl

end ClusterCensus
