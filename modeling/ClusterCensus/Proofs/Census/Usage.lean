import ClusterCensus.Census.Usage
import ClusterCensus.Proofs.Table
import Mathlib.Logic.Basic

/-!
# The last report holds

An index of reported usage, once it could be made, answers every question as a search through the
reports themselves would: for a container with the usage of the last entry of its name among the
items of its namespace and pod, for a node if and only if some item names it.
-/
namespace ClusterCensus

def Value.isText (s : String) : Value → Bool
  | .text t => t == s
  | _ => false

def Value.fields? : Value → Option Fields
  | .object fields => some fields
  | _ => none

@[simp]
theorem Value.fields?_object (fields : Fields) : (object fields).fields? = some fields := rfl

theorem Value.sameKey_text_eq (value : Value) (s : String) :
    value.sameKey (.text s) = value.isText s := by
  rw [Bool.eq_iff_iff, sameKey_text]
  cases value <;> simp [isText]

/-- A substitute never takes the place of a text that is not empty. -/
theorem Value.isText_orElse {value : Value} {s other : String} (named : s ≠ "")
    (distinct : s ≠ other) : (value.orElse (.text other)).isText s = value.isText s := by
  rw [orElse]
  split
  next => rfl
  next silent =>
    -- Only the empty text is a text that says nothing.
    cases value with
    | text t =>
      have blank : t = "" := by simpa [isTruthy] using silent
      rw [isText, isText, blank, beq_false_of_ne distinct.symm, beq_false_of_ne named.symm]
    | _ => simp [isText, distinct.symm]

theorem Value.isTruthy_of_isText {value : Value} {s : String} (named : s ≠ "")
    (same : value.isText s = true) : value.isTruthy = true := by
  cases value with
  | text t =>
    have equal : t = s := by simpa [isText] using same
    simpa [isTruthy, equal] using named
  | _ => simp [isText] at same

namespace MetricsItem

/-- The entries for containers, those that are objects. -/
def entries (item : MetricsItem) : List Fields :=
  match item.data.get "containers" with
  | .list values => values.filterMap Value.fields?
  | _ => []

/-- The usages that an item reports for a container. An absent namespace or name of the item is
empty, and so is an absent usage. -/
def usagesOf (space pod name : String) (item : MetricsItem) : List Value :=
  if (item.space.orElse (.text "")).isText space && (item.name.orElse (.text "")).isText pod then
    (item.entries.filter fun entry => (Fields.get entry "name").isText name).map fun entry =>
      (Fields.get entry "usage").orElse (.object [])
  else []

/-- The usage that holds for a container: the last one that items report for it. -/
def lastUsage? (items : List MetricsItem) (space pod name : String) : Option Value :=
  (items.flatMap (usagesOf space pod name)).getLast?

/-- The usages that an item reports for a node: one if it stands for the node. -/
def nodeUsagesOf (name : String) (item : MetricsItem) : List Value :=
  if (item.name.orElse (.text UsageIndex.missingNodeName)).isText name then
    [(item.data.get "usage").orElse (.object [])]
  else []

/-- The usage that holds for a node: the last one that items report for it. -/
def lastNodeUsage? (items : List MetricsItem) (name : String) : Option Value :=
  (items.flatMap (nodeUsagesOf name)).getLast?

end MetricsItem

namespace UsageIndex

/-! ### Indexing enters every report -/

theorem enter_ok {index next : UsageIndex} {entry : UsageKey × Value}
    (entered : enter index entry = .ok next) : next = index.put entry.1 entry.2 := by
  unfold enter at entered
  split at entered
  · cases entered
  · exact (Except.ok.inj entered).symm

/-- An index that could be made holds the reports as a table would that refuses none. -/
theorem foldlM_enter_ok {reports : List (UsageKey × Value)} {start index : UsageIndex}
    (indexed : reports.foldlM enter start = .ok index) :
    index = reports.foldl (fun table report => table.put report.1 report.2) start := by
  induction reports generalizing start with
  | nil => exact (Except.ok.inj indexed).symm
  | cons report rest ih =>
    rw [List.foldlM_cons] at indexed
    cases entered : enter start report with
    | error fault => simp [entered, bind, Except.bind] at indexed
    | ok next =>
      rw [List.foldl_cons, ← enter_ok entered]
      -- The rest is entered into the table that has this report.
      exact ih (by simpa [entered, bind, Except.bind] using indexed)

/-- An index finds the last report for a key. -/
theorem find?_of_indexed {reports : List (UsageKey × Value)} {index : UsageIndex}
    (indexed : ofReports reports = .ok index) (key : UsageKey) :
    index.find? key = ((reports.filter (·.1 == key)).map (·.2)).getLast? := by
  rw [foldlM_enter_ok indexed, Table.find?_foldl_put, Table.find?_empty, Option.or_none,
    List.getLast?_map]

/-! ### Containers -/

theorem containerKey_beq (a b c : Value) (space pod name : String) :
    (UsageKey.container a b c == UsageKey.container (.text space) (.text pod) (.text name)) =
      ((a.isText space && b.isText pod) && c.isText name) := by
  change (a.sameKey _ && (b.sameKey _ && (c.sameKey _ && true))) = _
  simp only [Value.sameKey_text_eq, Bool.and_true, Bool.and_assoc]

/-- The report of an entry has the key of a container exactly when all three parts of its name
match. -/
theorem containerReport?_filter (item : MetricsItem) {name : String} (named : name ≠ "")
    (space pod : String) (fields : Fields) :
    (((containerReport? item (.object fields)).filter
        (·.1 == UsageKey.container (.text space) (.text pod) (.text name))).map (·.2)) =
      if (item.space.orElse (.text "")).isText space && (item.name.orElse (.text "")).isText pod &&
          (Fields.get fields "name").isText name then
        some ((Fields.get fields "usage").orElse (.object []))
      else none := by
  by_cases truthy : (Fields.get fields "name").isTruthy
  · simp only [containerReport?, truthy, if_true, Option.filter_some, report, containerKey_beq]
    split <;> rfl
  · -- An entry without a name is not reported, and it has not this name.
    have other : (Fields.get fields "name").isText name = false :=
      Bool.eq_false_iff.mpr fun same => truthy (Value.isTruthy_of_isText named same)
    simp [containerReport?, truthy, other]

/-- Every report of an item is that of an entry with a name. -/
theorem entry_of_containerReports {item : MetricsItem} {entered : UsageKey × Value}
    (member : entered ∈ containerReports item) :
    ∃ entry ∈ item.entries, (Fields.get entry "name").isTruthy = true ∧
      entered = report (.container (item.space.orElse (.text "")) (item.name.orElse (.text ""))
        (Fields.get entry "name")) (Fields.get entry "usage") := by
  unfold containerReports at member
  unfold MetricsItem.entries
  cases listed : item.data.get "containers" with
  | list values =>
    simp only [listed] at member ⊢
    obtain ⟨value, inside, reported⟩ := List.mem_filterMap.mp member
    -- Only an object is an entry.
    cases value with
    | object entry =>
      simp only [containerReport?, Option.ite_none_right_eq_some, Option.some.injEq] at reported
      obtain ⟨named, same⟩ := reported
      exact ⟨entry, List.mem_filterMap.mpr ⟨_, inside, rfl⟩, named, same.symm⟩
    | _ => cases reported
  | _ =>
    simp only [listed] at member
    cases member

/-- The reports of an item under the key of a container are its usages of that container. -/
theorem containerReports_filter (item : MetricsItem) {name : String} (named : name ≠ "")
    (space pod : String) :
    ((containerReports item).filter
        (·.1 == UsageKey.container (.text space) (.text pod) (.text name))).map (·.2) =
      item.usagesOf space pod name := by
  unfold containerReports MetricsItem.usagesOf MetricsItem.entries
  cases item.data.get "containers" with
  | list values =>
    simp only [List.filter_filterMap, List.map_filterMap]
    -- Entry by entry; what is no object makes no report and is no entry.
    induction values with
    | nil => simp
    | cons value rest ih =>
      cases value with
      | object fields =>
        rw [List.filterMap_cons, containerReport?_filter item named, ih]
        by_cases here : ((item.space.orElse (.text "")).isText space &&
            (item.name.orElse (.text "")).isText pod) = true
        · by_cases same : (Fields.get fields "name").isText name = true <;>
            simp [Option.filter_some, here, same]
        · simp [here]
      | _ => simpa [containerReport?, Value.fields?] using ih
  | _ => simp

/-- The index answers for a container with the last usage reported for it. -/
theorem container?_eq {items : List MetricsItem} {index : UsageIndex}
    (indexed : ofPodMetrics items = .ok index) {name : String} (named : name ≠ "")
    (space pod : String) :
    index.container? space pod name = MetricsItem.lastUsage? items space pod name := by
  rw [container?, find?_of_indexed indexed, List.filter_flatMap, List.map_flatMap,
    MetricsItem.lastUsage?]
  simp only [containerReports_filter _ named]

/-! ### Nodes -/

/-- The report of an item has the key of a node exactly when the item stands for the node. -/
theorem nodeReport_filter (name : String) (item : MetricsItem) :
    (([nodeReport item].filter (·.1 == UsageKey.node (.text name))).map (·.2)) =
      item.nodeUsagesOf name := by
  have key : ((nodeReport item).1 == UsageKey.node (.text name)) =
      (item.name.orElse (.text missingNodeName)).isText name := by
    change ((item.name.orElse _).sameKey _ && true) = _
    rw [Bool.and_true, Value.sameKey_text_eq]
  rw [List.filter_cons, key, MetricsItem.nodeUsagesOf]
  cases (item.name.orElse (.text missingNodeName)).isText name <;> rfl

/-- The index answers for a node with the last usage reported for it. -/
theorem node?_eq {items : List MetricsItem} {index : UsageIndex}
    (indexed : ofNodeMetrics items = .ok index) (name : String) :
    index.node? name = MetricsItem.lastNodeUsage? items name := by
  have each : items.map nodeReport = items.flatMap fun item => [nodeReport item] :=
    List.map_eq_flatMap
  rw [node?, find?_of_indexed indexed, each, List.filter_flatMap, List.map_flatMap,
    MetricsItem.lastNodeUsage?]
  simp only [nodeReport_filter]

/-- The index knows a node exactly when some item stands for it. -/
theorem node?_isSome {items : List MetricsItem} {index : UsageIndex}
    (indexed : ofNodeMetrics items = .ok index) (name : String) :
    (index.node? name).isSome =
      items.any fun item => (item.name.orElse (.text missingNodeName)).isText name := by
  rw [node?_eq indexed, Bool.eq_iff_iff, MetricsItem.lastNodeUsage?]
  simp [MetricsItem.nodeUsagesOf]

/-- The index knows a node of a name that is neither empty nor the placeholder exactly when some
item carries the name. -/
theorem node?_isSome_of_named {items : List MetricsItem} {index : UsageIndex}
    (indexed : ofNodeMetrics items = .ok index) {name : String} (named : name ≠ "")
    (real : name ≠ missingNodeName) :
    (index.node? name).isSome = items.any fun item => item.name.isText name := by
  simp only [node?_isSome indexed, Value.isText_orElse named real]

end UsageIndex
end ClusterCensus
