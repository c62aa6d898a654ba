import ClusterCensus.Proofs.Gateway.Response
import ClusterCensus.Proofs.Quantity.Modest

/-!
# Readable reports

A response is readable when what it says has the shape of metrics, as far as it says anything: any
part may be absent, but a name is a text, metadata and usage are objects, and the quantities of a
usage have few digits where they are texts. Readable reports convert to items, the items can be
indexed, and whatever is found in the index has quantities that can be read.

## Main results

`UsageIndex.ofPodMetrics_readable` and `UsageIndex.ofNodeMetrics_readable`.
-/
namespace ClusterCensus

/-! ### Shapes -/

namespace Value

/-- The value is absent or a text. -/
def IsOptionalText (value : Value) : Prop :=
  value = .null ∨ ∃ s, value = .text s

def IsOptionalList (value : Value) : Prop :=
  value = .null ∨ ∃ items, value = .list items

def IsOptionalObject (value : Value) : Prop :=
  value = .null ∨ ∃ fields, value = .object fields

theorem items_list (values : List Value) : (list values).items = .ok values := by
  cases values <;> rfl

/-- The value is an object, and its quantities have few digits where they are texts. -/
def IsUsage (value : Value) : Prop :=
  ∃ fields, value = .object fields ∧
    ∀ name ∈ ["cpu", "memory"], ∀ s, Fields.get fields name = .text s → Quantity.IsModest s.toList

def IsOptionalUsage (value : Value) : Prop :=
  value = .null ∨ value.IsUsage

end Value

/-- An entry for a container may lack its name and its usage. -/
structure Fields.IsReadableEntry (entry : Fields) : Prop where
  name : (entry.get "name").IsOptionalText
  usage : (entry.get "usage").IsOptionalUsage

/-- An object among the items of a response may lack metadata, names, usage and containers. -/
structure Fields.IsReadableItem (item : Fields) : Prop where
  metadata : (item.get "metadata").IsOptionalObject
  named : ∀ metadata, item.get "metadata" = .object metadata →
    (Fields.get metadata "name").IsOptionalText ∧ (Fields.get metadata "namespace").IsOptionalText
  usage : (item.get "usage").IsOptionalUsage
  entries : ∀ values, item.get "containers" = .list values →
    ∀ entry ∈ values.filterMap Value.fields?, Fields.IsReadableEntry entry

/-- A response may lack items; what is no object does not count. -/
structure Value.IsReadableResponse (response : Value) : Prop where
  items : ∀ fields, response = .object fields → (Fields.get fields "items").IsOptionalList
  each : ∀ item ∈ MetricsItem.responseObjects response, Fields.IsReadableItem item

/-! ### Items -/

namespace MetricsItem

/-- A converted item whose parts are readable. -/
structure IsReadable (item : MetricsItem) : Prop where
  name : item.name.IsOptionalText
  space : item.space.IsOptionalText
  usage : (item.data.get "usage").IsOptionalUsage
  entries : ∀ entry ∈ item.entries, Fields.IsReadableEntry entry

theorem get_data {fields : Fields} {name : String} (outside : envelope.contains name = false) :
    Fields.get (fields.filter fun field => !envelope.contains field.1) name = fields.get name := by
  unfold Fields.get
  congr 1
  induction fields with
  | nil => rfl
  | cons field rest ih =>
    obtain ⟨key, value⟩ := field
    rw [List.filter_cons, List.lookup_cons]
    cases same : name == key with
    | true =>
      -- The field that is looked for is outside the envelope, so it stays.
      have kept : envelope.contains key = false := by rw [← eq_of_beq same, outside]
      simp only [kept, Bool.not_false, if_true, List.lookup_cons, same]
    | false =>
      cases envelope.contains key with
      | false => simp only [Bool.not_false, if_true, List.lookup_cons, same, ih]
      | true => simp only [Bool.not_true, Bool.false_eq_true, if_false, ih]

theorem objectFault?_of_readable {item : Fields} (readable : item.IsReadableItem) :
    objectFault? item = none := by
  unfold objectFault?
  rcases readable.metadata with absent | ⟨metadata, given⟩
  · rw [absent]
    rfl
  · rw [given]

theorem ofObject_readable {item : Fields} (readable : item.IsReadableItem) :
    (ofObject item).IsReadable := by
  have usage : (ofObject item).data.get "usage" = item.get "usage" := get_data (by decide)
  have containers : (ofObject item).data.get "containers" = item.get "containers" :=
    get_data (by decide)
  have named : (ofObject item).name.IsOptionalText ∧ (ofObject item).space.IsOptionalText := by
    unfold ofObject
    -- Metadata that say nothing leave both names out.
    rcases readable.metadata with absent | ⟨metadata, given⟩
    · rw [absent]
      exact ⟨.inl rfl, .inl rfl⟩
    · rw [given]
      exact readable.named metadata given
  refine ⟨named.1, named.2, usage ▸ readable.usage, ?_⟩
  intro entry member
  unfold entries at member
  rw [containers] at member
  split at member
  next values listed => exact readable.entries values listed entry member
  next => cases member

/-- A response of the expected shape is read, and each of its items has the expected shape too. -/
theorem ofResponse_readable {response : Value} (readable : response.IsReadableResponse) :
    ∃ items, ofResponse response = .ok items ∧ ∀ item ∈ items, item.IsReadable := by
  have fine : ∀ objects : List Fields, (∀ item ∈ objects, item.IsReadableItem) →
      objects.findSome? objectFault? = none := fun objects each =>
    List.findSome?_eq_none_iff.mpr fun item member => objectFault?_of_readable (each item member)
  have flawless : responseFault? response = none := by
    cases response with
    | object fields =>
      have each := readable.each
      simp only [responseObjects] at each
      simp only [responseFault?]
      rcases readable.items fields rfl with absent | ⟨values, listed⟩
      · rw [absent]
        rfl
      · rw [listed, Value.items_list] at each ⊢
        exact fine _ each
    | _ => rfl
  refine ⟨(responseObjects response).map ofObject, ?_, ?_⟩
  · rw [ofResponse_eq, flawless]
  · intro item member
    obtain ⟨fields, inside, rfl⟩ := List.mem_map.mp member
    exact ofObject_readable (readable.each fields inside)

end MetricsItem

/-! ### Indexes -/

namespace UsageIndex

/-- Reports under keys that can be looked up are indexed. -/
theorem ofReports_ok {reports : List (UsageKey × Value)}
    (usable : ∀ report ∈ reports, report.1.fault? = none) :
    ∃ index, ofReports reports = .ok index := by
  unfold ofReports
  generalize (Table.empty : UsageIndex) = start
  induction reports generalizing start with
  | nil => exact ⟨start, rfl⟩
  | cons report rest ih =>
    have entered : enter start report = .ok (start.put report.1 report.2) := by
      rw [enter, usable report (.head _)]
    rw [List.foldlM_cons, entered]
    exact ih (fun other member => usable other (.tail _ member)) _

theorem reported_of_find? {reports : List (UsageKey × Value)} {index : UsageIndex}
    (indexed : ofReports reports = .ok index) {key : UsageKey} {usage : Value}
    (found : index.find? key = some usage) : ∃ report ∈ reports, report.2 = usage := by
  rw [find?_of_indexed indexed] at found
  obtain ⟨report, member, same⟩ := List.mem_map.mp (List.mem_of_getLast? found)
  exact ⟨report, (List.mem_filter.mp member).1, same⟩

/-- The reports have keys made of texts, and usages. -/
def AreReadable (reports : List (UsageKey × Value)) : Prop :=
  ∀ report ∈ reports, report.1.fault? = none ∧ report.2.IsUsage

/-- The index of readable reports gives nothing but usages. -/
theorem ofReports_readable {reports : List (UsageKey × Value)} (readable : AreReadable reports) :
    ∃ index, ofReports reports = .ok index ∧
      ∀ key usage, index.find? key = some usage → usage.IsUsage := by
  obtain ⟨index, indexed⟩ := ofReports_ok fun report member => (readable report member).1
  refine ⟨index, indexed, ?_⟩
  intro key usage found
  obtain ⟨report, member, rfl⟩ := reported_of_find? indexed found
  exact (readable report member).2

theorem isUsage_report {value : Value} (optional : value.IsOptionalUsage) (key : UsageKey) :
    (report key value).2.IsUsage := by
  -- A usage that is absent is taken for an empty one, which has no quantities.
  have nothing : (Value.object []).IsUsage := ⟨[], rfl, fun _ _ s held => nomatch held⟩
  rcases optional with rfl | ⟨fields, rfl, modest⟩
  · exact nothing
  · cases fields with
    | nil => exact nothing
    | cons field rest => exact ⟨_, rfl, modest⟩

theorem orElse_of_optionalText {value : Value} (optional : value.IsOptionalText) (other : String) :
    ∃ s, value.orElse (.text other) = .text s := by
  rcases optional with rfl | ⟨s, rfl⟩
  · exact ⟨other, rfl⟩
  · unfold Value.orElse
    split
    · exact ⟨s, rfl⟩
    · exact ⟨other, rfl⟩

/-- The reports of a readable item are readable. -/
theorem containerReports_readable {item : MetricsItem} (readable : item.IsReadable) :
    AreReadable (containerReports item) := by
  intro entered member
  obtain ⟨entry, listed, named, rfl⟩ := entry_of_containerReports member
  have shape := readable.entries entry listed
  obtain ⟨space, spaceText⟩ := orElse_of_optionalText readable.space ""
  obtain ⟨pod, podText⟩ := orElse_of_optionalText readable.name ""
  refine ⟨?_, isUsage_report shape.usage _⟩
  rcases shape.name with absent | ⟨name, text⟩
  · rw [absent] at named
    cases named
  · rw [spaceText, podText, text]
    rfl

/-! ## Main results -/

/-- Pod metrics that are readable can be indexed, and what is found for a container is a usage. -/
theorem ofPodMetrics_readable {items : List MetricsItem}
    (readable : ∀ item ∈ items, item.IsReadable) :
    ∃ index, ofPodMetrics items = .ok index ∧ ∀ space pod name usage,
      index.container? space pod name = some usage → usage.IsUsage := by
  have each : AreReadable (items.flatMap containerReports) := by
    intro report member
    obtain ⟨item, inside, reported⟩ := List.mem_flatMap.mp member
    exact containerReports_readable (readable item inside) report reported
  obtain ⟨index, indexed, usages⟩ := ofReports_readable each
  exact ⟨index, indexed, fun space pod name => usages _⟩

/-- Node metrics that are readable can be indexed, and what is found for a node is a usage. -/
theorem ofNodeMetrics_readable {items : List MetricsItem}
    (readable : ∀ item ∈ items, item.IsReadable) :
    ∃ index, ofNodeMetrics items = .ok index ∧ ∀ name usage,
      index.node? name = some usage → usage.IsUsage := by
  have each : AreReadable (items.map nodeReport) := by
    intro report member
    obtain ⟨item, inside, rfl⟩ := List.mem_map.mp member
    obtain ⟨name, text⟩ := orElse_of_optionalText (readable item inside).name missingNodeName
    refine ⟨?_, isUsage_report (readable item inside).usage _⟩
    unfold nodeReport
    rw [text]
    rfl
  obtain ⟨index, indexed, usages⟩ := ofReports_readable each
  exact ⟨index, indexed, fun name => usages _⟩

end UsageIndex
end ClusterCensus
