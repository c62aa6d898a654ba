import ClusterCensus.Gateway.Basic
import ClusterCensus.Proofs.Gateway.Readable

/-!
# Malformed reports

A report is malformed where it says something of the wrong shape; what says nothing counts as
absent. A response is tidied when the malformed is left out of it: objects whose metadata or names
are malformed, what is no object, and of the entries for containers those without a name that is a
text and those with a malformed usage. The usages that a tidied response reports are the usages of
the response that are objects, in the same order.

## Main results

`responseFault?_tidied`: a tidied response can be read. `lastUsage?_tidied` and
`lastNodeUsage?_tidied`: it reports the same as the response where what holds is an object.
-/
namespace ClusterCensus

/-- When the last of some values is kept, it is the last of those kept. -/
theorem getLast?_filter_of_last {α : Type} {p : α → Bool} {values : List α}
    (last : ∀ value ∈ values.getLast?, p value = true) :
    (values.filter p).getLast? = values.getLast? := by
  rw [List.getLast?_eq_head?_reverse] at last
  rw [List.getLast?_filter, List.getLast?_eq_head?_reverse]
  -- Read backwards, the last value comes first.
  generalize values.reverse = backwards at last
  cases backwards with
  | nil => rfl
  | cons value rest => exact List.find?_cons_of_pos (last value rfl)

/-! ### Leaving out -/

namespace Value

/-- The value is of a kind, or it says nothing. -/
def fits (kind : Kind) (value : Value) : Bool :=
  value.kind = kind || !value.isTruthy

/-- The list of those objects that are kept, as they are kept; what is no list is left out. -/
def keepObjects (keep : Fields → Option Fields) : Value → Value
  | list items => list ((items.filterMap fun item => item.fields?.bind keep).map object)
  | _ => null

def isObject (value : Value) : Bool :=
  value.fields?.isSome

end Value

namespace Fields

/-- The fields with what is kept of the objects under a name. -/
def keepIn (name : String) (keep : Fields → Option Fields) (fields : Fields) : Fields :=
  fields.map fun field =>
    if field.1 == name then (field.1, field.2.keepObjects keep) else field

/-- An entry for a container has a text for a name, and its usage is an object or says nothing. -/
def isEntry (entry : Fields) : Bool :=
  (entry.get "name").kind = .text && (entry.get "name").isTruthy &&
    (entry.get "usage").fits .object

def metadata (item : Fields) : Fields :=
  (item.get "metadata").fields?.getD []

/-- The metadata of an object are an object, and the parts of its name are texts, or say nothing. -/
def isNamed (parts : List String) (item : Fields) : Bool :=
  (item.get "metadata").fits .object && parts.all fun part => (item.metadata.get part).fits .text

/-- What is kept of an object in a response. -/
def tidy? : MetricsKind → Fields → Option Fields
  | .pods, item =>
    if item.isNamed ["name", "namespace"] then
      some (item.keepIn "containers" (Option.guard isEntry))
    else none
  | .nodes, item =>
    if item.isNamed ["name"] && (item.get "usage").fits .object then some item else none

variable {item kept : Fields}

theorem tidy?_pods : tidy? .pods item = some kept ↔
    item.isNamed ["name", "namespace"] = true ∧
      item.keepIn "containers" (Option.guard isEntry) = kept := by
  simp [tidy?]

theorem tidy?_nodes : tidy? .nodes item = some kept ↔
    (item.isNamed ["name"] = true ∧ (item.get "usage").fits .object = true) ∧ item = kept := by
  simp [tidy?]

end Fields

/-- The response without what is malformed. -/
def Value.tidied (kind : MetricsKind) : Value → Value
  | object fields => object (Fields.keepIn "items" (Fields.tidy? kind) fields)
  | other => other

def Cluster.tidied (cluster : Cluster) : Cluster :=
  { cluster with metrics := fun kind => (cluster.metrics kind).map (Value.tidied kind) }

/-! ### Reading what is left -/

namespace Fields

variable {name : String} {keep : Fields → Option Fields} (fields : Fields)

/-- Under the name, it is the objects of the value that are kept or left out. -/
theorem get_keepIn_self :
    (fields.keepIn name keep).get name = (fields.get name).keepObjects keep := by
  induction fields with
  | nil => rfl
  | cons field rest ih =>
    obtain ⟨key, value⟩ := field
    unfold keepIn get at ih ⊢
    rw [List.map_cons]
    by_cases same : key = name
    · simp [same]
    · have other : (name == key) = false := beq_false_of_ne (Ne.symm same)
      simpa [same, List.lookup_cons, other] using ih

/-- Under every other name the value stays. -/
theorem get_keepIn_of_ne {other : String} (different : other ≠ name) :
    (fields.keepIn name keep).get other = fields.get other := by
  induction fields with
  | nil => rfl
  | cons field rest ih =>
    obtain ⟨key, value⟩ := field
    unfold keepIn get at ih ⊢
    rw [List.map_cons]
    by_cases same : key = name
    · simpa [same, List.lookup_cons, beq_false_of_ne different] using ih
    · cases found : other == key with
      | false => simpa [same, List.lookup_cons, found] using ih
      | true => simp [same, List.lookup_cons, found]

end Fields

namespace Value

theorem list_or_not (value : Value) : (∃ values, value = .list values) ∨ value.kind ≠ .list := by
  cases value with
  | list values => exact .inl ⟨values, rfl⟩
  | _ => exact .inr (by simp [kind])

theorem keepObjects_of_no_list {value : Value} (noList : value.kind ≠ .list)
    (keep : Fields → Option Fields) : value.keepObjects keep = .null := by
  cases value with
  | list values => exact absurd rfl noList
  | _ => rfl

/-- Only a list has objects among its items. -/
theorem objects_of_items {value : Value} {items : List Value} (walked : value.items = .ok items)
    (noList : value.kind ≠ .list) : items.filterMap fields? = [] := by
  unfold Value.items orElse at walked
  split at walked
  · -- Texts, bytes and objects can be walked too, but none of their items is an object.
    cases value with
    | list values => exact absurd rfl noList
    | text s =>
      obtain rfl := Except.ok.inj walked
      simp [fields?]
    | bytes s =>
      obtain rfl := Except.ok.inj walked
      simp [fields?]
    | object fields =>
      obtain rfl := Except.ok.inj walked
      simp [fields?]
    | _ => cases walked
  · obtain rfl := Except.ok.inj walked
    rfl

theorem filterMap_fields?_object (objects : List Fields) :
    (objects.map object).filterMap fields? = objects := by
  simp [List.filterMap_map, Function.comp_def]

end Value

namespace MetricsItem

/-- The objects of a tidied response are what is kept of the objects of the response. -/
theorem responseObjects_tidied (kind : MetricsKind) (response : Value) :
    responseObjects (response.tidied kind) =
      (responseObjects response).filterMap (Fields.tidy? kind) := by
  cases response with
  | object fields =>
    simp only [Value.tidied, responseObjects, Fields.get_keepIn_self]
    rcases Value.list_or_not (Fields.get fields "items") with ⟨values, listed⟩ | noList
    · rw [listed, Value.keepObjects, Value.items_list, Value.items_list]
      simp only [Value.filterMap_fields?_object, List.filterMap_filterMap]
    · -- What is no list is left out, and there is no object in it.
      have nothing : (Value.null).items = .ok [] := rfl
      rw [Value.keepObjects_of_no_list noList, nothing]
      cases walked : (Fields.get fields "items").items with
      | error fault => rfl
      | ok items => simp only [Value.objects_of_items walked noList, List.filterMap_nil]
  | _ => rfl

/-- Every object of a tidied response is what is kept of an object of the response. -/
theorem source_of_tidied {kind : MetricsKind} {response : Value} {kept : Fields}
    (member : kept ∈ responseObjects (response.tidied kind)) :
    ∃ item ∈ responseObjects response, Fields.tidy? kind item = some kept := by
  rw [responseObjects_tidied] at member
  exact List.mem_filterMap.mp member

theorem objectFault?_eq_none_iff (item : Fields) :
    objectFault? item = none ↔ (item.get "metadata").fits .object = true := by
  unfold objectFault? Value.fits
  cases item.get "metadata" <;> simp [Value.kind]

theorem named_of_tidy? {kind : MetricsKind} {item kept : Fields}
    (tidy : Fields.tidy? kind item = some kept) : objectFault? kept = none := by
  rw [objectFault?_eq_none_iff]
  cases kind with
  | pods =>
    obtain ⟨named, rfl⟩ := Fields.tidy?_pods.mp tidy
    rw [Fields.get_keepIn_of_ne _ (by decide)]
    exact (Bool.and_eq_true_iff.mp named).1
  | nodes =>
    obtain ⟨⟨named, -⟩, rfl⟩ := Fields.tidy?_nodes.mp tidy
    exact (Bool.and_eq_true_iff.mp named).1

/-- The items that a response is read as, when it can be read. -/
def reported (response : Value) : List MetricsItem :=
  (responseObjects response).map ofObject

/-- Every item that a tidied response reports comes from an object that is kept. -/
theorem source_of_reported {kind : MetricsKind} {response : Value} {item : MetricsItem}
    (member : item ∈ reported (response.tidied kind)) :
    ∃ source kept, Fields.tidy? kind source = some kept ∧ ofObject kept = item := by
  obtain ⟨kept, inside, made⟩ := List.mem_map.mp member
  obtain ⟨source, -, tidy⟩ := source_of_tidied inside
  exact ⟨source, kept, tidy, made⟩

/-- Nothing is left in a tidied response that cannot be read. -/
theorem responseFault?_tidied (kind : MetricsKind) (response : Value) :
    responseFault? (response.tidied kind) = none := by
  have kept : ∀ item ∈ responseObjects (response.tidied kind), objectFault? item = none := by
    intro item member
    obtain ⟨source, -, tidy⟩ := source_of_tidied member
    exact named_of_tidy? tidy
  cases response with
  | object fields =>
    simp only [Value.tidied, responseObjects, responseFault?, Fields.get_keepIn_self] at kept ⊢
    obtain ⟨items, walked⟩ : ∃ items, ((Fields.get fields "items").keepObjects
        (Fields.tidy? kind)).items = .ok items := by
      rcases Value.list_or_not (Fields.get fields "items") with ⟨values, listed⟩ | noList
      · rw [listed]
        exact ⟨_, Value.items_list _⟩
      · rw [Value.keepObjects_of_no_list noList]
        exact ⟨[], rfl⟩
    rw [walked] at kept ⊢
    exact List.findSome?_eq_none_iff.mpr kept
  | _ => rfl

theorem ofResponse_ok_iff {response : Value} {items : List MetricsItem} :
    ofResponse response = .ok items ↔
      responseFault? response = none ∧ reported response = items := by
  rw [ofResponse_eq]
  cases responseFault? response <;> simp [reported]

/-! ### The usages that are left -/

theorem orElse_isObject (usage : Value) :
    (usage.orElse (.object [])).isObject = usage.fits .object := by
  unfold Value.orElse Value.fits
  split
  next truthy =>
    rw [truthy]
    cases usage <;> rfl
  next silent => simp [silent, Value.isObject]

theorem not_isText_of_not_fits {value : Value} (malformed : value.fits .text = false)
    (other s : String) : (value.orElse (.text other)).isText s = false := by
  rw [Value.fits, Bool.or_eq_false_iff] at malformed
  have truthy : value.isTruthy = true := by simpa using malformed.2
  rw [Value.orElse, if_pos truthy]
  cases value with
  | text t => simp [Value.kind] at malformed
  | _ => rfl

theorem entries_ofObject (item : Fields) :
    (ofObject item).entries =
      match item.get "containers" with
      | .list values => values.filterMap Value.fields?
      | _ => [] := by
  have containers : (ofObject item).data.get "containers" = item.get "containers" :=
    get_data (by decide)
  unfold entries
  cases held : item.get "containers" <;> simp only [containers, held]

section Kept

variable {item kept : Fields}

/-- Of the entries of an object that is kept, those for containers stay. -/
theorem entries_of_tidy? (tidy : Fields.tidy? .pods item = some kept) :
    (ofObject kept).entries = (ofObject item).entries.filter Fields.isEntry := by
  obtain ⟨-, rfl⟩ := Fields.tidy?_pods.mp tidy
  rw [entries_ofObject, entries_ofObject, Fields.get_keepIn_self]
  cases item.get "containers" with
  | list values =>
    simp only [Value.keepObjects, Value.filterMap_fields?_object]
    rw [List.filter_filterMap]
    congr 1
    funext value
    cases value.fields? <;> rfl
  | _ => rfl

theorem metadata_of_tidy? (tidy : Fields.tidy? .pods item = some kept) :
    kept.metadata = item.metadata := by
  obtain ⟨-, rfl⟩ := Fields.tidy?_pods.mp tidy
  rw [Fields.metadata, Fields.get_keepIn_of_ne _ (by decide)]
  rfl

/-- Under a name that is not empty, what is kept of an object reports those of its usages that are
objects. -/
theorem usagesOf_of_tidy? (tidy : Fields.tidy? .pods item = some kept) {name : String}
    (named : name ≠ "") (space pod : String) :
    (ofObject kept).usagesOf space pod name =
      ((ofObject item).usagesOf space pod name).filter Value.isObject := by
  have entries := entries_of_tidy? tidy
  have metadata := metadata_of_tidy? tidy
  have sameName : (ofObject kept).name = (ofObject item).name :=
    congrArg (fun fields => Fields.get fields "name") metadata
  have sameSpace : (ofObject kept).space = (ofObject item).space :=
    congrArg (fun fields => Fields.get fields "namespace") metadata
  unfold usagesOf
  rw [sameName, sameSpace, entries]
  split
  · rw [List.filter_map, List.filter_filter, List.filter_filter]
    congr 1
    refine List.filter_congr fun entry _ => ?_
    -- An entry of this name is malformed only in its usage.
    rw [Function.comp_apply, orElse_isObject]
    cases same : (Fields.get entry "name").isText name with
    | false => simp
    | true =>
      have truthy := Value.isTruthy_of_isText named same
      have text : (Fields.get entry "name").kind = .text := by
        cases held : Fields.get entry "name" <;> simp [held, Value.isText] at same
        rfl
      simp [Fields.isEntry, truthy, text]
  · rfl

/-- An object that can be read and is left out reports no usage for any container. -/
theorem usagesOf_of_dropped (dropped : Fields.tidy? .pods item = none)
    (fine : objectFault? item = none) (space pod name : String) :
    (ofObject item).usagesOf space pod name = [] := by
  rw [objectFault?_eq_none_iff] at fine
  have unnamed : ¬item.isNamed ["name", "namespace"] = true := by
    simpa [Fields.tidy?] using dropped
  -- The metadata are fine, so one of the two names is malformed.
  have malformed : (item.metadata.get "name").fits .text = false ∨
      (item.metadata.get "namespace").fits .text = false := by
    simpa [Fields.isNamed, fine, ← Bool.eq_false_iff, Classical.or_iff_not_imp_left] using unnamed
  have other : ((ofObject item).space.orElse (.text "")).isText space = false ∨
      ((ofObject item).name.orElse (.text "")).isText pod = false :=
    malformed.symm.imp (fun it => not_isText_of_not_fits it _ _)
      (fun it => not_isText_of_not_fits it _ _)
  unfold usagesOf
  refine if_neg fun both => ?_
  rw [Bool.and_eq_true] at both
  simp [both] at other

theorem nodeUsagesOf_ofObject (item : Fields) (name : String) :
    (ofObject item).nodeUsagesOf name =
      if ((item.metadata.get "name").orElse (.text UsageIndex.missingNodeName)).isText name then
        [(item.get "usage").orElse (.object [])]
      else [] := by
  have usage : (ofObject item).data.get "usage" = item.get "usage" := get_data (by decide)
  rw [nodeUsagesOf, usage]
  rfl

/-- Of the usages that a kept object reports for a node, those that are objects stay. -/
theorem nodeUsagesOf_of_tidy? (tidy : Fields.tidy? .nodes item = some kept) (name : String) :
    (ofObject kept).nodeUsagesOf name =
      ((ofObject item).nodeUsagesOf name).filter Value.isObject := by
  obtain ⟨⟨-, fits⟩, rfl⟩ := Fields.tidy?_nodes.mp tidy
  rw [nodeUsagesOf_ofObject]
  split
  · have usage := orElse_isObject (item.get "usage")
    rw [fits] at usage
    simp [usage]
  · rfl

/-- No usage for a node that is an object is reported by an object that can be read and is left out.
-/
theorem nodeUsagesOf_of_dropped (dropped : Fields.tidy? .nodes item = none)
    (fine : objectFault? item = none) (name : String) :
    ((ofObject item).nodeUsagesOf name).filter Value.isObject = [] := by
  rw [objectFault?_eq_none_iff] at fine
  have malformed : (item.metadata.get "name").fits .text = false ∨
      (item.get "usage").fits .object = false := by
    simpa [Fields.tidy?, Fields.isNamed, fine, ← Bool.eq_false_iff,
      Classical.or_iff_not_imp_left] using dropped
  rw [nodeUsagesOf_ofObject]
  rcases malformed with unnamed | unused
  · rw [not_isText_of_not_fits unnamed]
    rfl
  · rw [← orElse_isObject] at unused
    split
    · simp [unused]
    · rfl

/-! ### The keys that are left -/

theorem text_of_kind {value : Value} (text : value.kind = .text) : ∃ s, value = .text s := by
  cases value with
  | text s => exact ⟨s, rfl⟩
  | _ => cases text

theorem orElse_of_fits {value : Value} (fits : value.fits .text = true) (other : String) :
    ∃ s, value.orElse (.text other) = .text s := by
  unfold Value.orElse
  split
  next truthy =>
    rw [Value.fits, truthy, Bool.not_true, Bool.or_false, decide_eq_true_eq] at fits
    exact text_of_kind fits
  next => exact ⟨other, rfl⟩

/-- The parts of the name of an object that is kept are texts, or say nothing. -/
theorem fits_of_isNamed {parts : List String} (named : item.isNamed parts = true) {part : String}
    (member : part ∈ parts) : (item.metadata.get part).fits .text = true :=
  List.all_eq_true.mp (Bool.and_eq_true_iff.mp named).2 part member

/-- What is kept of an object reports under keys that can be looked up. -/
theorem containerKeys_of_tidy? (tidy : Fields.tidy? .pods item = some kept) :
    ∀ report ∈ UsageIndex.containerReports (ofObject kept), report.1.fault? = none := by
  intro report member
  obtain ⟨entry, listed, -, rfl⟩ := UsageIndex.entry_of_containerReports member
  rw [entries_of_tidy? tidy] at listed
  have shape := (List.mem_filter.mp listed).2
  simp only [Fields.isEntry, Bool.and_eq_true, decide_eq_true_eq] at shape
  have metadata := metadata_of_tidy? tidy
  have named := (Fields.tidy?_pods.mp tidy).1
  -- All three parts of the key are texts, or the object would not have been kept.
  obtain ⟨name, nameText⟩ := text_of_kind shape.1.1
  obtain ⟨pod, podText⟩ := orElse_of_fits (fits_of_isNamed named (List.mem_cons_self)) ""
  obtain ⟨space, spaceText⟩ :=
    orElse_of_fits (fits_of_isNamed named (List.mem_cons_of_mem _ (List.mem_singleton_self _))) ""
  rw [← metadata] at podText spaceText
  change (UsageKey.container ((kept.metadata.get "namespace").orElse (.text ""))
    ((kept.metadata.get "name").orElse (.text "")) (Fields.get entry "name")).fault? = none
  rw [podText, spaceText, nameText]
  rfl

theorem nodeKey_of_tidy? (tidy : Fields.tidy? .nodes item = some kept) :
    (UsageIndex.nodeReport (ofObject kept)).1.fault? = none := by
  obtain ⟨⟨named, -⟩, rfl⟩ := Fields.tidy?_nodes.mp tidy
  obtain ⟨name, nameText⟩ :=
    orElse_of_fits (fits_of_isNamed named (List.mem_singleton_self _)) UsageIndex.missingNodeName
  change (UsageKey.node ((item.metadata.get "name").orElse
    (.text UsageIndex.missingNodeName))).fault? = none
  rw [nameText]
  rfl

end Kept

theorem objectFault?_of_flawless {response : Value} (flawless : responseFault? response = none) :
    ∀ item ∈ responseObjects response, objectFault? item = none := by
  cases response with
  | object fields =>
    simp only [responseFault?, responseObjects] at flawless ⊢
    split at flawless
    next => cases flawless
    next => exact List.findSome?_eq_none_iff.mp flawless
  | _ => exact fun item member => by cases member

/-- If what is kept of an object reports the usages of the object that are objects, and what is left
out reports none, then so does a tidied response. -/
theorem flatMap_tidied {kind : MetricsKind} {usages : MetricsItem → List Value} {response : Value}
    (flawless : responseFault? response = none)
    (left : ∀ item kept, Fields.tidy? kind item = some kept →
      usages (ofObject kept) = (usages (ofObject item)).filter Value.isObject)
    (out : ∀ item, Fields.tidy? kind item = none → objectFault? item = none →
      (usages (ofObject item)).filter Value.isObject = []) :
    (reported (response.tidied kind)).flatMap usages =
      ((reported response).flatMap usages).filter Value.isObject := by
  have fine := objectFault?_of_flawless flawless
  rw [reported, reported, responseObjects_tidied]
  generalize responseObjects response = objects at fine
  -- Each object is kept or left out, and brings the same usages in either case.
  induction objects with
  | nil => rfl
  | cons item rest ih =>
    rw [List.forall_mem_cons] at fine
    rw [List.map_cons, List.flatMap_cons, List.filter_append, ← ih fine.2, List.filterMap_cons]
    cases tidy : Fields.tidy? kind item with
    | none => rw [out item tidy fine.1, List.nil_append]
    | some kept => rw [← left item kept tidy, List.map_cons, List.flatMap_cons]

/-- Every usage in a tidied response is an object. -/
theorem isObject_of_tidied {kind : MetricsKind} {usages : MetricsItem → List Value}
    {response : Value} (left : ∀ item kept, Fields.tidy? kind item = some kept →
      usages (ofObject kept) = (usages (ofObject item)).filter Value.isObject) :
    ∀ usage ∈ (reported (response.tidied kind)).flatMap usages, usage.isObject = true := by
  intro usage member
  obtain ⟨_, inside, reports⟩ := List.mem_flatMap.mp member
  obtain ⟨item, kept, tidy, rfl⟩ := source_of_reported inside
  rw [left item kept tidy] at reports
  exact (List.mem_filter.mp reports).2

end MetricsItem

/-! ### Quantities -/

/-- The quantities of a usage have few digits where they are texts. -/
def Value.IsModestUsage (usage : Value) : Prop :=
  ∀ fields, usage = .object fields → ∀ name ∈ ["cpu", "memory"], ∀ s,
    Fields.get fields name = .text s → Quantity.IsModest s.toList

/-- All quantities in a response have few digits where they are texts. -/
structure Value.IsModestResponse (response : Value) : Prop where
  usage : ∀ item ∈ MetricsItem.responseObjects response, (item.get "usage").IsModestUsage
  entries : ∀ item ∈ MetricsItem.responseObjects response,
    ∀ entry ∈ (MetricsItem.ofObject item).entries, (Fields.get entry "usage").IsModestUsage

/-- A response stays modest when the malformed is left out of it. -/
theorem Value.IsModestResponse.tidied {response : Value} (modest : response.IsModestResponse)
    (kind : MetricsKind) : (response.tidied kind).IsModestResponse := by
  constructor
  · intro kept member
    obtain ⟨item, inside, tidy⟩ := MetricsItem.source_of_tidied member
    cases kind with
    | pods =>
      obtain ⟨-, rfl⟩ := Fields.tidy?_pods.mp tidy
      rw [Fields.get_keepIn_of_ne _ (by decide)]
      exact modest.usage item inside
    | nodes =>
      obtain ⟨-, rfl⟩ := Fields.tidy?_nodes.mp tidy
      exact modest.usage item inside
  · intro kept member entry listed
    obtain ⟨item, inside, tidy⟩ := MetricsItem.source_of_tidied member
    cases kind with
    | pods =>
      rw [MetricsItem.entries_of_tidy? tidy] at listed
      exact modest.entries item inside entry (List.mem_filter.mp listed).1
    | nodes =>
      obtain ⟨-, rfl⟩ := Fields.tidy?_nodes.mp tidy
      exact modest.entries item inside entry listed

theorem Value.IsModestUsage.isUsage {usage : Value} (modest : usage.IsModestUsage)
    (object : (usage.orElse (.object [])).isObject = true) :
    (usage.orElse (.object [])).IsUsage := by
  unfold orElse at object ⊢
  split at object
  next truthy =>
    rw [if_pos truthy]
    cases usage with
    | object fields => exact ⟨fields, rfl, modest fields rfl⟩
    | _ => cases object
  next silent =>
    rw [if_neg silent]
    exact ⟨[], rfl, fun _ _ s held => nomatch held⟩

namespace MetricsItem

section Modest

variable {response : Value} (modest : response.IsModestResponse) {usage : Value}
  (object : usage.isObject = true)

include modest object

theorem isUsage_of_lastUsage? {space pod name : String}
    (last : usage ∈ lastUsage? (reported response) space pod name) : usage.IsUsage := by
  obtain ⟨item, member, reports⟩ := List.mem_flatMap.mp (List.mem_of_getLast? last)
  obtain ⟨fields, inside, rfl⟩ := List.mem_map.mp member
  unfold usagesOf at reports
  split at reports
  · obtain ⟨entry, listed, rfl⟩ := List.mem_map.mp reports
    exact (modest.entries fields inside entry (List.mem_filter.mp listed).1).isUsage object
  · cases reports

theorem isUsage_of_lastNodeUsage? {name : String}
    (last : usage ∈ lastNodeUsage? (reported response) name) : usage.IsUsage := by
  obtain ⟨item, member, reports⟩ := List.mem_flatMap.mp (List.mem_of_getLast? last)
  obtain ⟨fields, inside, rfl⟩ := List.mem_map.mp member
  rw [nodeUsagesOf_ofObject] at reports
  split at reports
  · obtain rfl := List.mem_singleton.mp reports
    exact (modest.usage fields inside).isUsage object
  · cases reports

end Modest

/-! ## Main results -/

/-- The last usage reported for a container stays the last one, if it is an object. -/
theorem lastUsage?_tidied {response : Value} (flawless : responseFault? response = none)
    {name : String} (named : name ≠ "") {space pod : String}
    (last : ∀ usage ∈ lastUsage? (reported response) space pod name, usage.isObject = true) :
    lastUsage? (reported (response.tidied .pods)) space pod name =
      lastUsage? (reported response) space pod name := by
  rw [lastUsage?, flatMap_tidied flawless
    (fun _ _ tidy => usagesOf_of_tidy? tidy named space pod)
    fun _ dropped fine => by rw [usagesOf_of_dropped dropped fine, List.filter_nil]]
  exact getLast?_filter_of_last last

theorem lastNodeUsage?_tidied {response : Value} (flawless : responseFault? response = none)
    {name : String} (last : ∀ usage ∈ lastNodeUsage? (reported response) name,
      usage.isObject = true) :
    lastNodeUsage? (reported (response.tidied .nodes)) name =
      lastNodeUsage? (reported response) name := by
  rw [lastNodeUsage?, flatMap_tidied flawless (fun _ _ tidy => nodeUsagesOf_of_tidy? tidy name)
    fun _ dropped fine => nodeUsagesOf_of_dropped dropped fine name]
  exact getLast?_filter_of_last last

end MetricsItem

end ClusterCensus
