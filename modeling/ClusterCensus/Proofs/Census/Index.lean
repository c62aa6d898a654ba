import ClusterCensus.Proofs.Census.Join
import ClusterCensus.Proofs.Gateway.Readable

/-!
# The index of container usage

Items whose names are texts, as far as they are given, can always be indexed. The index is known by
its answers: it answers for a container with the usage of the last entry that has its name, among
the items that have its namespace and pod. So the items that come later override those that come
before, and the order of items that are for different pods does not matter.

## Main result

`last_entry_wins`: the answers of an index of named items.
-/
namespace ClusterCensus

variable {items others : List MetricsItem}

/-! ### Named items -/

namespace MetricsItem

/-- Name and namespace of the item and the names of its entries are texts, where they are given. -/
structure IsNamed (item : MetricsItem) : Prop where
  name : item.name.IsOptionalText
  space : item.space.IsOptionalText
  entries : ∀ entry ∈ item.entries, (Fields.get entry "name").IsOptionalText

/-- Namespace and pod that the item is for; absent ones are empty. -/
def owner (item : MetricsItem) : Value × Value :=
  (item.space.orElse (.text ""), item.name.orElse (.text ""))

end MetricsItem

/-- The value is an entry that reports something: an object with a name. -/
def Value.isNamedEntry : Value → Bool
  | .object entry => (Fields.get entry "name").isTruthy
  | _ => false

/-- The item with nothing but the entries that report something; without a list of entries nothing
is left of it. -/
def MetricsItem.essence? (item : MetricsItem) : Option MetricsItem :=
  match item.data.get "containers" with
  | .list values =>
    some { item with data := [("containers", .list (values.filter Value.isNamedEntry))] }
  | _ => none

/-- Only texts are the same parts of a key as texts, and only equal ones. -/
theorem UsageKey.sameParts_texts {parts : List Value} {texts : List String} :
    sameParts parts (texts.map .text) = true ↔ parts = texts.map .text := by
  induction parts generalizing texts with
  | nil => cases texts <;> simp [sameParts]
  | cons part rest ih =>
    cases texts with
    | nil => simp [sameParts]
    | cons s texts => simp [sameParts, Value.sameKey_text, ih]

namespace UsageIndex

/-- Where names are texts, so are the keys. -/
theorem key_of_named {item : MetricsItem} (named : item.IsNamed) {entered : UsageKey × Value}
    (member : entered ∈ containerReports item) :
    ∃ space pod name, name ≠ "" ∧
      entered.1 = .container (.text space) (.text pod) (.text name) := by
  obtain ⟨entry, listed, truthy, rfl⟩ := entry_of_containerReports member
  obtain ⟨space, spaceText⟩ := orElse_of_optionalText named.space ""
  obtain ⟨pod, podText⟩ := orElse_of_optionalText named.name ""
  rcases named.entries entry listed with absent | ⟨name, text⟩
  · rw [absent] at truthy
    cases truthy
  · refine ⟨space, pod, name, ?_, ?_⟩
    · rintro rfl
      rw [text] at truthy
      cases truthy
    · rw [report, spaceText, podText, text]

/-- Named items can be indexed. -/
theorem ofPodMetrics_named (named : ∀ item ∈ items, item.IsNamed) :
    ∃ index, ofPodMetrics items = .ok index := by
  refine ofReports_ok fun entered member => ?_
  obtain ⟨item, inside, reported⟩ := List.mem_flatMap.mp member
  obtain ⟨space, pod, name, -, key⟩ := key_of_named (named item inside) reported
  rw [key]
  rfl

section Indexed

variable {index : UsageIndex} (indexed : ofPodMetrics items = .ok index)
include indexed

/-- What is found in an index has been entered under the same key. -/
theorem entered_of_isSome {key : UsageKey} (found : (index.find? key).isSome) :
    ∃ item ∈ items, ∃ entered ∈ containerReports item, (entered.1 == key) = true := by
  obtain ⟨usage, found⟩ := Option.isSome_iff_exists.mp found
  rw [find?_of_indexed indexed] at found
  obtain ⟨entered, member, -⟩ := List.mem_map.mp (List.mem_of_getLast? found)
  obtain ⟨inside, same⟩ := List.mem_filter.mp member
  obtain ⟨item, listed, reported⟩ := List.mem_flatMap.mp inside
  exact ⟨item, listed, entered, reported, same⟩

variable (named : ∀ item ∈ items, item.IsNamed)
include named

/-- Every key of an index of named items is made of three texts, of which the last is not empty. -/
theorem texts_of_isSome {key : UsageKey} (found : (index.find? key).isSome) :
    ∃ space pod name, name ≠ "" ∧ key = .container (.text space) (.text pod) (.text name) := by
  obtain ⟨item, listed, entered, reported, same⟩ := entered_of_isSome indexed found
  obtain ⟨space, pod, name, nonempty, made⟩ := key_of_named (named item listed) reported
  refine ⟨space, pod, name, nonempty, ?_⟩
  rw [made] at same
  obtain ⟨parts⟩ := key
  have equal : parts = [space, pod, name].map .text :=
    UsageKey.sameParts_texts.mp (UsageKey.sameParts_symm same)
  rw [equal]
  rfl

/-- An index of named items answers with the last usage that is reported, and it knows no container
without a name. -/
theorem container?_named (space pod name : String) :
    index.container? space pod name =
      if name = "" then none else MetricsItem.lastUsage? items space pod name := by
  split
  next unnamed =>
    subst unnamed
    by_contra known
    obtain ⟨_, _, name, nonempty, key⟩ :=
      texts_of_isSome indexed named (Option.isSome_iff_ne_none.mpr known)
    simp only [UsageKey.container, UsageKey.mk.injEq, List.cons.injEq, Value.text.injEq] at key
    exact nonempty key.2.2.1.symm
  next nonempty => exact container?_eq indexed nonempty space pod

end Indexed

/-! ### What changes nothing -/

/-- Only the entries that report something are indexed. -/
theorem containerReports_essence? (item : MetricsItem) :
    containerReports item = (item.essence?.map containerReports).getD [] := by
  unfold MetricsItem.essence?
  cases listed : item.data.get "containers" with
  | list values =>
    rw [containerReports, listed, Option.map_some, Option.getD_some]
    change values.filterMap (containerReport? item) =
      (values.filter Value.isNamedEntry).filterMap (containerReport? item)
    rw [List.filterMap_filter]
    congr 1
    funext value
    -- What is no entry with a name makes no report.
    cases value with
    | object entry => simp only [containerReport?, Value.isNamedEntry]; split <;> simp_all
    | _ => rfl
  | _ => simp [containerReports, listed]

theorem ofPodMetrics_essence? (items : List MetricsItem) :
    ofPodMetrics (items.filterMap MetricsItem.essence?) = ofPodMetrics items := by
  have same : (items.filterMap MetricsItem.essence?).flatMap containerReports =
      items.flatMap containerReports := by
    induction items with
    | nil => rfl
    | cons item rest ih =>
      rw [List.flatMap_cons, ← ih, containerReports_essence? item, List.filterMap_cons]
      cases item.essence? <;> rfl
  rw [ofPodMetrics, ofPodMetrics, same]

end UsageIndex

/-! ### Later items and other orders -/

/-- Lists may change places when at most one of them has anything. -/
theorem flatMap_eq_of_perm {α β : Type} {f : α → List β} {one other : List α}
    (same : one.Perm other) (apart : one.Pairwise fun a b => f a = [] ∨ f b = []) :
    one.flatMap f = other.flatMap f := by
  induction same with
  | nil => rfl
  | cons a _ ih => rw [List.flatMap_cons, List.flatMap_cons, ih (List.pairwise_cons.mp apart).2]
  | swap a b rest =>
    -- Of two neighbours at most one contributes.
    have either := (List.pairwise_cons.mp apart).1 a (.head _)
    rcases either with nothing | nothing <;> simp [nothing]
  | trans first _ ih ih' =>
    have symm : ∀ {a b : α}, f a = [] ∨ f b = [] → f b = [] ∨ f a = [] := Or.symm
    exact (ih apart).trans (ih' ((first.pairwise_iff symm).mp apart))

namespace MetricsItem

theorem lastUsage?_append (earlier later : List MetricsItem) (space pod name : String) :
    lastUsage? (earlier ++ later) space pod name =
      (lastUsage? later space pod name).or (lastUsage? earlier space pod name) := by
  rw [lastUsage?, List.flatMap_append, List.getLast?_append]
  rfl

/-- An item reports usage for its owner alone. -/
theorem owner_of_usagesOf {item : MetricsItem} {space pod name : String}
    (reported : item.usagesOf space pod name ≠ []) : item.owner = (.text space, .text pod) := by
  obtain ⟨ofSpace, ofPod, -⟩ := (item.usagesOf_ne_nil space pod name).mp reported
  rw [← Value.sameKey_text_eq, Value.sameKey_text] at ofSpace ofPod
  rw [owner, ofSpace, ofPod]

/-- Items for different pods may come in any order. -/
theorem lastUsage?_perm (same : items.Perm others)
    (apart : items.Pairwise fun a b => a.owner ≠ b.owner) (space pod name : String) :
    lastUsage? items space pod name = lastUsage? others space pod name := by
  have either : items.Pairwise fun a b =>
      a.usagesOf space pod name = [] ∨ b.usagesOf space pod name = [] := by
    refine apart.imp fun distinct => ?_
    by_contra both
    rw [not_or] at both
    exact distinct ((owner_of_usagesOf both.1).trans (owner_of_usagesOf both.2).symm)
  rw [lastUsage?, flatMap_eq_of_perm same either]
  rfl

end MetricsItem

/-! ## Main result -/

namespace UsageIndex

/-- Items with names and namespaces that are texts, where they are given, can be indexed, whatever
else they hold. For a container the index holds the usage of the last entry of its name among the
items of its namespace and pod, and it holds nothing else. What is no list of entries, what is no
entry, and entries without a name make no difference. Later items override earlier ones, and items
for different pods may come in any order. -/
theorem last_entry_wins (items : List MetricsItem) (named : ∀ item ∈ items, item.IsNamed) :
    ∃ index, ofPodMetrics items = .ok index ∧
      (∀ space pod name,
        ((index.container? space pod name).isSome ↔
          name ≠ "" ∧ ∃ item ∈ items, item.reports space pod name) ∧
        (name ≠ "" → index.container? space pod name =
          MetricsItem.lastUsage? items space pod name)) ∧
      (∀ key, (index.find? key).isSome →
        ∃ space pod name, key = .container (.text space) (.text pod) (.text name)) ∧
      ofPodMetrics (items.filterMap MetricsItem.essence?) = .ok index ∧
      (∀ earlier later, items = earlier ++ later →
        ∃ first second, ofPodMetrics earlier = .ok first ∧ ofPodMetrics later = .ok second ∧
          ∀ space pod name, index.container? space pod name =
            (second.container? space pod name).or (first.container? space pod name)) ∧
      ∀ others, items.Perm others → items.Pairwise (fun a b => a.owner ≠ b.owner) →
        ∃ other, ofPodMetrics others = .ok other ∧
          ∀ space pod name, other.container? space pod name = index.container? space pod name := by
  obtain ⟨index, indexed⟩ := ofPodMetrics_named named
  have answers := container?_named indexed named
  refine ⟨index, indexed, ?_, ?_, ?_, ?_, ?_⟩
  · intro space pod name
    constructor
    · rw [answers]
      by_cases unnamed : name = ""
      · simp [unnamed]
      · rw [if_neg unnamed, lastUsage?_isSome]
        simp [unnamed]
    · intro nonempty
      rw [answers, if_neg nonempty]
  · intro key found
    obtain ⟨space, pod, name, -, made⟩ := texts_of_isSome indexed named found
    exact ⟨space, pod, name, made⟩
  · rw [ofPodMetrics_essence?, indexed]
  · rintro earlier later rfl
    have namedEarlier : ∀ item ∈ earlier, item.IsNamed :=
      fun item member => named item (List.mem_append_left _ member)
    have namedLater : ∀ item ∈ later, item.IsNamed :=
      fun item member => named item (List.mem_append_right _ member)
    obtain ⟨first, firstIndexed⟩ := ofPodMetrics_named namedEarlier
    obtain ⟨second, secondIndexed⟩ := ofPodMetrics_named namedLater
    refine ⟨first, second, firstIndexed, secondIndexed, fun space pod name => ?_⟩
    rw [answers, container?_named firstIndexed namedEarlier,
      container?_named secondIndexed namedLater, MetricsItem.lastUsage?_append]
    split <;> rfl
  · intro others same apart
    have namedOthers : ∀ item ∈ others, item.IsNamed :=
      fun item member => named item (same.mem_iff.mpr member)
    obtain ⟨other, otherIndexed⟩ := ofPodMetrics_named namedOthers
    refine ⟨other, otherIndexed, fun space pod name => ?_⟩
    rw [answers, container?_named otherIndexed namedOthers,
      MetricsItem.lastUsage?_perm same apart]

end UsageIndex

/-! ### A sample -/

namespace Sample

/-- An item without metadata, of which only the last entry reports something, and that no usage. -/
def nameless : MetricsItem where
  name := .null
  space := .null
  data := [("containers", .list
    [.int 1, .object [("usage", .int 2)], .object [("name", .text "web")]])]

end Sample

open UsageIndex in
/-- Of two entries for one container the last one holds. An item without metadata reports a
container of the pod without name and namespace; it is for another pod, so it may as well come
first. -/
theorem last_entry_wins_sample :
    (∀ item ∈ [Sample.podMetrics, Sample.nameless], item.IsNamed) ∧
      ∃ index other, ofPodMetrics [Sample.podMetrics, Sample.nameless] = .ok index ∧
        ofPodMetrics [Sample.nameless, Sample.podMetrics] = .ok other ∧
        (∃ usage, index.container? "default" "shop" "web" = some usage ∧
          Fields.get (usage.fields?.getD []) "cpu" = .int 4) ∧
        (index.container? "" "" "web").isSome ∧ index.container? "" "" "" = none ∧
        ∀ space pod name, other.container? space pod name = index.container? space pod name := by
  have named : ∀ item ∈ [Sample.podMetrics, Sample.nameless], item.IsNamed := by
    rw [List.forall_mem_cons, List.forall_mem_singleton]
    refine ⟨⟨.inr ⟨_, rfl⟩, .inr ⟨_, rfl⟩, fun entry member => ?_⟩,
      ⟨.inl rfl, .inl rfl, fun entry member => ?_⟩⟩
    · rcases member with _ | ⟨_, _ | ⟨_, _ | ⟨_, _ | ⟨_, ⟨⟩⟩⟩⟩⟩ <;> exact .inr ⟨_, rfl⟩
    · rcases member with _ | ⟨_, _ | ⟨_, ⟨⟩⟩⟩
      · exact .inl rfl
      · exact .inr ⟨_, rfl⟩
  obtain ⟨index, indexed, answers, -, -, -, reordered⟩ := last_entry_wins _ named
  obtain ⟨other, otherIndexed, same⟩ := reordered [Sample.nameless, Sample.podMetrics] (.swap _ _ _)
    (by simp [MetricsItem.owner, Sample.podMetrics, Sample.nameless, Value.orElse, Value.isTruthy])
  refine ⟨named, index, other, indexed, otherIndexed,
    ⟨_, (answers "default" "shop" "web").2 (by decide), rfl⟩, ?_, ?_, same⟩
  · rw [(answers "" "" "web").2 (by decide)]
    rfl
  · exact Option.not_isSome_iff_eq_none.mp fun known => ((answers "" "" "").1.mp known).1 rfl

end ClusterCensus
