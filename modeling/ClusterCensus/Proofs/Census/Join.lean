import ClusterCensus.Proofs.Census.Scan
import Mathlib.Data.List.Basic

/-!
# The join of pods and usage

A scan joins pods with reported usage through tables that overwrite: one of the usage of all
containers, one of the statuses of each pod. The reference is the comprehension of pairings, in
which nothing is overwritten: among the statuses and among the reports of a container the last one
is taken.

## Main result

`scan_records_eq_join`: the records of a scan are those of the pairings, in order, and a declared
container has a pairing exactly when nothing that a record needs is missing.
-/
namespace ClusterCensus

/-- Some entry of an item, which is for a pod, has the name of a container. -/
def MetricsItem.reports (item : MetricsItem) (space pod name : String) : Prop :=
  (item.space.orElse (.text "")).isText space ∧ (item.name.orElse (.text "")).isText pod ∧
    ∃ entry ∈ item.entries, (Fields.get entry "name").isText name

/-- An item reports usage for a container exactly when one of its entries has the name. -/
theorem MetricsItem.usagesOf_ne_nil (item : MetricsItem) (space pod name : String) :
    item.usagesOf space pod name ≠ [] ↔ item.reports space pod name := by
  unfold usagesOf reports
  split
  next here =>
    rw [Bool.and_eq_true] at here
    simp [here.1, here.2]
  next elsewhere =>
    rw [Bool.and_eq_true] at elsewhere
    -- An item for another pod reports nothing.
    constructor
    · exact fun filled => absurd rfl filled
    · rintro ⟨ofSpace, ofPod, -⟩
      exact absurd ⟨ofSpace, ofPod⟩ elsewhere

theorem lastUsage?_isSome (items : List MetricsItem) (space pod name : String) :
    (MetricsItem.lastUsage? items space pod name).isSome ↔
      ∃ item ∈ items, item.reports space pod name := by
  simp only [← MetricsItem.usagesOf_ne_nil]
  simp [MetricsItem.lastUsage?]

/-- A declared container of a pod lacks nothing that a record needs: a name, an image and
resources, a status of its name, and an entry of its name in some item of its namespace and pod. -/
structure Recordable (items : List MetricsItem) (pod : Pod) (container : Container)
    (name : String) : Prop where
  name_eq : container.name = some name
  named : name ≠ ""
  image : container.image.isSome
  resources : container.resources.isSome
  status : ∃ status ∈ pod.statusList, status.name = some name
  usage : ∃ item ∈ items, item.reports pod.space pod.nameText name

theorem lastStatus_isSome (pod : Pod) (name : String) :
    (pod.statusList.filter (·.name == some name)).getLast?.isSome ↔
      ∃ status ∈ pod.statusList, status.name = some name := by
  simp

/-- A declaration has a pairing exactly when nothing is missing. -/
theorem pairing?_isSome (items : List MetricsItem) (pod : Pod) (declared : Container × Bool) :
    (pod.pairing? (MetricsItem.lastUsage? items) declared).isSome ↔
      ∃ name, Recordable items pod declared.1 name := by
  rw [Option.isSome_iff_exists]
  simp only [Pod.pairing?_eq_some_iff]
  -- The last of some statuses exists exactly when there is one, and so for reports.
  constructor
  · rintro ⟨_, name, hasName, named, image, resources, status, usage, last, known, -⟩
    exact ⟨name, hasName, named, image, resources,
      (lastStatus_isSome pod name).mp (Option.isSome_of_eq_some last),
      (lastUsage?_isSome items _ _ name).mp (Option.isSome_of_eq_some known)⟩
  · rintro ⟨name, hasName, named, image, resources, anyStatus, anyUsage⟩
    obtain ⟨status, last⟩ :=
      Option.isSome_iff_exists.mp ((lastStatus_isSome pod name).mpr anyStatus)
    obtain ⟨usage, known⟩ :=
      Option.isSome_iff_exists.mp ((lastUsage?_isSome items _ _ name).mpr anyUsage)
    exact ⟨_, name, hasName, named, image, resources, status, usage, last, known, rfl⟩

theorem mapM_record {now : Moment} (seen : List (Sighting now)) :
    (seen.map (·.pairing)).mapM (Pairing.record now) = .ok (seen.map (·.record)) := by
  induction seen with
  | nil => rfl
  | cons s rest ih =>
    rw [List.map_cons, List.mapM_cons, s.built, ih]
    rfl

/-- Only named containers are looked up, so an index gives the same pairings as the reports. -/
theorem pairing?_indexed {items : List MetricsItem} {usage : UsageIndex}
    (indexed : UsageIndex.ofPodMetrics items = .ok usage) (pod : Pod)
    (declared : Container × Bool) :
    pod.pairing? usage.container? declared =
      pod.pairing? (MetricsItem.lastUsage? items) declared := by
  -- The two lookups may differ under the empty name, which no pairing has.
  refine Option.ext fun p => ?_
  rw [Pod.pairing?_eq_some_iff, Pod.pairing?_eq_some_iff]
  refine exists_congr fun name => and_congr_right fun _ => and_congr_right fun named => ?_
  rw [UsageIndex.container?_eq indexed named]

/-- Looked up in the index or found as the last report, the usage is the same. -/
theorem pairings_indexed {items : List MetricsItem} {usage : UsageIndex}
    (indexed : UsageIndex.ofPodMetrics items = .ok usage) (pods : List Pod) :
    pairings usage.container? pods = pairings (MetricsItem.lastUsage? items) pods :=
  List.flatMap_congr fun pod _ =>
    List.filterMap_congr fun declared _ => pairing?_indexed indexed pod declared

/-! ## Main result -/

/-- The records that a scan collects are those of the reference comprehension, in order. For each
kept pod in turn, for each of its containers and then of its init containers, there is a record
exactly when the container lacks nothing; it is built from the facts of its own pod, the last
status of its name, and the last usage reported for its namespace, pod and name. -/
theorem scan_records_eq_join (items : List MetricsItem) (pods : List Pod) (now : Moment)
    (usage : UsageIndex) (census : Census)
    (indexed : UsageIndex.ofPodMetrics items = .ok usage)
    (scanned : (Script.scanPods usage now pods).outcome = .ok census) :
    (pairings (MetricsItem.lastUsage? items) pods).mapM (Pairing.record now) = .ok census.records ∧
      ∀ pod ∈ pods, ∀ declared ∈ pod.containerList,
        ((pod.pairing? (MetricsItem.lastUsage? items) declared).isSome ↔
          ∃ name, Recordable items pod declared.1 name) := by
  obtain ⟨seen, gathered⟩ := Script.scanPods_gathers scanned
  refine ⟨?_, fun pod _ declared _ => pairing?_isSome items pod declared⟩
  -- The records were built from the pairings that have been sighted, one by one.
  rw [← pairings_indexed indexed, ← gathered.paired, gathered.records]
  exact mapM_record seen

/-! ### A sample

A pod with two statuses of one name and a container without an image, and a metrics item that
reports one of its containers twice.
-/

namespace Sample

/-- A running container, or one that waits. -/
def status (name : String) (runs : Bool) : ContainerStatus :=
  ⟨some name, some runs, none, some ⟨if runs then some ⟨none⟩ else none, none, none⟩, none⟩

def container (name : String) (image : Option String) : Container :=
  ⟨some name, image, some ⟨[], []⟩⟩

def pod : Pod where
  metadata := some ⟨some "shop", some "default", [⟨some "shop", some "ReplicaSet", true⟩]⟩
  spec := some ⟨some "alpha", none, none,
    [container "web" (some "web:v1"), container "log" none], [container "setup" (some "setup")]⟩
  status := some ⟨some "Running", none, none, none, some [⟨some "Ready", some "True"⟩],
    some [status "web" false, status "log" true, status "web" true], [status "setup" false]⟩

/-- An entry of a metrics item; its quantities are no texts. -/
def entry (name : String) (cpu : Int) : Value :=
  .object [("name", .text name), ("usage", .object [("cpu", .int cpu)])]

def podMetrics : MetricsItem where
  name := .text "shop"
  space := .text "default"
  data := [("containers", .list [entry "web" 1, entry "setup" 2, entry "log" 3, entry "web" 4])]

end Sample

/-- Of the three containers of the sample two have a record; the one with two statuses is ready, as
its last status says. -/
theorem scan_records_eq_join_sample :
    ∃ usage census, UsageIndex.ofPodMetrics [Sample.podMetrics] = .ok usage ∧
      (Script.scanPods usage ⟨0, none⟩ [Sample.pod]).outcome = .ok census ∧
      census.records.map (fun r => (r.container.container, r.container.ready)) =
        [("web", true), ("setup", false)] ∧
      (pairings (MetricsItem.lastUsage? [Sample.podMetrics]) [Sample.pod]).mapM
        (Pairing.record ⟨0, none⟩) = .ok census.records :=
  ⟨_, _, rfl, rfl, rfl, (scan_records_eq_join _ _ _ _ _ rfl rfl).1⟩

end ClusterCensus
