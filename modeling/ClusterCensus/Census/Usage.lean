import ClusterCensus.Gateway.Metrics
import ClusterCensus.Table

/-!
# Reported usage

Usage is indexed by what it is reported for: a container by namespace, pod and name, a node by its
name. The parts of a key are whatever the report holds there; equal texts are the same key, and so
are equal numbers. Of several reports for one key the last one holds. A list or an object cannot
be part of a key.
-/
namespace ClusterCensus

/-- What usage is reported for. -/
structure UsageKey where
  parts : List Value

namespace UsageKey

def sameParts : List Value → List Value → Bool
  | [], [] => true
  | a :: as, b :: bs => a.sameKey b && sameParts as bs
  | _, _ => false

instance : BEq UsageKey where
  beq a b := sameParts a.parts b.parts

theorem sameParts_symm {as bs : List Value} (same : sameParts as bs = true) :
    sameParts bs as = true := by
  induction as generalizing bs with
  | nil => cases bs <;> simp_all [sameParts]
  | cons a as ih =>
    cases bs with
    | nil => simp [sameParts] at same
    | cons b bs =>
      simp only [sameParts, Bool.and_eq_true] at same ⊢
      exact ⟨Value.sameKey_symm same.1, ih same.2⟩

theorem sameParts_trans {as bs cs : List Value} (left : sameParts as bs = true)
    (right : sameParts bs cs = true) : sameParts as cs = true := by
  induction as generalizing bs cs with
  | nil => cases bs <;> simp_all [sameParts]
  | cons a as ih =>
    cases bs with
    | nil => simp [sameParts] at left
    | cons b bs =>
      cases cs with
      | nil => simp [sameParts] at right
      | cons c cs =>
        simp only [sameParts, Bool.and_eq_true] at left right ⊢
        exact ⟨Value.sameKey_trans left.1 right.1, ih left.2 right.2⟩

instance : PartialEquivBEq UsageKey where
  symm := sameParts_symm
  trans := sameParts_trans

def container (space pod name : Value) : UsageKey :=
  ⟨[space, pod, name]⟩

def node (name : Value) : UsageKey :=
  ⟨[name]⟩

/-- The fault of a value that cannot be part of a key. -/
def partFault? (part : Value) : Option Fault :=
  match part.kind with
  | .list => some (.unusableKey .list)
  | .object => some (.unusableKey .object)
  | _ => none

/-- The fault of the first part that cannot be part of a key. -/
def fault? (key : UsageKey) : Option Fault :=
  key.parts.findSome? partFault?

end UsageKey

abbrev UsageIndex := Table UsageKey Value

namespace UsageIndex

/-- One reported usage; a report that says nothing is an empty one. -/
def report (key : UsageKey) (usage : Value) : UsageKey × Value :=
  (key, usage.orElse (.object []))

def enter (index : UsageIndex) (entry : UsageKey × Value) : Except Fault UsageIndex :=
  match entry.1.fault? with
  | some fault => .error fault
  | none => .ok (index.put entry.1 entry.2)

def ofReports (reports : List (UsageKey × Value)) : Except Fault UsageIndex :=
  reports.foldlM enter Table.empty

/-- The report of one container of an item, when the container has a name. -/
def containerReport? (item : MetricsItem) : Value → Option (UsageKey × Value)
  | .object container =>
    let name := Fields.get container "name"
    if name.isTruthy then
      some (report
        (.container (item.space.orElse (.text "")) (item.name.orElse (.text "")) name)
        (Fields.get container "usage"))
    else none
  | _ => none

def containerReports (item : MetricsItem) : List (UsageKey × Value) :=
  match item.data.get "containers" with
  | .list containers => containers.filterMap (containerReport? item)
  | _ => []

/-- The usage of all containers. -/
def ofPodMetrics (items : List MetricsItem) : Except Fault UsageIndex :=
  ofReports (items.flatMap containerReports)

/-- The name that stands for a node without one. -/
def missingNodeName : String := "NONE"

def nodeReport (item : MetricsItem) : UsageKey × Value :=
  report (.node (item.name.orElse (.text missingNodeName))) (item.data.get "usage")

def ofNodeMetrics (items : List MetricsItem) : Except Fault UsageIndex :=
  ofReports (items.map nodeReport)

def container? (index : UsageIndex) (space pod name : String) : Option Value :=
  index.find? (.container (.text space) (.text pod) (.text name))

def node? (index : UsageIndex) (name : String) : Option Value :=
  index.find? (.node (.text name))

/-- The quantity that a usage holds under a name; anything but a text is an empty quantity. -/
def quantity (usage : Value) (name : String) : Except Fault String :=
  match usage with
  | .object fields =>
    match Fields.get fields name with
    | .text s => .ok s
    | _ => .ok ""
  | other => .error (.noFields other.kind)

end UsageIndex
end ClusterCensus
