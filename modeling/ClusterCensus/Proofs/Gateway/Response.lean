import ClusterCensus.Gateway.Metrics
import ClusterCensus.Proofs.Census.Usage

/-!
# Converting a response

A response converts to metrics items unless something in it stands where items or fields are
expected: items that say something and cannot be walked through, or, in one of the objects among
them, metadata that says something and has no fields. The first such thing decides the fault.

## Main result

`ofResponse_eq`: the conversion of a response, with its fault read off the response.
-/
namespace ClusterCensus.MetricsItem

/-- The item of an object; metadata that says nothing leaves it without name and namespace. -/
def ofObject (fields : Fields) : MetricsItem :=
  ofFields fields ((Fields.get fields "metadata").fields?.getD [])

/-- What stops the conversion of an object. -/
def objectFault? (fields : Fields) : Option Fault :=
  match Fields.get fields "metadata" with
  | .object _ => none
  | other => if other.isTruthy then some (.noFields other.kind) else none

/-- What stops the conversion of a response. -/
def responseFault? : Value → Option Fault
  | .object fields =>
    match (Fields.get fields "items").items with
    | .error fault => some fault
    | .ok items => (items.filterMap Value.fields?).findSome? objectFault?
  | _ => none

/-- The objects among the items of a response. -/
def responseObjects : Value → List Fields
  | .object fields =>
    match (Fields.get fields "items").items with
    | .error _ => []
    | .ok items => items.filterMap Value.fields?
  | _ => []

theorem ofValue_object (fields : Fields) :
    ofValue (.object fields) =
      match objectFault? fields with
      | some fault => .error fault
      | none => .ok (ofObject fields) := by
  simp only [ofValue, objectFault?, ofObject, Value.orElse]
  generalize Fields.get fields "metadata" = metadata
  by_cases truthy : metadata.isTruthy = true
  · rw [if_pos truthy]
    cases metadata with
    | object inner => rfl
    | _ => simp only [truthy, if_true]
  · -- Metadata that says nothing is taken for an empty object, which an empty object is.
    rw [if_neg truthy]
    cases metadata with
    | object inner =>
      have empty : inner = [] := by simpa [Value.isTruthy] using truthy
      rw [empty]
      rfl
    | _ => simp only [truthy, Bool.false_eq_true, if_false, Value.fields?, Option.getD_none]

/-- Objects of a response are read one after another; the first that is faulty names the fault. -/
theorem mapM_ofValue_object (objects : List Fields) :
    (objects.map Value.object).mapM ofValue =
      match objects.findSome? objectFault? with
      | some fault => .error fault
      | none => .ok (objects.map ofObject) := by
  induction objects with
  | nil => rfl
  | cons fields rest ih =>
    rw [List.map_cons, List.mapM_cons, ofValue_object, List.findSome?_cons, ih]
    -- The fault of the first object wins over those of the rest.
    cases objectFault? fields with
    | some fault => rfl
    | none => cases rest.findSome? objectFault? <;> rfl

theorem filter_kind_object (items : List Value) :
    items.filter (fun item => item.kind = .object) =
      (items.filterMap Value.fields?).map Value.object := by
  induction items with
  | nil => rfl
  | cons item rest ih =>
    have isObject : decide (item.kind = .object) = item.fields?.isSome := by cases item <;> rfl
    rw [List.filter_cons, List.filterMap_cons, isObject, ih]
    cases item <;> rfl

/-! ## Main result -/

/-- A response converts to the items of its objects, unless it has a fault. -/
theorem ofResponse_eq (response : Value) :
    ofResponse response =
      match responseFault? response with
      | some fault => .error fault
      | none => .ok ((responseObjects response).map ofObject) := by
  cases response with
  | object fields =>
    simp only [ofResponse, objectsOf, responseFault?, responseObjects]
    cases (Fields.get fields "items").items with
    | error fault => rfl
    | ok items =>
      have converted := mapM_ofValue_object (items.filterMap Value.fields?)
      rw [← filter_kind_object] at converted
      exact converted
  | _ => rfl

end ClusterCensus.MetricsItem
