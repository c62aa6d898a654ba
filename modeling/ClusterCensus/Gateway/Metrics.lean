import ClusterCensus.Fault

/-!
# Metrics items

The metrics server reports usage as loosely shaped objects. An item is named by its metadata; the
fields outside the envelope are its data. In a response only the objects count.

A response is walked through by its items: a list has its elements, a text its characters, an object
the names of its fields. Scalars have no items, and a value that says nothing counts as an empty
list.
-/
namespace ClusterCensus

/-! ### Items of a value -/

namespace Value

/-- The items of a value that says something. -/
def elements : Value → Except Fault (List Value)
  | list items => .ok items
  | text s => .ok (s.toList.map fun c => text (String.singleton c))
  | bytes s => .ok (s.toUTF8.toList.map fun byte => int byte.toNat)
  | object fields => .ok (fields.map fun field => text field.1)
  | value => .error (.noItems value.kind)

def items (value : Value) : Except Fault (List Value) :=
  (value.orElse (list [])).elements

end Value

/-! ### Reported objects -/

structure MetricsItem where
  name : Value
  space : Value
  data : Fields
deriving Inhabited

namespace MetricsItem

/-- The fields that are not data. -/
def envelope : List String := ["metadata", "kind", "apiVersion"]

def ofFields (fields metadata : Fields) : MetricsItem :=
  ⟨metadata.get "name", metadata.get "namespace",
    fields.filter fun field => !envelope.contains field.1⟩

def ofValue : Value → Except Fault MetricsItem
  | .object fields =>
    match (Fields.get fields "metadata").orElse (.object []) with
    | .object metadata => .ok (ofFields fields metadata)
    | other => .error (.noFields other.kind)
  | other => .error (.noFields other.kind)

/-- The objects among the items of a response. -/
def objectsOf : Value → Except Fault (List Value)
  | .object fields => ((Fields.get fields "items").items).map fun items =>
      items.filter fun item => item.kind = .object
  | _ => .ok []

def ofResponse (response : Value) : Except Fault (List MetricsItem) := do
  let objects ← objectsOf response
  objects.mapM ofValue

end MetricsItem

end ClusterCensus
