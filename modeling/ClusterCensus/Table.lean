/-!
# Tables

A table keeps one value for each key, in the order in which the keys first came. Setting a key
that is known replaces its value in place.
-/
namespace ClusterCensus

/-- Values by key, in order of first insertion. -/
structure Table (κ α : Type) where
  entries : List (κ × α) := []

namespace Table

variable {κ α : Type} [BEq κ]

def empty : Table κ α := ⟨[]⟩

def find? (table : Table κ α) (key : κ) : Option α :=
  (table.entries.find? (·.1 == key)).map (·.2)

/-- Sets the value of a key among entries. -/
def putEntry (key : κ) (value : α) : List (κ × α) → List (κ × α)
  | [] => [(key, value)]
  | entry :: rest =>
    if entry.1 == key then (entry.1, value) :: rest
    else entry :: putEntry key value rest

def put (table : Table κ α) (key : κ) (value : α) : Table κ α :=
  ⟨putEntry key value table.entries⟩

/-- Changes the value of a key, which starts from a given one when the key is new. -/
def adjust (table : Table κ α) (key : κ) (start : α) (change : α → α) : Table κ α :=
  table.put key (change ((table.find? key).getD start))

/-- The table of a list of bindings; the last binding of a key holds. -/
def ofBindings (bindings : List (κ × α)) : Table κ α :=
  bindings.foldl (fun table binding => table.put binding.1 binding.2) empty

/-! ### Looking up after a change -/

@[simp]
theorem find?_empty (key : κ) : (empty : Table κ α).find? key = none := by
  rfl

private theorem find?_putEntry [PartialEquivBEq κ] (key other : κ) (value : α)
    (entries : List (κ × α)) :
    ((putEntry key value entries).find? (·.1 == other)).map (·.2) =
      if key == other then some value else (entries.find? (·.1 == other)).map (·.2) := by
  induction entries with
  | nil => by_cases same : key == other <;> simp [putEntry, same]
  | cons entry rest ih =>
    by_cases known : entry.1 == key
    · have alike : (entry.1 == other) = (key == other) := BEq.congr_left known
      by_cases same : key == other <;> simp [putEntry, known, alike, same]
    · by_cases found : entry.1 == other
      · have distinct : (key == other) = false := by
          by_cases same : key == other
          · exact absurd (PartialEquivBEq.trans found (PartialEquivBEq.symm same)) known
          · simpa using same
        simp [putEntry, known, found, distinct]
      · simp only [putEntry, known, found, List.find?_cons, Bool.false_eq_true, if_false]
        exact ih

/-- A key that was set has the value it was set to; other keys keep theirs. -/
theorem find?_put [PartialEquivBEq κ] (table : Table κ α) (key other : κ) (value : α) :
    (table.put key value).find? other =
      if key == other then some value else table.find? other := by
  exact find?_putEntry key other value table.entries

/-- Changing a key changes what is found under it and nothing else. -/
theorem find?_adjust [PartialEquivBEq κ] (table : Table κ α) (key other : κ) (start : α)
    (change : α → α) :
    (table.adjust key start change).find? other =
      if key == other then some (change ((table.find? key).getD start)) else table.find? other := by
  exact find?_put table key other _

end Table
end ClusterCensus
