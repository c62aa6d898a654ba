import ClusterCensus.Table

/-!
# Tables built in one pass

A table that is built by setting keys in turn finds the last binding of a key. A table that is
built by adjusting keys in turn groups: under each key it finds the changes of the items with that
key, applied in order, whatever the other items did.
-/
namespace ClusterCensus.Table

variable {κ α ι : Type} [BEq κ] [PartialEquivBEq κ]

/-! ### The last binding holds -/

/-- After setting keys in turn, the last value set for a key is found, or else what was there. -/
theorem find?_foldl_put (bindings : List (κ × α)) (table : Table κ α) (key : κ) :
    (bindings.foldl (fun table binding => table.put binding.1 binding.2) table).find? key =
      (((bindings.filter (·.1 == key)).getLast?).map (·.2)).or (table.find? key) := by
  induction bindings generalizing table with
  | nil => simp
  | cons binding rest ih =>
    rw [List.foldl_cons, ih, find?_put]
    -- A binding of the key is found unless a later one follows.
    by_cases same : binding.1 == key
    · rw [List.filter_cons_of_pos (by simpa using same), List.getLast?_cons, if_pos same]
      cases (rest.filter (·.1 == key)).getLast? <;> rfl
    · rw [List.filter_cons_of_neg (by simpa using same), if_neg same]

/-- Under a key a table holds what was put there last. -/
theorem find?_ofBindings (bindings : List (κ × α)) (key : κ) :
    (ofBindings bindings).find? key = ((bindings.filter (·.1 == key)).getLast?).map (·.2) := by
  rw [ofBindings, find?_foldl_put, find?_empty, Option.or_none]

/-! ### Adjusting groups by key -/

/-- Adjusting a key changes what stands under it, and under an absent key the start stands. -/
theorem getD_find?_adjust (table : Table κ α) (key other : κ) (start : α) (change : α → α) :
    ((table.adjust key start change).find? other).getD start =
      if key == other then change ((table.find? key).getD start)
      else (table.find? other).getD start := by
  rw [find?_adjust]
  split <;> rfl

variable [LawfulBEq κ]

/-- After adjusting the keys of items in turn, the changes of the items with a key have been
applied in order to what stood under it. -/
theorem getD_find?_foldl_adjust (items : List ι) (keyOf : ι → κ) (start : α)
    (change : ι → α → α) (table : Table κ α) (key : κ) :
    ((items.foldl (fun table item => table.adjust (keyOf item) start (change item)) table).find?
        key).getD start =
      (items.filter (keyOf · == key)).foldl (fun value item => change item value)
        ((table.find? key).getD start) := by
  induction items generalizing table with
  | nil => rfl
  | cons item rest ih =>
    rw [List.foldl_cons, ih, getD_find?_adjust]
    -- The first change acts on what stood under its key, and is unseen under any other.
    by_cases same : keyOf item == key
    · rw [List.filter_cons_of_pos (by simpa using same), if_pos same, List.foldl_cons,
        eq_of_beq same]
    · rw [List.filter_cons_of_neg (by simpa using same), if_neg same]

end ClusterCensus.Table
