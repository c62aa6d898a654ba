import ClusterCensus.Text.Basic
import ClusterCensus.Value.Display

/-!
# The printed form of a value

Printing a value fails for one reason: an integer somewhere in it has too many digits. The printed
form that the value would have without this limit is told here, and when it has no more digits than
one integer may have, printing gives it.

## Main result

`display_of_few`: a value whose printed form has few digits is printed.
-/
namespace ClusterCensus

theorem Text.toNat_le_of_ascii {c : Char} (ascii : c.isDigit = true) : c.toNat ≤ 57 := by
  simp only [Char.isDigit, Bool.and_eq_true, decide_eq_true_eq] at ascii
  exact UInt32.le_iff_toNat_le.mp ascii.2

namespace Value

open ClusterCensus.Text

mutual

/-- The text of a value inside a list or an object, with integers of any length. -/
def shown : Value → List Char
  | null => "None".toList
  | bool b => if b then "True".toList else "False".toList
  | int n => Numeral.integerDigits n
  | float x => x.text
  | text s => quote s.toList
  | bytes s => quoteBytes s
  | list items => '[' :: commaJoined (shownItems items) ++ [']']
  | object fields => '\x7b' :: commaJoined (shownFields fields) ++ ['\x7d']

def shownItems : List Value → List (List Char)
  | [] => []
  | item :: rest => shown item :: shownItems rest

def shownFields : List (String × Value) → List (List Char)
  | [] => []
  | (name, value) :: rest => (quote name.toList ++ ':' :: ' ' :: shown value) :: shownFields rest

end

/-- The printed form of a value, with integers of any length. -/
def printed : Value → List Char
  | text s => s.toList
  | value => shown value

/-! ### Counting digits -/

theorem isDigit_of_mem_naturalDigits {n : Nat} {c : Char} (member : c ∈ Numeral.naturalDigits n) :
    isDigit c = true := by
  have ascii : c.isDigit = true := Nat.isDigit_of_mem_toDigits (by decide) (by decide) member
  have small : c.toNat < 128 := by
    have upper := toNat_le_of_ascii ascii
    omega
  simp [isDigit, digitValue?, small, ascii]

theorem countP_integerDigits (n : Int) :
    (Numeral.naturalDigits n.natAbs).length ≤ (Numeral.integerDigits n).countP isDigit := by
  have all : (Numeral.naturalDigits n.natAbs).countP isDigit =
      (Numeral.naturalDigits n.natAbs).length :=
    List.countP_eq_length.mpr fun _ => isDigit_of_mem_naturalDigits
  unfold Numeral.integerDigits
  split
  · rw [List.countP_cons, all]
    omega
  · exact Nat.le_of_eq all.symm

theorem countP_commaJoined_cons (head : List Char) (tail : List (List Char)) :
    (commaJoined (head :: tail)).countP isDigit =
      head.countP isDigit + (commaJoined tail).countP isDigit := by
  have comma : isDigit ',' = false := by decide
  have space : isDigit ' ' = false := by decide
  cases tail with
  | nil => simp [commaJoined]
  | cons next rest => simp [commaJoined, List.intercalate, comma, space]

/-! ### Printing -/

/-- The text has no more digits than an integer may have. -/
def HasFewDigits (text : List Char) : Prop :=
  text.countP isDigit ≤ Numeral.digitLimit

theorem HasFewDigits.of_sublist {part text : List Char} (few : HasFewDigits text)
    (within : part.Sublist text) : HasFewDigits part :=
  Nat.le_trans within.countP_le few

theorem HasFewDigits.of_commaJoined {head : List Char} {tail : List (List Char)}
    (few : HasFewDigits (commaJoined (head :: tail))) :
    HasFewDigits head ∧ HasFewDigits (commaJoined tail) := by
  rw [HasFewDigits, countP_commaJoined_cons] at few
  constructor
  · exact Nat.le_trans (Nat.le_add_right _ _) few
  · exact Nat.le_trans (Nat.le_add_left _ _) few

/-- An integer of few enough digits is printed. -/
theorem integerText_of_few {n : Int} (few : HasFewDigits (Numeral.integerDigits n)) :
    integerText n = .ok (Numeral.integerDigits n) := by
  have length := Nat.le_trans (countP_integerDigits n) few
  have fits : ¬Numeral.isTooLong n = true := by
    rw [Numeral.isTooLong, decide_eq_true_eq]
    omega
  rw [integerText, if_neg fits]

mutual

/-- A value is shown when its text has few digits, since each of its parts has then. -/
theorem literal_of_few : ∀ {value : Value}, HasFewDigits value.shown →
    value.literal = .ok value.shown
  | .null, _ | .bool _, _ | .float _, _ | .text _, _ | .bytes _, _ => rfl
  | .int _, few => integerText_of_few few
  | .list items, few => by
    -- The brackets stand around the joined items.
    have within : (commaJoined (shownItems items)).Sublist (shown (.list items)) :=
      .cons _ (List.sublist_append_left _ _)
    rw [literal, literals_of_few (few.of_sublist within)]
    rfl
  | .object fields, few => by
    have within : (commaJoined (shownFields fields)).Sublist (shown (.object fields)) :=
      .cons _ (List.sublist_append_left _ _)
    rw [literal, fieldLiterals_of_few (few.of_sublist within)]
    rfl

/-- Items are printed when there are few enough digits in all of them together. -/
theorem literals_of_few : ∀ {items : List Value}, HasFewDigits (commaJoined (shownItems items)) →
    literals items = .ok (shownItems items)
  | [], _ => rfl
  | item :: rest, few => by
    obtain ⟨head, tail⟩ := few.of_commaJoined
    rw [literals, literal_of_few head, literals_of_few tail]
    rfl

theorem fieldLiterals_of_few : ∀ {fields : List (String × Value)},
    HasFewDigits (commaJoined (shownFields fields)) →
      fieldLiterals fields = .ok (shownFields fields)
  | [], _ => rfl
  | (name, value) :: rest, few => by
    obtain ⟨head, tail⟩ := few.of_commaJoined
    -- The name and the colon stand before the text of the value.
    have within : value.shown.Sublist (quote name.toList ++ ':' :: ' ' :: value.shown) :=
      (((List.Sublist.refl _).cons _).cons _).trans (List.sublist_append_right _ _)
    rw [fieldLiterals, literal_of_few (head.of_sublist within), fieldLiterals_of_few tail]
    rfl

end

/-! ## Main result -/

/-- A value whose printed form has no more digits than an integer may have is printed. -/
theorem display_of_few {value : Value} (few : HasFewDigits value.printed) :
    value.display = .ok value.printed := by
  cases value with
  | text s => rfl
  | _ => exact literal_of_few few

end Value
end ClusterCensus
