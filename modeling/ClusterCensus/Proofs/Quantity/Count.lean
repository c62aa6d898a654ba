import ClusterCensus.Proofs.Numeral.Spelling
import ClusterCensus.Proofs.Quantity.Whole
import ClusterCensus.Proofs.Text
import ClusterCensus.Quantity.Count

/-!
# Plain counts are plain integers

A text holds a count exactly when it spells an integer, blanks around it apart. So an integer has a
count of its own size, whether it is given as a number or by its decimal text, and a text with a
letter or a point has none.

## Main results

`count?_text_iff`: which texts hold a count, and which one. `count?_of_gives` and
`count?_of_hasUnit`: what becomes of integers and of texts with a unit.
-/
namespace ClusterCensus

open ClusterCensus.Text ClusterCensus.Numeral

namespace Numeral

/-! ### The decimal text of an integer -/

theorem values_of_ascii {digits : List Char} (ascii : ∀ c ∈ digits, c.isDigit = true) :
    values digits = digits.map fun c => c.toNat - 48 := by
  induction digits with
  | nil => rfl
  | cons c rest ih =>
    rw [List.forall_mem_cons] at ascii
    rw [values_cons (Quantity.digitValue?_of_ascii ascii.1), ih ascii.2, List.map_cons]

/-- An integer that is printed is spelled, if it is not too long. -/
theorem spells_integerDigits {n : Int} (short : (naturalDigits n.natAbs).length ≤ 4300) :
    Spells (integerDigits n) n := by
  obtain ⟨ascii, filled, denotes⟩ := Quantity.isNumeral_naturalDigits n.natAbs
  have grouped : IsGrouped (naturalDigits n.natAbs) := by
    apply isGrouped_of_digits filled
    intro c member
    rw [Quantity.digitValue?_of_ascii (ascii c member)]
    rfl
  have few : (values (naturalDigits n.natAbs)).length ≤ 4300 := by
    rwa [values_of_ascii ascii, List.length_map]
  have size : Nat.ofDigits 10 (values (naturalDigits n.natAbs)).reverse = n.natAbs := by
    rw [← ofDigits_eq, values_of_ascii ascii]
    exact denotes
  -- A negative number has the sign before the digits of its size, any other has none.
  unfold integerDigits
  split
  next negative =>
    refine ⟨.minus, naturalDigits n.natAbs, rfl, grouped, few, ?_⟩
    rw [size, Sign.number]
    omega
  next natural =>
    refine ⟨.absent, naturalDigits n.natAbs, rfl, grouped, few, ?_⟩
    rw [size, Sign.number]
    omega

end Numeral

/-! ### Values that are counts, and values with a unit -/

namespace Value

/-- The value is an integer, as a number or as its decimal text with any blanks around it. -/
inductive Gives (n : Int) : Value → Prop
  | number : Gives n (.int n)
  | text {s : String} (padded : IsPadded s.toList (integerDigits n)) : Gives n (.text s)

/-- The value is a text with a letter or a point in it; an exponent has a letter, too. -/
def HasUnit : Value → Prop
  | .text s => ∃ c ∈ s.toList, isLetter c = true ∨ c = '.'
  | _ => False

end Value

namespace Quantity

/-- A text holds a count when it spells it, blanks around it apart, and no other text does. -/
theorem count?_text_iff {s : String} {n : Int} :
    count? (.text s) = some n ↔ ∃ core, IsPadded s.toList core ∧ Spells core n := by
  change integer? (trim s.toList) = some n ↔ _
  constructor
  · intro read
    exact ⟨trim s.toList, isPadded_trim s.toList, integer?_eq_some_iff.mp read⟩
  · rintro ⟨core, padded, spells⟩
    -- What spells an integer has no blanks, so trimming stops at its ends.
    rw [trim_of_padded padded spells.filled spells.solid]
    exact integer?_eq_some_iff.mpr spells

theorem count?_of_gives {n : Int} {value : Value} (short : (naturalDigits n.natAbs).length ≤ 4300)
    (gives : value.Gives n) : count? value = some n := by
  cases gives with
  | text padded => exact count?_text_iff.mpr ⟨_, padded, spells_integerDigits short⟩
  | number =>
    -- A number is written out, and counts as its text does.
    have written : (Value.int n).display = .ok (integerDigits n) := by
      have fits : ¬isTooLong n = true := by
        rw [isTooLong, decide_eq_true_eq]
        exact Nat.not_lt.mpr short
      change Value.integerText n = _
      rw [Value.integerText, if_neg fits]
    have spells := spells_integerDigits short
    simp only [count?, written]
    rw [trim_of_padded (isPadded_self _) spells.filled spells.solid]
    exact integer?_eq_some_iff.mpr spells

/-- A text with a unit counts nothing. -/
theorem count?_of_hasUnit {value : Value} (unit : value.HasUnit) : count? value = none := by
  cases value with
  | text s =>
    obtain ⟨c, member, unit⟩ := unit
    rw [Option.eq_none_iff_forall_ne_some]
    intro n read
    obtain ⟨core, padded, spells⟩ := count?_text_iff.mp read
    -- A letter or a point is neither a blank nor a part of an integer.
    have solid : isBlank c = false := by
      rcases unit with letter | rfl
      · exact not_isBlank_of_isLetter letter
      · decide
    obtain ⟨noLetter, noPoint⟩ := spells.unitless c (padded.mem_core member solid)
    rcases unit with letter | point
    · rw [noLetter] at letter
      cases letter
    · exact noPoint point
  | _ => cases unit

end Quantity
end ClusterCensus
