import ClusterCensus.Proofs.Quantity.Range
import ClusterCensus.Proofs.Text

/-!
# Whole memory quantities are exact

A whole number of bytes is never rounded. It is read digit by digit and multiplied as an integer,
though its magnitude may be far beyond the range of binary64. What a suffix is worth depends on its
lower case alone, and what is neither a digit, a point nor a letter is passed over wherever it
stands.

## Main result

`whole_memory_is_exact`: the bytes of a whole number with a suffix of letters.
-/
namespace ClusterCensus.Quantity

open ClusterCensus.Text ClusterCensus.Numeral ClusterCensus.Binary64

theorem not_isNumberChar_of_isLetter {c : Char} (letter : isLetter c = true) :
    isNumberChar c = false := by
  have point : c ≠ '.' := by
    rintro rfl
    revert letter
    decide
  simp [isNumberChar, not_isDigit_of_isLetter letter, point]

/-- A suffix of letters holds nothing of a number. -/
theorem filter_of_letters {suffix : List Char} (letters : ∀ c ∈ suffix, isLetter c = true) :
    suffix.filter isLetter = suffix ∧ suffix.filter isNumberChar = [] := by
  constructor
  · exact List.filter_eq_self.mpr letters
  · refine List.filter_eq_nil_iff.mpr fun c member => ?_
    simp [not_isNumberChar_of_isLetter (letters c member)]

/-! ### What is passed over -/

/-- The character is part of a number or of a unit. -/
def isMeaningful (c : Char) : Bool :=
  isNumberChar c || isLetter c

/-- Characters that are neither digits nor points nor letters are skipped. -/
theorem read?_filter (text : List Char) : read? (text.filter isMeaningful) = read? text := by
  have number : numberText (text.filter isMeaningful) = numberText text := by
    rw [numberText, numberText, List.filter_filter]
    exact List.filter_congr fun c _ => by grind [isMeaningful]
  have unit : unitText (text.filter isMeaningful) = unitText text := by
    rw [unitText, unitText, List.filter_filter]
    exact List.filter_congr fun c _ => by grind [isMeaningful]
  rw [read?, read?, number, unit]

/-! ### What a suffix is worth -/

/-- The known suffixes in lower case, each with the number of bytes that it stands for. -/
def knownSuffixes : List (List Char × Nat) :=
  [([], 1), (['k', 'i'], 1024), (['m', 'i'], 1024 ^ 2), (['g', 'i'], 1024 ^ 3),
    (['t', 'i'], 1024 ^ 4), (['k'], 10 ^ 3), (['m'], 10 ^ 6), (['g'], 10 ^ 9)]

/-- What a suffix is worth; one that is not known is worth as much as a binary kilobyte. -/
def suffixWorth (suffix : List Char) : Nat :=
  (knownSuffixes.lookup (lower suffix)).getD 1024

theorem memoryMultiplier?_eq (name : List Char) :
    memoryMultiplier? name = knownSuffixes.lookup name := by
  unfold memoryMultiplier?
  split
  case h_9 =>
    symm
    rw [List.lookup_eq_none_iff]
    simp_all [knownSuffixes]
  all_goals rfl

theorem memoryFactor_eq (suffix : List Char) : memoryFactor suffix = suffixWorth suffix := by
  rw [memoryFactor, memoryMultiplier?_eq, suffixWorth, unknownMemoryMultiplier]

theorem one_le_suffixWorth (suffix : List Char) : 1 ≤ suffixWorth suffix :=
  memoryFactor_eq suffix ▸ one_le_memoryFactor suffix

/-! ### From the parts of a quantity to bytes -/

/-- The bytes of a quantity, without what is noted on the way. -/
theorem Parts.bytes_outcome (parts : Parts) (text : List Char) :
    (parts.bytes text).outcome =
      match parts.decimal.fraction with
      | none => (wholeNumber parts.decimal.whole).outcome.map fun count =>
          ((count * suffixWorth parts.unit : Nat) : Int)
      | some _ => (roundUp (parts.magnitude.scale (suffixWorth parts.unit))).outcome := by
  rw [Parts.bytes, Trace.bind_outcome_of_ok (memoryMultiplier_outcome parts.unit text),
    memoryFactor_eq]
  cases parts.decimal.fraction with
  | none => cases ended : wholeNumber parts.decimal.whole with
    | mk events outcome => cases outcome <;> rfl
  | some digits => rfl

/-- Texts that are read alike are worth the same. -/
theorem bytes_outcome_congr {text other : List Char} (same : read? text = read? other) :
    (bytes text).outcome = (bytes other).outcome := by
  rw [bytes, bytes, same]
  cases read? other with
  | none => rfl
  | some parts => simp only [Parts.bytes_outcome]

/-- A whole number of units is multiplied without rounding. -/
theorem IsNumeral.bytes_outcome {digits : List Char} {n : Nat} (numeral : IsNumeral digits n)
    (short : digits.length ≤ digitLimit) {suffix : List Char}
    (letters : ∀ c ∈ suffix, isLetter c = true) :
    (Quantity.bytes (digits ++ suffix)).outcome = .ok ((n * suffixWorth suffix : Nat) : Int) := by
  obtain ⟨unit, noDigits⟩ := filter_of_letters letters
  have whole : wholeNumber (digits.map fun c => c.toNat - 48) = pure n := by
    have denoted : ofDigits (digits.map fun c => c.toNat - 48) = n := numeral.denotes
    rw [wholeNumber, List.length_map, if_neg (by omega), denoted]
  rw [Quantity.bytes, numeral.read suffix unit noDigits]
  simp only [Parts.bytes_outcome, whole]
  rfl

/-! ## Main result -/

/-- A whole number of at most 4300 digits with a suffix of letters is worth exactly the product,
however large it is. Characters that are neither part of a number nor letters make no difference
wherever they are put in; no more does another spelling of the suffix with the same lower case; and
a greater number is worth more. -/
theorem whole_memory_is_exact {digits suffix : List Char} {n : Nat} (numeral : IsNumeral digits n)
    (short : digits.length ≤ 4300) (letters : ∀ c ∈ suffix, isLetter c = true) :
    (bytes (digits ++ suffix)).outcome = .ok ((n * suffixWorth suffix : Nat) : Int) ∧
      (∀ noisy, noisy.filter isMeaningful = digits ++ suffix →
        (bytes noisy).outcome = (bytes (digits ++ suffix)).outcome) ∧
      (∀ spelling, (∀ c ∈ spelling, isLetter c = true) → lower spelling = lower suffix →
        (bytes (digits ++ spelling)).outcome = (bytes (digits ++ suffix)).outcome) ∧
      ∀ more m, IsNumeral more m → more.length ≤ 4300 → n < m →
        ∃ least greater, (bytes (digits ++ suffix)).outcome = .ok least ∧
          (bytes (more ++ suffix)).outcome = .ok greater ∧ least < greater := by
  have exact := numeral.bytes_outcome short letters
  refine ⟨exact, ?_, ?_, ?_⟩
  · intro noisy cleaned
    apply bytes_outcome_congr
    rw [← cleaned, read?_filter]
  · intro spelling alsoLetters same
    rw [exact, numeral.bytes_outcome short alsoLetters, suffixWorth, suffixWorth, same]
  · intro more m alsoNumeral alsoShort less
    refine ⟨_, _, exact, alsoNumeral.bytes_outcome alsoShort letters, ?_⟩
    exact_mod_cast Nat.mul_lt_mul_of_pos_right less (one_le_suffixWorth suffix)

namespace Sample

/-- The least whole number that is no binary64 number. -/
def large : List Char :=
  ['9', '0', '0', '7', '1', '9', '9', '2', '5', '4', '7', '4', '0', '9', '9', '3']

end Sample

/-- Binary kilobytes are multiplied exactly where binary64 would be off by one, also when their
suffix is written with the sign of degrees Kelvin, after a sign and a blank that say nothing. -/
theorem whole_memory_is_exact_sample :
    IsNumeral Sample.large (2 ^ 53 + 1) ∧ (∀ c ∈ ['\u212A', 'I'], isLetter c = true) ∧
      (bytes (Sample.large ++ ['\u212A', 'I'])).outcome = .ok ((2 ^ 53 + 1) * 1024) ∧
      (bytes ('+' :: Sample.large ++ [' ', '\u212A', 'I'])).outcome =
        .ok ((2 ^ 53 + 1) * 1024) := by
  have numeral : IsNumeral Sample.large (2 ^ 53 + 1) := ⟨by simp [Sample.large], by decide, rfl⟩
  have letters : ∀ c ∈ ['\u212A', 'I'], isLetter c = true := by
    rw [List.forall_mem_cons, List.forall_mem_singleton]
    decide +kernel
  have worth : suffixWorth ['\u212A', 'I'] = 1024 := by decide +kernel
  obtain ⟨exact, passedOver, -, -⟩ := whole_memory_is_exact numeral (by simp [Sample.large]) letters
  rw [worth] at exact
  refine ⟨numeral, letters, exact, ?_⟩
  rw [passedOver _ (by decide +kernel)]
  exact exact

end ClusterCensus.Quantity
