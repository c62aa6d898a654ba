import ClusterCensus.Proofs.Value.Strings

/-!
# Integers are read as they were written

The digits of an integer denote it, and they begin with a zero only when there is no other digit. A
reader takes all of them, provided that what follows neither goes on with digits nor makes them part
of a number of another kind.

## Main result

`readNumber_integerDigits`: a written integer is read back.
-/
namespace ClusterCensus.Value

open ClusterCensus.Numeral

/-- What follows a value: nothing, or the comma or bracket behind an item of a list or an object. -/
def Closes : List Char → Prop
  | [] => True
  | c :: _ => c = ',' ∨ c = ']' ∨ c = '\x7d'

/-! ### Digits -/

theorem plainNumber_naturalDigits (n : Nat) : plainNumber (naturalDigits n) = n := by
  have folded : plainNumber (naturalDigits n) = Nat.ofDigitChars 10 (naturalDigits n) 0 := by
    rw [plainNumber, ofDigits, List.foldl_map, Nat.ofDigitChars_eq_foldl]
    rfl
  rw [folded, naturalDigits, Nat.ofDigitChars_ten_toDigits]

theorem isPlainDigit_of_isDigit {c : Char} (digit : c.isDigit = true) : isPlainDigit c = true := by
  simpa [Char.isDigit, isPlainDigit, Char.le_def] using digit

theorem isPlainDigit_of_mem {n : Nat} {c : Char} (member : c ∈ naturalDigits n) :
    isPlainDigit c = true :=
  isPlainDigit_of_isDigit (Nat.isDigit_of_mem_toDigits (by decide) (by decide) member)

theorem naturalDigits_ne_nil (n : Nat) : naturalDigits n ≠ [] :=
  Nat.toDigits_ne_nil

theorem digitChar_ne_zero : ∀ digit < 10, digit ≠ 0 → Nat.digitChar digit ≠ '0' := by
  decide

/-- The digits of a number that is not zero do not begin with a zero. -/
theorem head?_naturalDigits {n : Nat} (positive : n ≠ 0) : (naturalDigits n).head? ≠ some '0' := by
  induction n using Nat.strongRecOn with
  | ind n ih =>
    unfold naturalDigits at ih ⊢
    by_cases small : n < 10
    · rw [Nat.toDigits_of_lt_base small]
      simpa using digitChar_ne_zero n small positive
    · -- The first digit is that of the number without its last.
      have fewer := ih (n / 10) (by omega) (by omega)
      obtain ⟨first, rest, split⟩ := List.exists_cons_of_ne_nil (naturalDigits_ne_nil (n / 10))
      rw [naturalDigits] at split
      rw [Nat.toDigits_of_base_le (by decide) (by omega), split]
      rwa [split] at fewer

theorem isCanonical_naturalDigits (n : Nat) : isCanonical (naturalDigits n) = true := by
  by_cases zero : n = 0
  · subst zero
    decide
  · have first := head?_naturalDigits zero
    generalize naturalDigits n = digits at first
    match digits with
    | [] => rfl
    | [c] => simp [isCanonical]
    | c :: next :: rest =>
      unfold isCanonical
      split
      next same => simp_all
      next => rfl

/-! ### Numbers -/

theorem not_digit_of_closes {c : Char} {rest : List Char} (closes : Closes (c :: rest)) :
    isPlainDigit c = false ∧ c ≠ '.' ∧ c ≠ 'e' ∧ c ≠ 'E' := by
  rcases closes with rfl | rfl | rfl <;> decide

/-- Reading takes all of the digits and stops at what closes the number. -/
theorem readDigits_append {digits rest : List Char} (each : ∀ c ∈ digits, isPlainDigit c = true)
    (filled : digits ≠ []) (closes : Closes rest) :
    readDigits (digits ++ rest) = some (digits, rest) := by
  have taken : (digits ++ rest).takeWhile isPlainDigit = digits ∧
      (digits ++ rest).dropWhile isPlainDigit = rest := by
    rw [List.takeWhile_append_of_pos each, List.dropWhile_append_of_pos each]
    cases rest with
    | nil => simp
    | cons c rest => simp [(not_digit_of_closes closes).1]
  rw [readDigits, taken.1, taken.2]
  simp [filled]

/-- The digits of a number are read back, with the sign read before them. -/
theorem readSize_naturalDigits (negative : Bool) (n : Nat) {rest : List Char}
    (closes : Closes rest) :
    readSize negative (naturalDigits n ++ rest) =
      some (int (if negative then -(n : Int) else n), rest) := by
  have digits : readDigits (naturalDigits n ++ rest) = some (naturalDigits n, rest) :=
    readDigits_append (fun c => isPlainDigit_of_mem) (naturalDigits_ne_nil n) closes
  -- What closes a value is neither a fraction nor an exponent.
  have fraction : readFraction rest = some (none, rest) := by
    cases rest with
    | nil => rfl
    | cons c rest =>
      obtain ⟨-, point, -, -⟩ := not_digit_of_closes closes
      rw [readFraction]
      simp_all
  have exponent : readExponent rest = some (none, rest) := by
    cases rest with
    | nil => rfl
    | cons c rest =>
      obtain ⟨-, -, lower, upper⟩ := not_digit_of_closes closes
      rw [readExponent]
      all_goals simp_all
  simp only [readSize, digits, fraction, exponent, Option.bind_eq_bind, Option.bind_some,
    isCanonical_naturalDigits, if_true, numberOf, plainNumber_naturalDigits]

/-! ## Main result -/

/-- An integer is read up to what closes it, as it was written. -/
theorem readNumber_integerDigits (n : Int) {rest : List Char} (closes : Closes rest) :
    readNumber (integerDigits n ++ rest) = some (int n, rest) := by
  unfold integerDigits
  split
  next negative =>
    have size : -(n.natAbs : Int) = n := by omega
    rw [List.cons_append, readNumber, readSize_naturalDigits true _ closes, if_pos rfl, size]
  next natural =>
    have size : (n.natAbs : Int) = n := by omega
    have unsigned : readNumber (naturalDigits n.natAbs ++ rest) =
        readSize false (naturalDigits n.natAbs ++ rest) := by
      have each : ∀ c ∈ naturalDigits n.natAbs, isPlainDigit c = true :=
        fun c => isPlainDigit_of_mem
      have filled := naturalDigits_ne_nil n.natAbs
      generalize naturalDigits n.natAbs = digits at each filled
      cases digits with
      | nil => exact absurd rfl filled
      | cons c digits =>
        -- The first digit is no sign.
        have digit := each c (.head _)
        rw [List.cons_append, readNumber]
        rintro rest ⟨rfl, -⟩
        cases digit
    rw [unsigned, readSize_naturalDigits false _ closes, if_neg Bool.false_ne_true, size]

end ClusterCensus.Value
