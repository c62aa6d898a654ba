import ClusterCensus.Proofs.Quantity.Modest
import ClusterCensus.Proofs.Quantity.Whole
import ClusterCensus.Quantity.Count

/-!
# Quantities that are refused

Most texts are read as an amount, also those that make no sense. What is refused is huge: a number
that leaves the range of binary64 on its way to an amount, and a whole number of bytes with too many
digits. Leading zeros are digits as well, so even a zero can be too long. A plain count is never
refused; what is too long for one is no count.

## Main result

`refused_iff_huge`: which texts are refused, and why; every other text has an amount that is not
negative.
-/
namespace ClusterCensus.Quantity

open ClusterCensus.Text ClusterCensus.Numeral ClusterCensus.Binary64

/-- The work is refused with the faults of a certain sort, and otherwise ends in an amount that is
not negative. -/
structure IsAmountUnless (refusal : Fault → Prop) (work : Noted Int) : Prop where
  refused_iff : ∀ fault, work.outcome = .error fault ↔ refusal fault
  nonneg : ∀ amount, work.outcome = .ok amount → 0 ≤ amount

namespace IsAmountUnless

variable {refusal other : Fault → Prop} {work : Noted Int}

theorem congr (amount : IsAmountUnless refusal work) (same : ∀ fault, refusal fault ↔ other fault) :
    IsAmountUnless other work where
  refused_iff fault := (amount.refused_iff fault).trans (same fault)
  nonneg := amount.nonneg

theorem of_outcome {alike : Noted Int} (amount : IsAmountUnless refusal work)
    (same : alike.outcome = work.outcome) : IsAmountUnless refusal alike where
  refused_iff fault := by rw [same, amount.refused_iff]
  nonneg value ended := amount.nonneg value (same ▸ ended)

theorem pure {amount : Int} (nonneg : 0 ≤ amount) :
    IsAmountUnless (fun _ => False) (Pure.pure amount) where
  refused_iff fault := by simp
  nonneg value ended := by
    rw [Trace.pure_outcome, Except.ok.injEq] at ended
    exact ended ▸ nonneg

theorem fail (fault : Fault) : IsAmountUnless (fun other => other = fault) (Trace.fail fault) where
  refused_iff other := by simp [Trace.fail, eq_comm]
  nonneg value ended := by cases ended

/-- Work that nothing refuses ends in an amount. -/
theorem exists_amount (amount : IsAmountUnless refusal work) (accepted : ∀ fault, ¬refusal fault) :
    ∃ value, work.outcome = .ok value ∧ 0 ≤ value := by
  cases ended : work.outcome with
  | error fault => exact absurd ((amount.refused_iff fault).mp ended) (accepted fault)
  | ok value => exact ⟨value, rfl, amount.nonneg value ended⟩

end IsAmountUnless

/-! ### Rounding up what may be out of range -/

/-- Scaling and rounding up is refused when the number is out of range before it is scaled, or
behind. -/
theorem isAmount_roundUp {q : Rat} (factor : Rat) (nonneg : 0 ≤ q) (positive : 0 ≤ factor) :
    IsAmountUnless
      (fun fault => (overflow ≤ q ∨ overflow ≤ nearest q * factor) ∧ fault = .infiniteQuantity)
      (roundUp ((Magnitude.ofRat q).scale factor)) := by
  rcases le_or_gt overflow q with beyond | below
  · rw [Magnitude.ofRat_of_overflow beyond]
    refine (IsAmountUnless.fail .infiniteQuantity).congr fun fault => ?_
    simp [beyond]
  · have product : 0 ≤ nearest q * factor := mul_nonneg (nearest_nonneg nonneg) positive
    rw [Magnitude.ofRat_of_lt nonneg below, Magnitude.scale]
    rcases le_or_gt overflow (nearest q * factor) with beyondThen | belowThen
    · rw [Magnitude.ofRat_of_overflow beyondThen]
      refine (IsAmountUnless.fail .infiniteQuantity).congr fun fault => ?_
      simp [beyondThen]
    · rw [Magnitude.ofRat_of_lt product belowThen, roundUp_finite]
      have amount : 0 ≤ ⌈nearest (nearest q * factor)⌉ := Int.ceil_nonneg (nearest_nonneg product)
      refine (IsAmountUnless.pure amount).congr fun fault => ?_
      simp [below, belowThen]

/-- What is out of range stays there when it is scaled up. -/
theorem out_of_range_scaled_up {q factor : Rat} (least : 1 ≤ factor) :
    (overflow ≤ q ∨ overflow ≤ nearest q * factor) ↔ overflow ≤ nearest q * factor := by
  refine or_iff_right_of_imp fun beyond => ?_
  have rounded : overflow ≤ nearest q := overflow_lt.le.trans (outOfRange_le_nearest beyond)
  have positive : 0 ≤ nearest q := (lt_trans (by positivity) lt_overflow).le.trans rounded
  exact rounded.trans (le_mul_of_one_le_right positive least)

/-- Scaling down takes nothing out of range. -/
theorem out_of_range_scaled_down {q factor : Rat} (nonneg : 0 ≤ q) (most : factor ≤ 1) :
    (overflow ≤ q ∨ overflow ≤ nearest q * factor) ↔ overflow ≤ q := by
  refine or_iff_left_of_imp fun beyond => ?_
  by_contra below
  have inside := nearest_lt_overflow nonneg (not_le.mp below)
  have smaller := mul_le_of_le_one_right (nearest_nonneg nonneg) most
  linarith

theorem Decimal.value_nonneg (d : Decimal) : 0 ≤ d.value := by
  unfold Decimal.value
  positivity

/-! ### CPU quantities -/

/-- The number of a CPU quantity is too large: the number itself, or its thousandfold when it counts
cores. -/
def Parts.RefusesMillicores (parts : Parts) (fault : Fault) : Prop :=
  (overflow ≤ if parts.unit.isEmpty then nearest parts.decimal.value * 1000
    else parts.decimal.value) ∧ fault = .infiniteQuantity

/-- A count of millicores is refused when the scaled number is out of range, and only then. -/
theorem isAmount_millicores (parts : Parts) (text : List Char) :
    IsAmountUnless parts.RefusesMillicores (parts.millicores text) := by
  have nonneg := parts.decimal.value_nonneg
  unfold Parts.millicores
  split
  next cores =>
    refine (isAmount_roundUp 1000 nonneg (by norm_num)).congr fun fault => ?_
    rw [out_of_range_scaled_up (by norm_num), Parts.RefusesMillicores]
    by_cases noUnit : parts.unit.isEmpty
    · rw [if_pos noUnit]
    · -- A number below one is taken for cores; neither it nor its thousandfold is too large.
      simp only [noUnit, Bool.or_false] at cores
      rw [if_neg noUnit]
      have below : parts.decimal.value < overflow := by
        by_contra beyond
        rw [Parts.magnitude, Magnitude.ofRat_of_overflow (not_lt.mp beyond)] at cores
        cases cores
      have little : nearest parts.decimal.value < 1 := by
        rw [Parts.magnitude, Magnitude.ofRat_of_lt nonneg below] at cores
        simpa [Magnitude.isBelowOne] using cores
      have scaled : nearest parts.decimal.value * 1000 < overflow := by
        linarith [two_pow_lt_overflow]
      simp [not_le.mpr below, not_le.mpr scaled]
  next amount =>
    have unit : ¬parts.unit.isEmpty := fun none => amount (by simp [none])
    obtain ⟨divisor, known, positive⟩ := cpuDivisor_ok parts.unit text
    have least : (1 : Rat) ≤ divisor := by exact_mod_cast positive
    have most : 1 / (divisor : Rat) ≤ 1 := (div_le_one (by linarith)).mpr least
    have rounded := isAmount_roundUp (1 / (divisor : Rat)) nonneg (by positivity)
    refine (rounded.of_outcome (Trace.bind_outcome_of_ok known _)).congr fun fault => ?_
    rw [out_of_range_scaled_down nonneg most, Parts.RefusesMillicores, if_neg unit]

/-! ### Memory quantities -/

/-- The bytes that a unit stands for. -/
def memoryFactor (unit : List Char) : Nat :=
  (memoryMultiplier? (lower unit)).getD unknownMemoryMultiplier

theorem memoryMultiplier_outcome (unit text : List Char) :
    (memoryMultiplier (lower unit) text).outcome = .ok (memoryFactor unit) := by
  unfold memoryMultiplier memoryFactor
  cases memoryMultiplier? (lower unit) <;> rfl

theorem one_le_memoryFactor (unit : List Char) : 1 ≤ memoryFactor unit := by
  unfold memoryFactor
  cases known : memoryMultiplier? (lower unit) with
  | none => decide
  | some multiplier =>
    unfold memoryMultiplier? at known
    split at known <;> cases known <;> decide

/-- A whole number of a memory quantity has too many digits, or one with a point is too large when
it is scaled by its unit. -/
def Parts.RefusesBytes (parts : Parts) (fault : Fault) : Prop :=
  match parts.decimal.fraction with
  | none =>
    digitLimit < parts.decimal.whole.length ∧
      fault = .longNumeral parts.decimal.whole.length
  | some _ =>
    overflow ≤ nearest parts.decimal.value * memoryFactor parts.unit ∧ fault = .infiniteQuantity

/-- A count of bytes is refused when a whole number is too long or a fraction out of range. -/
theorem isAmount_bytes (parts : Parts) (text : List Char) :
    IsAmountUnless parts.RefusesBytes (parts.bytes text) := by
  -- The unit is always known well enough, so its multiplier comes first and for free.
  have factored := memoryMultiplier_outcome parts.unit text
  unfold Parts.bytes
  refine IsAmountUnless.of_outcome ?_ (Trace.bind_outcome_of_ok factored _)
  cases fraction : parts.decimal.fraction with
  | none =>
    by_cases long : digitLimit < parts.decimal.whole.length
    · have refused : wholeNumber parts.decimal.whole = .fail (.longNumeral _) := if_pos long
      rw [refused]
      refine (IsAmountUnless.fail (.longNumeral parts.decimal.whole.length)).congr fun fault => ?_
      simp [Parts.RefusesBytes, fraction, long]
    · have read : wholeNumber parts.decimal.whole = Pure.pure (ofDigits parts.decimal.whole) :=
        if_neg long
      rw [read]
      refine (IsAmountUnless.pure (Int.natCast_nonneg _)).congr fun fault => ?_
      simp [Parts.RefusesBytes, fraction, long]
  | some digits =>
    have least : (1 : Rat) ≤ memoryFactor parts.unit := by
      exact_mod_cast one_le_memoryFactor parts.unit
    refine (isAmount_roundUp _ parts.decimal.value_nonneg (by positivity)).congr fun fault => ?_
    rw [out_of_range_scaled_up least]
    simp [Parts.RefusesBytes, fraction]

/-! ### From a text to its parts -/

/-- A text says nothing and counts as zero, or its parts are worth an amount unless they are
refused. -/
theorem isAmount_of_parts {refuses : Parts → Fault → Prop} {worth : Parts → Noted Int}
    (each : ∀ parts, IsAmountUnless (refuses parts) (worth parts)) (text : List Char) :
    IsAmountUnless (fun fault => ∃ parts, read? text = some parts ∧ refuses parts fault)
      (match read? text with
        | none => Pure.pure 0
        | some parts => worth parts) := by
  cases read? text with
  | none => exact (IsAmountUnless.pure le_rfl).congr fun fault => by simp
  | some parts => exact (each parts).congr fun fault => by simp

/-! ## Main result -/

/-- A CPU quantity and a memory quantity are refused exactly when their parts are too large or too
long; every other text is worth an amount that is not negative. A count is refused never: a value
without a text has no count. -/
theorem refused_iff_huge (text : List Char) (value : Value) :
    IsAmountUnless (fun fault => ∃ parts, read? text = some parts ∧ parts.RefusesMillicores fault)
      (millicores text) ∧
    IsAmountUnless (fun fault => ∃ parts, read? text = some parts ∧ parts.RefusesBytes fault)
      (bytes text) ∧
    (∀ fault, value.display = .error fault → count? value = none) := by
  refine ⟨isAmount_of_parts (fun parts => isAmount_millicores parts text) text,
    isAmount_of_parts (fun parts => isAmount_bytes parts text) text, ?_⟩
  intro fault unprinted
  cases value with
  | null => rfl
  | _ => simp only [count?, unprinted]

/-- A text with an unknown unit is accepted for CPU, and one that makes no sense for memory. -/
theorem refused_iff_huge_sample :
    (∃ amount, (millicores ['2', '5', 'x']).outcome = .ok amount ∧ 0 ≤ amount) ∧
      ∃ amount, (bytes ['-', '1', 'K', ' ', '2']).outcome = .ok amount ∧ 0 ≤ amount := by
  have read : read? ['2', '5', 'x'] = some ⟨⟨[2, 5], none⟩, ['x']⟩ := rfl
  have passedOver : read? ['-', '1', 'K', ' ', '2'] = some ⟨⟨[1, 2], none⟩, ['K']⟩ := rfl
  constructor
  · apply (refused_iff_huge ['2', '5', 'x'] .null).1.exists_amount
    rintro fault ⟨parts, found, beyond, -⟩
    obtain rfl := Option.some.inj (read.symm.trans found)
    have limit : (25 : Rat) < overflow := lt_trans (by norm_num) two_pow_lt_overflow
    have small : Decimal.value ⟨[2, 5], none⟩ < overflow := by
      simpa [Decimal.value, Decimal.digits, ofDigits] using limit
    exact absurd beyond (not_le.mpr small)
  · apply (refused_iff_huge ['-', '1', 'K', ' ', '2'] .null).2.1.exists_amount
    rintro fault ⟨parts, found, refused⟩
    obtain rfl := Option.some.inj (passedOver.symm.trans found)
    exact absurd refused.1 (by decide)

/-! ### Long numerals -/

section Numeral

variable {digits : List Char} {n : Nat} (numeral : IsNumeral digits n)

include numeral

theorem IsNumeral.refused_millicores (beyond : overflow ≤ n) :
    (Quantity.millicores digits).outcome = .error .infiniteQuantity := by
  rw [Quantity.millicores, numeral.read_whole]
  refine ((isAmount_millicores _ digits).refused_iff _).mpr ⟨?_, rfl⟩
  have out : overflow ≤ nearest (n : Rat) * 1000 :=
    (out_of_range_scaled_up (by norm_num)).mp (.inl beyond)
  rwa [List.isEmpty_nil, if_pos rfl, numeral.value]

theorem IsNumeral.refused_bytes (long : digitLimit < digits.length) :
    (Quantity.bytes digits).outcome = .error (.longNumeral digits.length) := by
  rw [Quantity.bytes, numeral.read_whole]
  refine ((isAmount_bytes _ digits).refused_iff _).mpr ?_
  simpa [Parts.RefusesBytes] using long

end Numeral

theorem isNumeral_cons_replicate {c : Char} (ascii : c.isDigit = true) (zeros : Nat) :
    IsNumeral (c :: List.replicate zeros '0')
      (Value.plainNumber (c :: List.replicate zeros '0')) where
  ascii := by
    rw [List.forall_mem_cons]
    refine ⟨ascii, fun other member => ?_⟩
    rw [List.eq_of_mem_replicate member]
    rfl
  nonempty := List.cons_ne_nil _ _
  denotes := rfl

theorem mul_pow_le_foldl (digits : List Nat) (value : Nat) :
    value * 10 ^ digits.length ≤ digits.foldl (fun value digit => 10 * value + digit) value := by
  induction digits generalizing value with
  | nil => simp
  | cons digit rest ih =>
    rw [List.foldl_cons, List.length_cons]
    calc value * 10 ^ (rest.length + 1) = 10 * value * 10 ^ rest.length := by ring
      _ ≤ (10 * value + digit) * 10 ^ rest.length :=
          Nat.mul_le_mul_right _ (Nat.le_add_right _ _)
      _ ≤ _ := ih (10 * value + digit)

/-- A one and some zeros denote a power of ten. -/
theorem pow_le_plainNumber (zeros : Nat) :
    10 ^ zeros ≤ Value.plainNumber ('1' :: List.replicate zeros '0') := by
  have leading := mul_pow_le_foldl ((List.replicate zeros '0').map fun c => c.toNat - 48) 1
  rwa [List.length_map, List.length_replicate, one_mul] at leading

/-- A one with four hundred zeros is too large for CPU, and a zero of 4301 digits too long for
memory. -/
theorem huge_quantities_refused :
    (millicores ('1' :: List.replicate 400 '0')).outcome = .error .infiniteQuantity ∧
      (bytes ('0' :: List.replicate 4300 '0')).outcome = .error (.longNumeral 4301) := by
  constructor
  · refine (isNumeral_cons_replicate (by decide) 400).refused_millicores ?_
    -- Eight is less than ten, and this is enough: no large power is evaluated.
    calc overflow ≤ 2 ^ (1024 : Int) := overflow_lt.le
      _ = 2 ^ 1024 := zpow_natCast 2 1024
      _ ≤ 2 ^ (3 * 400) := pow_le_pow_right₀ (by norm_num) (by norm_num)
      _ = (2 ^ 3) ^ 400 := pow_mul _ _ _
      _ ≤ 10 ^ 400 := pow_le_pow_left₀ (by norm_num) (by norm_num) _
      _ = ((10 ^ 400 : Nat) : Rat) := by rw [Nat.cast_pow, Nat.cast_ofNat]
      _ ≤ _ := Nat.cast_le.mpr (pow_le_plainNumber 400)
  · have refused := (isNumeral_cons_replicate (c := '0') (by decide) 4300).refused_bytes
      (by rw [List.length_cons, List.length_replicate]; decide)
    rwa [List.length_cons, List.length_replicate] at refused

end ClusterCensus.Quantity
