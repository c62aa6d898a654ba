import ClusterCensus.Proofs.Binary64.Grid
import ClusterCensus.Proofs.Value.Integers
import ClusterCensus.Proofs.Value.Printed
import ClusterCensus.Quantity.Count
import Mathlib.Data.List.TakeWhile

/-!
# Whole CPU quantities are exact

The magnitude of a quantity is a binary64 number, and the division by its unit is rounded once more.
For whole numbers of at most 53 bits neither does any harm: the number itself is a point of the
grid, and rounding the quotient up gives the same as if it had not been taken to the grid. So every
unit gives the exact number of millicores, rounded up, and an amount does not depend on the unit in
which it is written.

## Main result

`whole_cpu_is_exact`: the millicores of a whole number in each of the units.
-/
namespace ClusterCensus.Quantity

open ClusterCensus.Text ClusterCensus.Numeral ClusterCensus.Binary64

/-- The text writes the number in ASCII digits; leading zeros make no difference. -/
structure IsNumeral (digits : List Char) (n : Nat) : Prop where
  ascii : ∀ c ∈ digits, c.isDigit = true
  nonempty : digits ≠ []
  denotes : Value.plainNumber digits = n

theorem isNumeral_naturalDigits (n : Nat) : IsNumeral (naturalDigits n) n where
  ascii _ member := Nat.isDigit_of_mem_toDigits (by decide) (by decide) member
  nonempty := Value.naturalDigits_ne_nil n
  denotes := Value.plainNumber_naturalDigits n

/-! ### Reading a whole number -/

theorem digitValue?_of_ascii {c : Char} (ascii : c.isDigit = true) :
    digitValue? c = some (c.toNat - 48) := by
  have small : c.toNat < 128 := by
    have upper := toNat_le_of_ascii ascii
    omega
  simp [digitValue?, small, ascii]

theorem isNumberChar_of_ascii {c : Char} (ascii : c.isDigit = true) : isNumberChar c = true := by
  simp [isNumberChar, isDigit, digitValue?_of_ascii ascii]

theorem not_isLetter_of_ascii {c : Char} (ascii : c.isDigit = true) : isLetter c = false := by
  have upper := toNat_le_of_ascii ascii
  have small : c.toNat < 128 := by omega
  -- The letters of ASCII all stand behind its digits.
  have early : c.isAlpha = false := by
    have below : ∀ code < 58, (Char.ofNat code).isAlpha = false := by decide
    have same := below c.toNat (by omega)
    rwa [Char.ofNat_toNat] at same
  simp [isLetter, small, early]

theorem digitValues?_of_ascii {digits : List Char} (ascii : ∀ c ∈ digits, c.isDigit = true) :
    digitValues? digits = some (digits.map fun c => c.toNat - 48) := by
  induction digits with
  | nil => rfl
  | cons c rest ih =>
    rw [List.forall_mem_cons] at ascii
    have onward := ih ascii.2
    rw [digitValues?] at onward ⊢
    rw [List.mapM_cons, digitValue?_of_ascii ascii.1, onward]
    rfl

section Numeral

variable {digits : List Char} {n : Nat} (numeral : IsNumeral digits n)

include numeral

/-- A text of digits is read digit by digit, without a fraction. -/
theorem IsNumeral.decimal :
    decimal? digits = some ⟨digits.map fun c => c.toNat - 48, none⟩ := by
  have noPoint : ∀ c ∈ digits, (c != '.') = true := by
    intro c member
    have ascii := numeral.ascii c member
    by_cases point : c = '.'
    · subst point
      cases ascii
    · simpa using point
  have number : digits.takeWhile (· != '.') = digits := List.takeWhile_eq_self_iff.mpr noPoint
  have nothing : digits.dropWhile (· != '.') = [] := by
    rw [List.dropWhile_eq_nil_iff]
    exact noPoint
  unfold decimal?
  rw [number, nothing, digitValues?_of_ascii numeral.ascii]
  simp [Decimal.digits, numeral.nonempty]

/-- A numeral and a unit of letters are told apart. -/
theorem IsNumeral.read (unit : List Char) (letters : unit.filter isLetter = unit)
    (noDigits : unit.filter isNumberChar = []) :
    read? (digits ++ unit) = some ⟨⟨digits.map fun c => c.toNat - 48, none⟩, unit⟩ := by
  have number : numberText (digits ++ unit) = digits := by
    rw [numberText, List.filter_append, noDigits, List.append_nil, List.filter_eq_self]
    exact fun c member => isNumberChar_of_ascii (numeral.ascii c member)
  have suffix : unitText (digits ++ unit) = unit := by
    have none : digits.filter isLetter = [] := by
      rw [List.filter_eq_nil_iff]
      intro c member
      simp [not_isLetter_of_ascii (numeral.ascii c member)]
    rw [unitText, List.filter_append, none, letters, List.nil_append]
  rw [read?, number, numeral.decimal, suffix]
  rfl

theorem IsNumeral.read_whole :
    read? digits = some ⟨⟨digits.map fun c => c.toNat - 48, none⟩, []⟩ := by
  have split := numeral.read [] rfl rfl
  rwa [List.append_nil] at split

theorem IsNumeral.value : Decimal.value ⟨digits.map fun c => c.toNat - 48, none⟩ = n := by
  have whole : ofDigits (digits.map fun c => c.toNat - 48) = n := numeral.denotes
  simp [Decimal.value, Decimal.digits, whole]

/-- Whole numbers are read exactly up to 2 ^ 53. -/
theorem IsNumeral.magnitude (small : n ≤ 2 ^ 53) (unit : List Char) :
    Parts.magnitude ⟨⟨digits.map fun c => c.toNat - 48, none⟩, unit⟩ = .finite n := by
  rw [Parts.magnitude, numeral.value]
  exact Magnitude.ofRat_natCast small

end Numeral

/-! ### From a whole number to millicores -/

theorem roundUp_finite (value : Rat) : roundUp (.finite value) = pure ⌈value⌉ := by
  have same : value.ceil = ⌈value⌉ := Rat.ceil_eq_neg_floor_neg value
  rw [roundUp, same]

/-- A whole number of some unit is divided and rounded up as if the division were exact. -/
theorem roundUp_quotient {n d : Nat} (small : n < 2 ^ 53) (positive : 0 < d)
    (bounded : d ≤ 2 ^ 64) :
    roundUp ((Magnitude.finite n).scale (1 / (d : Rat))) = pure ⌈(n : Rat) / d⌉ := by
  have least : (1 : Rat) ≤ d := by exact_mod_cast positive
  have quotient : (n : Rat) / d ≤ n := div_le_self (by positivity) least
  have limit : (n : Rat) < 2 ^ 53 := by exact_mod_cast small
  have inRange : (n : Rat) / d < overflow := (quotient.trans_lt limit).trans two_pow_lt_overflow
  rw [Magnitude.scale, mul_one_div, Magnitude.ofRat_of_lt (by positivity) inRange, roundUp_finite,
    ceil_nearest_div small positive bounded]

theorem not_isBelowOne {n : Nat} (positive : n ≠ 0) :
    (Magnitude.finite n).isBelowOne = false := by
  simpa [Magnitude.isBelowOne] using positive

/-- A whole number of cores is a thousand times as many millicores. -/
theorem roundUp_cores {n : Nat} (small : 1000 * n ≤ 2 ^ 53) :
    roundUp ((Magnitude.finite n).scale 1000) = pure ((1000 * n : Nat) : Int) := by
  have product : (n : Rat) * 1000 = (1000 * n : Nat) := by
    push_cast
    ring
  rw [Magnitude.scale, product, Magnitude.ofRat_natCast small, roundUp_finite, Int.ceil_natCast]

section Numeral

variable {digits : List Char} {n : Nat} (numeral : IsNumeral digits n)

include numeral

/-- A whole number with a unit stands for its quotient by the divisor of the unit, rounded up. -/
theorem IsNumeral.millicores (unit : List Char) {divisor : Nat} (small : n < 2 ^ 53)
    (known : cpuDivisor? unit = some divisor) :
    millicores (digits ++ unit) = pure ⌈(n : Rat) / divisor⌉ := by
  -- There are three units, each of a single letter.
  obtain ⟨letters, noDigits, some, positive, bounded⟩ :
      unit.filter isLetter = unit ∧ unit.filter isNumberChar = [] ∧ unit ≠ [] ∧
        0 < divisor ∧ divisor ≤ 2 ^ 64 := by
    unfold cpuDivisor? at known
    split at known <;> cases known <;> decide
  have divided : cpuDivisor unit (digits ++ unit) = pure divisor := by
    rw [cpuDivisor, known]
  rw [Quantity.millicores, numeral.read unit letters noDigits]
  simp only [Parts.millicores, numeral.magnitude small.le, List.isEmpty_eq_false_iff.mpr some,
    Bool.or_false]
  by_cases zero : n = 0
  · -- Nothing is less than one unit, and is taken for cores; this makes no difference.
    subst zero
    have cores := roundUp_cores (n := 0) (by norm_num)
    simpa [Magnitude.isBelowOne] using cores
  · rw [not_isBelowOne zero, if_neg Bool.false_ne_true, divided, Trace.bind_eq_andThen,
      Trace.pure_andThen]
    exact roundUp_quotient small positive bounded

/-- A whole number without a unit counts cores. -/
theorem IsNumeral.millicores_cores (small : 1000 * n ≤ 2 ^ 53) :
    Quantity.millicores digits = pure ((1000 * n : Nat) : Int) := by
  have whole : n ≤ 2 ^ 53 := by omega
  rw [Quantity.millicores, numeral.read_whole]
  simp only [Parts.millicores, numeral.magnitude whole, List.isEmpty_nil, Bool.or_true, if_true]
  exact roundUp_cores small

end Numeral

/-! ## Main result -/

/-- The millicores of a whole number below `2 ^ 53` are exact in every unit, rounded up to an
integer, and the cores, millicores, microcores and nanocores of one amount are worth the same. -/
theorem whole_cpu_is_exact {n : Nat} (small : n < 2 ^ 53) :
    (∀ digits, IsNumeral digits n →
      millicores (digits ++ ['n']) = pure ⌈(n : Rat) / 1000000⌉ ∧
      millicores (digits ++ ['u']) = pure ⌈(n : Rat) / 1000⌉ ∧
      millicores (digits ++ ['m']) = pure (n : Int) ∧
      (1000 * n ≤ 2 ^ 53 → millicores digits = pure ((1000 * n : Nat) : Int))) ∧
    (∀ cores milli micro nano, IsNumeral cores n → IsNumeral milli (1000 * n) →
      IsNumeral micro (10 ^ 6 * n) → IsNumeral nano (10 ^ 9 * n) →
      (1000 * n ≤ 2 ^ 53 → millicores cores = pure ((1000 * n : Nat) : Int)) ∧
      (1000 * n < 2 ^ 53 → millicores (milli ++ ['m']) = pure ((1000 * n : Nat) : Int)) ∧
      (10 ^ 6 * n < 2 ^ 53 → millicores (micro ++ ['u']) = pure ((1000 * n : Nat) : Int)) ∧
      (10 ^ 9 * n < 2 ^ 53 → millicores (nano ++ ['n']) = pure ((1000 * n : Nat) : Int))) := by
  constructor
  · intro digits numeral
    refine ⟨numeral.millicores ['n'] small rfl, numeral.millicores ['u'] small rfl, ?_,
      numeral.millicores_cores⟩
    have exact := numeral.millicores ['m'] small rfl
    simpa using exact
  · intro cores milli micro nano inCores inMilli inMicro inNano
    refine ⟨inCores.millicores_cores, ?_, ?_, ?_⟩
    · intro fits
      have quotient : ((1000 * n : Nat) : Rat) / (1 : Nat) = (1000 * n : Nat) := by simp
      rw [inMilli.millicores ['m'] fits rfl, quotient, Int.ceil_natCast]
    · intro fits
      have quotient : ((10 ^ 6 * n : Nat) : Rat) / (1000 : Nat) = (1000 * n : Nat) := by
        push_cast
        ring
      rw [inMicro.millicores ['u'] fits rfl, quotient, Int.ceil_natCast]
    · intro fits
      have quotient : ((10 ^ 9 * n : Nat) : Rat) / (1000000 : Nat) = (1000 * n : Nat) := by
        push_cast
        ring
      rw [inNano.millicores ['n'] fits rfl, quotient, Int.ceil_natCast]

/-- The greatest number of nanocores is rounded up by one millicore at most, and two cores are two
cores however they are written. -/
theorem whole_cpu_is_exact_sample :
    2 ^ 53 - 1 < 2 ^ 53 ∧ IsNumeral ['0', '2'] 2 ∧
      millicores (naturalDigits (2 ^ 53 - 1) ++ ['n']) = pure 9007199255 ∧
      millicores ['0', '2'] = pure 2000 ∧
      millicores (naturalDigits (10 ^ 9 * 2) ++ ['n']) = pure 2000 := by
  have two : IsNumeral ['0', '2'] 2 := ⟨by simp, List.cons_ne_nil _ _, rfl⟩
  obtain ⟨nano, -⟩ := (whole_cpu_is_exact (n := 2 ^ 53 - 1) (by norm_num)).1 _
    (isNumeral_naturalDigits (2 ^ 53 - 1))
  obtain ⟨cores, -, -, same⟩ := (whole_cpu_is_exact (n := 2) (by norm_num)).2 ['0', '2'] _ _ _ two
    (isNumeral_naturalDigits _) (isNumeral_naturalDigits _) (isNumeral_naturalDigits _)
  refine ⟨by norm_num, two, ?_, cores (by norm_num), same (by norm_num)⟩
  rw [nano]
  norm_num

end ClusterCensus.Quantity
