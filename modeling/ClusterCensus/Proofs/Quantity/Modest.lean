import ClusterCensus.Observe.Pod
import ClusterCensus.Proofs.Binary64.Bounds
import ClusterCensus.Proofs.Trace
import ClusterCensus.Proofs.Value.Printed

/-!
# Quantities of few digits

The only things that can go wrong with a quantity are a number beyond the range of binary64 and a
whole number of too many digits. With at most 290 digits neither happens: the number is below
`10 ^ 290`, and no unit of a quantity is worth more than `2 ^ 40`.

## Main results

`IsModest.millicores` and `IsModest.bytes`: a text of at most 290 digits is read as a quantity.
-/
namespace ClusterCensus

open ClusterCensus.Text ClusterCensus.Numeral ClusterCensus.Binary64

/-! ### Digits -/

theorem Text.digitValue?_lt {c : Char} {d : Nat} (valued : digitValue? c = some d) : d < 10 := by
  unfold digitValue? at valued
  split at valued
  · split at valued
    next ascii =>
      obtain rfl := Option.some.inj valued
      have upper := toNat_le_of_ascii ascii
      omega
    next => cases valued
  · obtain ⟨start, found, rfl⟩ := Option.map_eq_some_iff.mp valued
    have within := List.find?_some found
    simp only [Bool.and_eq_true, decide_eq_true_eq] at within
    omega

namespace Numeral

theorem ofDigits_concat (digits : List Nat) (d : Nat) :
    ofDigits (digits ++ [d]) = 10 * ofDigits digits + d := by
  simp [ofDigits]

theorem ofDigits_lt {digits : List Nat} (decimal : ∀ d ∈ digits, d < 10) :
    ofDigits digits < 10 ^ digits.length := by
  induction digits using List.reverseRecOn with
  | nil => decide
  | append_singleton rest d ih =>
    have before := ih fun e member => decimal e (List.mem_append_left _ member)
    have last := decimal d (by simp)
    rw [ofDigits_concat, List.length_append, List.length_singleton, Nat.pow_succ]
    omega

theorem digitValues?_spec {text : List Char} {digits : List Nat}
    (valued : digitValues? text = some digits) :
    digits.length = text.countP isDigit ∧ ∀ d ∈ digits, d < 10 := by
  induction text generalizing digits with
  | nil =>
    obtain rfl : [] = digits := Option.some.inj valued
    simp
  | cons c rest ih =>
    rw [digitValues?, List.mapM_cons] at valued
    simp only [Option.bind_eq_bind, Option.bind_eq_some_iff] at valued
    obtain ⟨d, first, others, onward, same⟩ := valued
    obtain rfl := Option.some.inj same
    obtain ⟨counted, bounded⟩ := ih onward
    have counts : isDigit c = true := by simp [isDigit, first]
    refine ⟨by simp [counts, counted], ?_⟩
    simpa using ⟨digitValue?_lt first, bounded⟩

end Numeral

namespace Quantity

/-! ### The number of a quantity -/

/-- The text has at most 290 digits. -/
def IsModest (text : List Char) : Prop :=
  text.countP isDigit ≤ 290

instance : DecidablePred IsModest :=
  fun text => inferInstanceAs (Decidable (text.countP isDigit ≤ 290))

/-- A number has no more digits than its text, each less than ten. -/
theorem decimal?_spec {number : List Char} {d : Decimal} (read : decimal? number = some d) :
    d.digits.length ≤ number.countP isDigit ∧ ∀ e ∈ d.digits, e < 10 := by
  have split := List.takeWhile_append_dropWhile (p := (· != '.')) (l := number)
  have total := congrArg (List.countP isDigit) split
  rw [List.countP_append] at total
  unfold decimal? at read
  simp only [Option.bind_eq_bind, Option.bind_eq_some_iff] at read
  obtain ⟨whole, wholeRead, read⟩ := read
  obtain ⟨wholeCount, wholeDigits⟩ := digitValues?_spec wholeRead
  -- What follows the point is the fraction, if there is a point.
  cases rest : number.dropWhile (· != '.') with
  | nil =>
    simp only [rest, Option.bind_some, Option.ite_none_left_eq_some,
      Option.some.injEq] at read total
    obtain ⟨-, rfl⟩ := read
    refine ⟨?_, by simpa [Decimal.digits] using wholeDigits⟩
    simp only [Decimal.digits, Option.getD_none, List.append_nil]
    omega
  | cons point after =>
    simp only [rest, Option.bind_eq_some_iff, Option.map_eq_some_iff,
      Option.ite_none_left_eq_some, Option.some.injEq] at read
    obtain ⟨_, ⟨digits, afterRead, rfl⟩, -, rfl⟩ := read
    obtain ⟨afterCount, afterDigits⟩ := digitValues?_spec afterRead
    rw [rest, List.countP_cons] at total
    refine ⟨?_, ?_⟩
    · simp only [Decimal.digits, Option.getD_some, List.length_append]
      omega
    · simp only [Decimal.digits, Option.getD_some, List.mem_append]
      rintro e (member | member)
      · exact wholeDigits e member
      · exact afterDigits e member

/-- A decimal number of at most 290 digits. -/
structure Decimal.IsModest (d : Decimal) : Prop where
  length : d.digits.length ≤ 290
  decimal : ∀ e ∈ d.digits, e < 10

theorem read?_modest {text : List Char} {parts : Parts} (modest : IsModest text)
    (read : read? text = some parts) : parts.decimal.IsModest := by
  obtain ⟨d, decimalRead, rfl⟩ := Option.map_eq_some_iff.mp read
  obtain ⟨counted, decimal⟩ := decimal?_spec decimalRead
  have fewer : (numberText text).countP isDigit ≤ text.countP isDigit :=
    List.filter_sublist.countP_le
  exact ⟨(counted.trans fewer).trans modest, decimal⟩

theorem pow_ten_le : (10 : Rat) ^ 290 ≤ 2 ^ 970 := by
  -- A thousand is less than 1024, and this is enough: no large power is evaluated.
  calc (10 : Rat) ^ 290 ≤ 10 ^ (3 * 97) := pow_le_pow_right₀ (by norm_num) (by norm_num)
    _ = (10 ^ 3) ^ 97 := pow_mul _ _ _
    _ ≤ (2 ^ 10) ^ 97 := pow_le_pow_left₀ (by norm_num) (by norm_num) _
    _ = 2 ^ 970 := (pow_mul _ _ _).symm

theorem two_mul_add_one_le {q : Rat} {n : Nat} (bounded : q ≤ 2 ^ n) : 2 * q + 1 ≤ 2 ^ (n + 2) := by
  have least : (1 : Rat) ≤ 2 ^ n := one_le_pow₀ (by norm_num)
  rw [pow_add]
  linarith

theorem pow_lt_outOfRange {n : Nat} (below : n < 1024) : (2 : Rat) ^ n < outOfRange := by
  rw [outOfRange, ← zpow_natCast]
  exact zpow_lt_zpow_right₀ (by norm_num) (by exact_mod_cast below)

theorem Decimal.IsModest.value {d : Decimal} (modest : d.IsModest) :
    0 ≤ d.value ∧ d.value ≤ 2 ^ 970 := by
  have power : (1 : Rat) ≤ (10 : Rat) ^ ((d.fraction.getD []).length : Int) :=
    one_le_zpow₀ (by norm_num) (by simp)
  have nonneg : (0 : Rat) ≤ ofDigits d.digits := by positivity
  have below : ofDigits d.digits ≤ 10 ^ d.digits.length := (ofDigits_lt modest.decimal).le
  have bounded : (ofDigits d.digits : Rat) ≤ 2 ^ 970 :=
    calc (ofDigits d.digits : Rat) ≤ 10 ^ d.digits.length := by exact_mod_cast below
      _ ≤ 10 ^ 290 := pow_le_pow_right₀ (by norm_num) modest.length
      _ ≤ 2 ^ 970 := pow_ten_le
  exact ⟨div_nonneg nonneg (by linarith), (div_le_self nonneg power).trans bounded⟩

/-! ### The magnitude of a quantity -/

/-- The magnitude of a modest number is finite, with room for the largest unit. -/
theorem Decimal.IsModest.magnitude {parts : Parts} (modest : parts.decimal.IsModest) :
    ∃ value, parts.magnitude = .finite value ∧ 0 ≤ value ∧ value ≤ 2 ^ (970 + 2) := by
  obtain ⟨nonneg, below⟩ := modest.value
  have doubled : 2 * parts.decimal.value + 1 ≤ 2 ^ (970 + 2) := two_mul_add_one_le below
  have inRange := doubled.trans_lt (pow_lt_outOfRange (by norm_num))
  obtain ⟨value, rounded, positive, near⟩ := Magnitude.ofRat_of_le nonneg inRange
  exact ⟨value, rounded, positive, near.trans doubled⟩

theorem returns_roundUp (value : Rat) : (roundUp (.finite value)).Returns :=
  Trace.returns_pure _

/-- No unit takes a modest number out of range. -/
theorem Decimal.IsModest.returns_scale {parts : Parts} (modest : parts.decimal.IsModest)
    {factor : Rat} (nonneg : 0 ≤ factor) (small : factor ≤ 2 ^ 40) :
    (roundUp (parts.magnitude.scale factor)).Returns := by
  obtain ⟨value, rounded, positive, near⟩ := modest.magnitude
  -- The product is rounded a second time.
  have product : value * factor ≤ 2 ^ (970 + 2 + 40) := by
    rw [pow_add _ (970 + 2) 40]
    exact mul_le_mul near small nonneg (by positivity)
  have doubled : 2 * (value * factor) + 1 ≤ 2 ^ (970 + 2 + 40 + 2) := two_mul_add_one_le product
  have inRange := doubled.trans_lt (pow_lt_outOfRange (by norm_num))
  obtain ⟨scaled, finite, -⟩ := Magnitude.ofRat_of_le (mul_nonneg positive nonneg) inRange
  rw [rounded, Magnitude.scale, finite]
  exact returns_roundUp scaled

/-! ## Main results -/

theorem cpuDivisor_ok (unit text : List Char) :
    ∃ divisor, (cpuDivisor unit text).outcome = .ok divisor ∧ 1 ≤ divisor := by
  unfold cpuDivisor
  split
  next divisor known =>
    refine ⟨divisor, rfl, ?_⟩
    unfold cpuDivisor? at known
    split at known <;> cases known <;> decide
  next => exact ⟨unknownCpuDivisor, rfl, by decide⟩

theorem memoryMultiplier_ok (suffix text : List Char) :
    ∃ multiplier, (memoryMultiplier suffix text).outcome = .ok multiplier ∧
      multiplier ≤ 2 ^ 40 := by
  unfold memoryMultiplier
  split
  next multiplier known =>
    refine ⟨multiplier, rfl, ?_⟩
    unfold memoryMultiplier? at known
    split at known <;> cases known <;> decide
  next => exact ⟨unknownMemoryMultiplier, rfl, by decide⟩

/-- A CPU quantity of at most 290 digits can be read. -/
theorem IsModest.millicores {text : List Char} (modest : IsModest text) :
    (millicores text).Returns := by
  unfold Quantity.millicores
  split
  next => exact Trace.returns_pure 0
  next parts read =>
    have few := read?_modest modest read
    unfold Parts.millicores
    split
    · exact few.returns_scale (by norm_num) (by norm_num)
    · -- To divide is to scale by a factor of at most one.
      obtain ⟨divisor, known, positive⟩ := cpuDivisor_ok parts.unit text
      refine Trace.returns_bind_iff.mpr ⟨divisor, known, ?_⟩
      have least : (1 : Rat) ≤ divisor := by exact_mod_cast positive
      have small : 1 / (divisor : Rat) ≤ 1 := (div_le_one (by linarith)).mpr least
      exact few.returns_scale (by positivity) (small.trans (by norm_num))

/-- A memory quantity of at most 290 digits can be read. -/
theorem IsModest.bytes {text : List Char} (modest : IsModest text) : (bytes text).Returns := by
  unfold Quantity.bytes
  split
  next => exact Trace.returns_pure 0
  next parts read =>
    have few := read?_modest modest read
    obtain ⟨multiplier, known, small⟩ := memoryMultiplier_ok (lower parts.unit) text
    refine Trace.returns_bind_iff.mpr ⟨multiplier, known, ?_⟩
    split
    next =>
      -- A whole number is not rounded, but it may not have too many digits.
      have within : ¬digitLimit < parts.decimal.whole.length := by
        have whole : parts.decimal.whole.length ≤ parts.decimal.digits.length := by
          simp [Decimal.digits]
        have limit : 290 ≤ digitLimit := by decide
        have length := few.length
        omega
      rw [wholeNumber, if_neg within]
      exact Trace.returns_pure _
    next =>
      have bounded : (multiplier : Rat) ≤ 2 ^ 40 := by exact_mod_cast small
      exact few.returns_scale (by positivity) bounded

end Quantity

/-- The printed form of the value has at most 290 digits. -/
def Value.IsModest (value : Value) : Prop :=
  Quantity.IsModest value.printed

instance : DecidablePred Value.IsModest :=
  fun value => inferInstanceAs (Decidable (Quantity.IsModest value.printed))

theorem Value.IsModest.display {value : Value} (modest : value.IsModest) :
    value.display = .ok value.printed := by
  have limit : 290 ≤ digitLimit := by decide
  exact Value.display_of_few (modest.trans limit)

theorem returns_declared {parse : List Char → Noted Int}
    (parses : ∀ {text}, Quantity.IsModest text → (parse text).Returns) {value : Value}
    (modest : value.IsModest) : (declared parse value).Returns := by
  unfold declared
  split
  · exact Trace.returns_pure none
  · rw [modest.display, Trace.ofExcept_ok_bind]
    exact Trace.returns_bind_pure_iff.mpr (parses modest)

end ClusterCensus
