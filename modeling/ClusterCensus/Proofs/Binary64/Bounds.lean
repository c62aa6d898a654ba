import ClusterCensus.Binary64.Rounding
import Mathlib.Algebra.Order.Field.Power
import Mathlib.Data.Rat.Floor
import Mathlib.Tactic.Linarith
import Mathlib.Tactic.Positivity

/-!
# Rounding stays near

Rounding to the grid moves a number by at most the distance between neighbouring grid points, and
this distance is not above the number itself unless the number is small. So a number well below the
range limit stays within range, also when it is scaled and rounded again.

## Main result

`Magnitude.ofRat_of_le`: a number that is not too large is rounded to a finite one near it.
-/
namespace ClusterCensus.Binary64

variable {q : Rat}

/-! ### The spacing of the grid -/

theorem two_zpow_log2_le {n : Nat} (nonzero : n ≠ 0) : (2 : Rat) ^ (n.log2 : Int) ≤ n := by
  rw [zpow_natCast]
  exact_mod_cast Nat.log2_self_le nonzero

theorem lt_two_zpow_log2 (n : Nat) : (n : Rat) < (2 : Rat) ^ ((n.log2 : Int) + 1) := by
  rw [← Nat.cast_succ, zpow_natCast]
  exact_mod_cast Nat.lt_log2_self

/-- A positive number is the quotient of two numbers that have a logarithm. -/
theorem eq_natAbs_div_den (positive : 0 < q) : q = (q.num.natAbs : Rat) / q.den := by
  have numerator : ((q.num.natAbs : Int) : Rat) = q.num := by
    rw [Int.natAbs_of_nonneg (Rat.num_pos.mpr positive).le]
  rw [← Int.cast_natCast, numerator, Rat.num_div_den]

/-- The leading power of two of a number does not exceed it. -/
theorem two_zpow_binaryExponent_le (positive : 0 < q) : (2 : Rat) ^ binaryExponent q ≤ q := by
  have size : q.abs = q := Rat.abs_of_nonneg positive.le
  unfold binaryExponent
  simp only [size]
  split
  next fits => exact fits
  next above =>
    -- The logarithms are those of the numerator and of the denominator, each cut off.
    have numerator := two_zpow_log2_le (Int.natAbs_ne_zero.mpr (Rat.num_pos.mpr positive).ne')
    have denominator := (lt_two_zpow_log2 q.den).le
    have positiveDen : (0 : Rat) < q.den := by exact_mod_cast q.den_pos
    calc (2 : Rat) ^ ((q.num.natAbs.log2 : Int) - (q.den.log2 : Int) - 1)
        = (2 : Rat) ^ (q.num.natAbs.log2 : Int) / (2 : Rat) ^ ((q.den.log2 : Int) + 1) := by
          rw [← zpow_sub₀ (by norm_num), sub_sub]
      _ ≤ q.num.natAbs / q.den := div_le_div₀ (by positivity) numerator positiveDen denominator
      _ = q := (eq_natAbs_div_den positive).symm

theorem spacing_pos (q : Rat) : 0 < spacing q := by
  unfold spacing
  positivity

/-- Neighbouring grid points are at most as far apart as the number is large, or by one. -/
theorem spacing_le (nonneg : 0 ≤ q) : spacing q ≤ q + 1 := by
  have small : (2 : Rat) ^ max (-53 : Int) (-1074) ≤ 1 :=
    zpow_le_one_of_nonpos₀ (by norm_num) (by norm_num)
  rcases nonneg.eq_or_lt with rfl | positive
  · -- Zero has no logarithm; its exponent is that of a half.
    have exponent : binaryExponent 0 = -1 := by decide
    rw [spacing, exponent, zero_add]
    exact small
  · rw [spacing]
    rcases max_choice (binaryExponent q - 52) (-1074) with coarse | fine
    · -- On the coarse grid the spacing is a small part of the leading power of two.
      have finer : (2 : Rat) ^ (binaryExponent q - 52) ≤ (2 : Rat) ^ binaryExponent q :=
        zpow_le_zpow_right₀ (by norm_num) (by omega)
      have below := two_zpow_binaryExponent_le positive
      rw [coarse]
      linarith
    · have tiny : (2 : Rat) ^ (-1074 : Int) ≤ 1 :=
        zpow_le_one_of_nonpos₀ (by norm_num) (by norm_num)
      rw [fine]
      linarith

/-! ### Rounding -/

theorem roundEven_bounds (q : Rat) : ⌊q⌋ ≤ roundEven q ∧ roundEven q ≤ ⌊q⌋ + 1 := by
  have below : q.floor = ⌊q⌋ := rfl
  unfold roundEven
  simp only [below]
  split
  · omega
  · split
    · omega
    · split <;> omega

theorem nearest_nonneg (nonneg : 0 ≤ q) : 0 ≤ nearest q := by
  have spaced := spacing_pos q
  have scaled : 0 ≤ q / spacing q := div_nonneg nonneg spaced.le
  have whole : 0 ≤ roundEven (q / spacing q) :=
    (Int.floor_nonneg.mpr scaled).trans (roundEven_bounds _).1
  have cast : (0 : Rat) ≤ roundEven (q / spacing q) := by exact_mod_cast whole
  exact mul_nonneg cast spaced.le

/-- A rounded number is at most twice the number, and one more. -/
theorem nearest_le (nonneg : 0 ≤ q) : nearest q ≤ 2 * q + 1 := by
  have spaced := spacing_pos q
  -- The number of grid steps is rounded to one of its two neighbours.
  have whole : (roundEven (q / spacing q) : Rat) ≤ q / spacing q + 1 := by
    have upper : (roundEven (q / spacing q) : Rat) ≤ (⌊q / spacing q⌋ : Rat) + 1 := by
      exact_mod_cast (roundEven_bounds (q / spacing q)).2
    linarith [Int.floor_le (q / spacing q)]
  calc nearest q ≤ (q / spacing q + 1) * spacing q := mul_le_mul_of_nonneg_right whole spaced.le
    _ = q + spacing q := by rw [add_mul, one_mul, div_mul_cancel₀ q spaced.ne']
    _ ≤ 2 * q + 1 := by linarith [spacing_le nonneg]

/-! ## Main result -/

/-- A number that is not too large is rounded to a finite one that is not much larger. -/
theorem Magnitude.ofRat_of_le (nonneg : 0 ≤ q) (bounded : 2 * q + 1 < outOfRange) :
    ∃ value, Magnitude.ofRat q = .finite value ∧ 0 ≤ value ∧ value ≤ 2 * q + 1 := by
  have near := nearest_le nonneg
  refine ⟨nearest q, ?_, nearest_nonneg nonneg, near⟩
  rw [Magnitude.ofRat]
  exact if_neg (not_le.mpr (near.trans_lt bounded))

end ClusterCensus.Binary64
