import ClusterCensus.Proofs.Binary64.Bounds
import Mathlib.Tactic.FieldSimp
import Mathlib.Tactic.Ring

/-!
# Rounding does not cross the grid

A number lies between two neighbouring points of its grid, and rounding takes it to one of them. So
rounding never carries a number past a grid point, and it leaves a grid point behind when the number
is more than half a spacing away from it.

Below `2 ^ 53` every integer is a grid point. A quotient of two integers that is not whole keeps a
distance from the integers of at least one over the denominator, and this is more than half a
spacing as long as the numerator is below `2 ^ 53`. So rounding such a quotient up or down to an
integer gives the same before and after it is taken to the grid.

The last finite point of the grid ends a range whose middle to the next power of two is the least
number that is rounded out of range.

## Main results

`nearest_natCast`, `ceil_nearest_div` and `floor_nearest_div` for integers and quotients;
`Magnitude.ofRat_of_overflow` and `Magnitude.ofRat_of_lt` for the end of the range.
-/
namespace ClusterCensus.Binary64

variable {q : Rat} {k : Int}

/-! ### The exponent of a number -/

/-- The next power of two is beyond the number. -/
theorem lt_two_zpow_binaryExponent (positive : 0 < q) :
    q < (2 : Rat) ^ (binaryExponent q + 1) := by
  have size : q.abs = q := Rat.abs_of_nonneg positive.le
  unfold binaryExponent
  simp only [size]
  split
  next fits =>
    -- The logarithm of the numerator is cut off, that of the denominator only makes it smaller.
    have numerator := lt_two_zpow_log2 q.num.natAbs
    have denominator := two_zpow_log2_le q.den_nz
    calc q = q.num.natAbs / q.den := eq_natAbs_div_den positive
      _ ≤ q.num.natAbs / (2 : Rat) ^ (q.den.log2 : Int) :=
          div_le_div_of_nonneg_left (by positivity) (by positivity) denominator
      _ < (2 : Rat) ^ ((q.num.natAbs.log2 : Int) + 1) / (2 : Rat) ^ (q.den.log2 : Int) :=
          div_lt_div_of_pos_right numerator (by positivity)
      _ = (2 : Rat) ^ ((q.num.natAbs.log2 : Int) - (q.den.log2 : Int) + 1) := by
          rw [← zpow_sub₀ (by norm_num)]
          congr 1
          ring
  next above =>
    rw [sub_add_cancel]
    exact not_le.mp above

theorem binaryExponent_lt {n : Int} (positive : 0 < q) (below : q < (2 : Rat) ^ n) :
    binaryExponent q < n := by
  have between := (two_zpow_binaryExponent_le positive).trans_lt below
  exact (zpow_lt_zpow_iff_right₀ (by norm_num)).mp between

theorem le_binaryExponent {n : Int} (positive : 0 < q) (above : (2 : Rat) ^ n ≤ q) :
    n ≤ binaryExponent q := by
  have between := above.trans_lt (lt_two_zpow_binaryExponent positive)
  have next := (zpow_lt_zpow_iff_right₀ (by norm_num)).mp between
  omega

/-! ### Rounding to integers -/

theorem roundEven_intCast (k : Int) : roundEven k = k := by
  have below : (k : Rat).floor = k := Rat.floor_intCast k
  simp [roundEven, below]

/-- Rounding to an integer moves a number by a half at most. -/
theorem roundEven_error (q : Rat) : |(roundEven q : Rat) - q| ≤ 1 / 2 := by
  have floor : q.floor = ⌊q⌋ := rfl
  have lower := Int.floor_le q
  have upper := Int.lt_floor_add_one q
  unfold roundEven
  simp only [floor]
  rw [abs_le]
  split_ifs <;> push_cast <;> constructor <;> linarith

theorem roundEven_le (below : q ≤ k) : roundEven q ≤ k := by
  rcases below.eq_or_lt with rfl | less
  · rw [roundEven_intCast]
  · have floor : ⌊q⌋ < k := Int.floor_lt.mpr less
    have bounds := (roundEven_bounds q).2
    omega

theorem le_roundEven (above : (k : Rat) ≤ q) : k ≤ roundEven q :=
  (Int.le_floor.mpr above).trans (roundEven_bounds q).1

theorem lt_roundEven (far : (k : Rat) + 1 / 2 < q) : k < roundEven q := by
  have near := (abs_le.mp (roundEven_error q)).1
  have beyond : (k : Rat) < roundEven q := by linarith
  exact_mod_cast beyond

/-- The middle below an even integer is rounded up to it. -/
theorem le_roundEven_iff_of_even (even : k % 2 = 0) :
    k ≤ roundEven q ↔ (k : Rat) - 1 / 2 ≤ q := by
  constructor
  · intro reached
    have near := (abs_le.mp (roundEven_error q)).2
    have cast : (k : Rat) ≤ roundEven q := by exact_mod_cast reached
    linarith
  · intro close
    -- From half a step below on, the number is at least the integer before.
    have previous : ((k - 1 : Int) : Rat) ≤ q := by
      push_cast
      linarith
    have low := Int.le_floor.mpr previous
    rcases low.eq_or_lt with same | higher
    · -- Below is the odd neighbour, so a tie is rounded away from it.
      have floor : q.floor = k - 1 := same.symm
      have half : 1 / 2 ≤ q - ((k - 1 : Int) : Rat) := by
        push_cast
        linarith
      unfold roundEven
      simp only [floor]
      split_ifs
      · linarith
      · omega
      · omega
      · omega
    · have bounds := (roundEven_bounds q).1
      omega

/-! ### Points of the grid -/

/-- Rounding does not pass a point of the grid. -/
theorem nearest_le_of_le (below : q ≤ k * spacing q) : nearest q ≤ k * spacing q := by
  have steps : q / spacing q ≤ k := (div_le_iff₀ (spacing_pos q)).mpr below
  have rounded : (roundEven (q / spacing q) : Rat) ≤ k := by exact_mod_cast roundEven_le steps
  exact mul_le_mul_of_nonneg_right rounded (spacing_pos q).le

theorem le_nearest_of_le (above : k * spacing q ≤ q) : k * spacing q ≤ nearest q := by
  have steps : (k : Rat) ≤ q / spacing q := (le_div_iff₀ (spacing_pos q)).mpr above
  have rounded : (k : Rat) ≤ roundEven (q / spacing q) := by exact_mod_cast le_roundEven steps
  exact mul_le_mul_of_nonneg_right rounded (spacing_pos q).le

theorem lt_nearest_of_lt (far : k * spacing q + spacing q / 2 < q) :
    k * spacing q < nearest q := by
  have steps : (k : Rat) + 1 / 2 < q / spacing q := by
    rw [lt_div_iff₀ (spacing_pos q)]
    linarith
  have rounded : (k : Rat) < roundEven (q / spacing q) := by exact_mod_cast lt_roundEven steps
  exact mul_lt_mul_of_pos_right rounded (spacing_pos q)

/-- The points of the grid stay where they are. -/
theorem nearest_of_grid (point : q = k * spacing q) : nearest q = q :=
  le_antisymm ((nearest_le_of_le point.le).trans point.ge)
    (point.le.trans (le_nearest_of_le point.ge))

theorem nearest_le_add (q : Rat) : nearest q ≤ q + spacing q / 2 := by
  have near := (abs_le.mp (roundEven_error (q / spacing q))).2
  calc nearest q = roundEven (q / spacing q) * spacing q := rfl
    _ ≤ (q / spacing q + 1 / 2) * spacing q :=
        mul_le_mul_of_nonneg_right (by linarith) (spacing_pos q).le
    _ = q + spacing q / 2 := by
        rw [add_mul, div_mul_cancel₀ q (spacing_pos q).ne']
        ring

/-! ### Integers on the grid -/

/-- Around a number with an exponent of at most 52 the spacing is one over a power of two. -/
theorem exists_steps (small : binaryExponent q ≤ 52) (k : Int) :
    ∃ steps : Int, (k : Rat) = steps * spacing q := by
  obtain ⟨shift, shifted⟩ :
      ∃ shift : Nat, max (binaryExponent q - 52) (-1074) = -(shift : Int) :=
    ⟨(-max (binaryExponent q - 52) (-1074)).toNat, by omega⟩
  refine ⟨k * 2 ^ shift, ?_⟩
  rw [spacing, shifted, zpow_neg, zpow_natCast]
  push_cast
  field_simp

section Small

variable (positive : 0 < q) (small : q < 2 ^ 53)

include positive small

theorem binaryExponent_le_of_small : binaryExponent q ≤ 52 := by
  have below : q < (2 : Rat) ^ (53 : Int) := by
    rw [show (53 : Int) = (53 : Nat) from rfl, zpow_natCast]
    exact small
  have exponent := binaryExponent_lt positive below
  omega

/-- Nor does rounding pass an integer, while integers are points of the grid. -/
theorem nearest_le_int (below : q ≤ k) : nearest q ≤ k := by
  obtain ⟨steps, reached⟩ := exists_steps (binaryExponent_le_of_small positive small) k
  rw [reached] at below ⊢
  exact nearest_le_of_le below

theorem int_le_nearest (above : (k : Rat) ≤ q) : (k : Rat) ≤ nearest q := by
  obtain ⟨steps, reached⟩ := exists_steps (binaryExponent_le_of_small positive small) k
  rw [reached] at above ⊢
  exact le_nearest_of_le above

theorem int_lt_nearest (far : (k : Rat) + spacing q / 2 < q) : (k : Rat) < nearest q := by
  obtain ⟨steps, reached⟩ := exists_steps (binaryExponent_le_of_small positive small) k
  rw [reached] at far ⊢
  exact lt_nearest_of_lt far

end Small

theorem nearest_zero : nearest 0 = 0 := by
  rw [nearest, zero_div]
  have none : roundEven 0 = 0 := roundEven_intCast 0
  rw [none, Int.cast_zero, zero_mul]

/-- The first integer that is not below `2 ^ 53` is a grid point too. -/
theorem nearest_two_pow : nearest (2 ^ 53) = 2 ^ 53 := by
  have exponent : binaryExponent (2 ^ 53) = 53 := by decide
  have apart : spacing (2 ^ 53) = 2 := by
    rw [spacing, exponent]
    norm_num
  refine nearest_of_grid (k := 2 ^ 52) ?_
  rw [apart]
  norm_num

/-- An integer of at most 53 bits is kept. -/
theorem nearest_natCast {n : Nat} (small : n ≤ 2 ^ 53) : nearest n = n := by
  rcases Nat.eq_zero_or_pos n with rfl | positive
  · exact nearest_zero
  · rcases small.eq_or_lt with rfl | less
    · have same : ((2 ^ 53 : Nat) : Rat) = 2 ^ 53 := by norm_num
      rw [same, nearest_two_pow]
    · have above : (0 : Rat) < n := by exact_mod_cast positive
      have below : (n : Rat) < 2 ^ 53 := by exact_mod_cast less
      -- A smaller number is an integer of the grid, which rounding passes from neither side.
      refine le_antisymm ?_ ?_
      · exact_mod_cast nearest_le_int (k := n) above below (by simp)
      · exact_mod_cast int_le_nearest (k := n) above below (by simp)

/-! ### Quotients of integers -/

theorem spacing_le_mul (normal : (2 : Rat) ^ (-1022 : Int) ≤ q) :
    spacing q ≤ 2 ^ (-52 : Int) * q := by
  have positive : 0 < q := lt_of_lt_of_le (by positivity) normal
  have exponent := le_binaryExponent positive normal
  have coarse : max (binaryExponent q - 52) (-1074) = -52 + binaryExponent q := by omega
  rw [spacing, coarse, zpow_add₀ (by norm_num)]
  exact mul_le_mul_of_nonneg_left (two_zpow_binaryExponent_le positive) (by positivity)

section Quotient

variable {n d : Nat} (small : n < 2 ^ 53) (positive : 0 < d)

include small positive

/-- A quotient is further from the integers than rounding reaches. -/
theorem half_spacing_div_lt (least : 0 < n) (bounded : d ≤ 2 ^ 64) :
    spacing ((n : Rat) / d) / 2 < 1 / d := by
  have denominator : (0 : Rat) < d := by exact_mod_cast positive
  have numerator : (1 : Rat) ≤ n := by exact_mod_cast least
  have limit : (n : Rat) < 2 ^ 53 := by exact_mod_cast small
  have size : (d : Rat) ≤ 2 ^ 64 := by exact_mod_cast bounded
  -- The quotient is far from the least numbers, so the spacing there is a part of it.
  have normal : (2 : Rat) ^ (-1022 : Int) ≤ n / d :=
    calc (2 : Rat) ^ (-1022 : Int) ≤ 2 ^ (-64 : Int) :=
          zpow_le_zpow_right₀ (by norm_num) (by norm_num)
      _ = 1 / 2 ^ 64 := by norm_num
      _ ≤ n / d := div_le_div₀ (by positivity) numerator denominator size
  calc spacing ((n : Rat) / d) / 2 ≤ 2 ^ (-52 : Int) * (n / d) / 2 := by
        linarith [spacing_le_mul normal]
    _ = n / 2 ^ 53 / d := by
        rw [show (2 : Rat) ^ (-52 : Int) = 2 / 2 ^ 53 by norm_num]
        ring
    _ < 1 / d := by
        refine div_lt_div_of_pos_right ?_ denominator
        rwa [div_lt_one (by positivity)]

theorem quotient_lt : (n : Rat) / d < 2 ^ 53 := by
  have one : (1 : Rat) ≤ d := by exact_mod_cast positive
  have limit : (n : Rat) < 2 ^ 53 := by exact_mod_cast small
  exact (div_le_self n.cast_nonneg one).trans_lt limit

/-- Rounding up does not see whether a quotient has been taken to the grid before. -/
theorem ceil_nearest_div (bounded : d ≤ 2 ^ 64) : ⌈nearest ((n : Rat) / d)⌉ = ⌈(n : Rat) / d⌉ := by
  rcases Nat.eq_zero_or_pos n with rfl | least
  · rw [Nat.cast_zero, zero_div, nearest_zero]
  have denominator : (0 : Rat) < d := by exact_mod_cast positive
  have above : (0 : Rat) < n / d := by positivity
  have below := quotient_lt small positive
  refine Int.ceil_eq_iff.mpr ⟨?_, nearest_le_int above below (Int.le_ceil _)⟩
  -- The integer below the quotient is left behind.
  have left : ((⌈(n : Rat) / d⌉ - 1 : Int) : Rat) < n / d := by
    push_cast
    linarith [Int.ceil_lt_add_one ((n : Rat) / d)]
  have gap : ((⌈(n : Rat) / d⌉ - 1 : Int) : Rat) + 1 / d ≤ n / d := by
    rw [lt_div_iff₀ denominator] at left
    have whole : (⌈(n : Rat) / d⌉ - 1) * d + 1 ≤ (n : Int) := by exact_mod_cast left
    have cast : ((⌈(n : Rat) / d⌉ - 1 : Int) : Rat) * d + 1 ≤ n := by exact_mod_cast whole
    rw [← le_sub_iff_add_le, ← sub_div, le_div_iff₀ denominator]
    linarith
  have close := half_spacing_div_lt small positive least bounded
  have far : ((⌈(n : Rat) / d⌉ - 1 : Int) : Rat) + spacing ((n : Rat) / d) / 2 < n / d := by
    linarith
  have passed := int_lt_nearest above below far
  rwa [Int.cast_sub, Int.cast_one] at passed

/-- Rounding down does not see it either. -/
theorem floor_nearest_div (bounded : d ≤ 2 ^ 64) :
    ⌊nearest ((n : Rat) / d)⌋ = ⌊(n : Rat) / d⌋ := by
  rcases Nat.eq_zero_or_pos n with rfl | least
  · rw [Nat.cast_zero, zero_div, nearest_zero]
  have denominator : (0 : Rat) < d := by exact_mod_cast positive
  have above : (0 : Rat) < n / d := by positivity
  have below := quotient_lt small positive
  refine Int.floor_eq_iff.mpr ⟨int_le_nearest above below (Int.floor_le _), ?_⟩
  -- The integer above the quotient is not reached.
  have right := Int.lt_floor_add_one ((n : Rat) / d)
  have gap : (n : Rat) / d + 1 / d ≤ ⌊(n : Rat) / d⌋ + 1 := by
    rw [div_lt_iff₀ denominator] at right
    have whole : (n : Int) + 1 ≤ (⌊(n : Rat) / d⌋ + 1) * d := by exact_mod_cast right
    rw [← add_div, div_le_iff₀ denominator]
    exact_mod_cast whole
  have close := half_spacing_div_lt small positive least bounded
  linarith [nearest_le_add ((n : Rat) / d)]

end Quotient

/-! ### The end of the range -/

/-- The least number that is rounded out of range: the middle between the greatest finite point of
the grid and the power of two behind it. -/
def overflow : Rat := (2 ^ 53 - 1 / 2) * 2 ^ (971 : Int)

theorem two_zpow_add (m : Nat) (n : Int) : (2 : Rat) ^ ((m : Int) + n) = 2 ^ m * 2 ^ n := by
  rw [zpow_add₀ (by norm_num), zpow_natCast]

theorem outOfRange_eq : outOfRange = 2 ^ 53 * 2 ^ (971 : Int) :=
  two_zpow_add 53 971

theorem overflow_lt : overflow < outOfRange := by
  rw [outOfRange_eq, overflow]
  exact mul_lt_mul_of_pos_right (by norm_num) (by positivity)

theorem lt_overflow : (2 : Rat) ^ (1023 : Int) < overflow := by
  have binade : (2 : Rat) ^ (1023 : Int) = 2 ^ 52 * 2 ^ (971 : Int) := two_zpow_add 52 971
  rw [binade, overflow]
  exact mul_lt_mul_of_pos_right (by norm_num) (by positivity)

/-- From the middle on, a number is rounded out of range. -/
theorem outOfRange_le_nearest (beyond : overflow ≤ q) : outOfRange ≤ nearest q := by
  have positive : 0 < q := (lt_trans (by positivity) lt_overflow).trans_le beyond
  have exponent : 1023 ≤ binaryExponent q :=
    le_binaryExponent positive (lt_overflow.le.trans beyond)
  rcases exponent.eq_or_lt with top | high
  · -- In the last binade the end of the range is an even number of steps away.
    have apart : spacing q = 2 ^ (971 : Int) := by
      rw [spacing, ← top]
      rfl
    have ahead : outOfRange = ((2 ^ 53 : Int) : Rat) * spacing q := by
      rw [outOfRange_eq, apart]
      norm_num
    rw [ahead, nearest, mul_le_mul_iff_left₀ (spacing_pos q), Int.cast_le,
      le_roundEven_iff_of_even (by norm_num), le_div_iff₀ (spacing_pos q), apart]
    rw [overflow] at beyond
    norm_num at beyond ⊢
    exact beyond
  · have above : outOfRange ≤ 2 ^ binaryExponent q :=
      zpow_le_zpow_right₀ (by norm_num) (by omega)
    have leading : (2 : Rat) ^ binaryExponent q = ((2 ^ 52 : Int) : Rat) * spacing q := by
      have coarse : max (binaryExponent q - 52) (-1074) = binaryExponent q - 52 := by omega
      have split := two_zpow_add 52 (binaryExponent q - 52)
      rw [spacing, coarse, Int.cast_pow, Int.cast_ofNat, ← split]
      congr 1
      omega
    have reached := two_zpow_binaryExponent_le positive
    rw [leading] at above reached
    exact above.trans (le_nearest_of_le reached)

/-- Below the middle, a number stays below it. -/
theorem nearest_lt_overflow (nonneg : 0 ≤ q) (below : q < overflow) : nearest q < overflow := by
  rcases lt_or_ge q (2 ^ (1023 : Int)) with low | high
  · -- Far below the end of the range the error of rounding is too small.
    have error := nearest_le_add q
    have apart := spacing_le nonneg
    have last : (2 : Rat) ^ (1023 : Int) = 2 ^ 52 * 2 ^ (971 : Int) := two_zpow_add 52 971
    have large : (1 : Rat) ≤ 2 ^ (971 : Int) := one_le_zpow₀ (by norm_num) (by norm_num)
    rw [last] at low
    rw [overflow]
    generalize (2 : Rat) ^ (971 : Int) = unit at low large ⊢
    linarith
  · have positive : 0 < q := lt_of_lt_of_le (by positivity) high
    have inside : q < (2 : Rat) ^ (1024 : Int) := below.trans overflow_lt
    have exponent : binaryExponent q = 1023 := by
      have lower := le_binaryExponent positive high
      have upper := binaryExponent_lt positive inside
      omega
    have apart : spacing q = 2 ^ (971 : Int) := by
      rw [spacing, exponent]
      rfl
    -- The even point at the end of the range is not reached, so an odd one is the last.
    have steps : ¬(2 ^ 53 : Int) ≤ roundEven (q / spacing q) := by
      rw [le_roundEven_iff_of_even (by norm_num), not_le, div_lt_iff₀ (spacing_pos q), apart]
      rw [overflow] at below
      norm_num at below ⊢
      exact below
    have whole : (roundEven (q / spacing q) : Rat) ≤ 2 ^ 53 - 1 := by
      exact_mod_cast Int.le_sub_one_of_lt (not_le.mp steps)
    calc nearest q ≤ (2 ^ 53 - 1) * spacing q :=
          mul_le_mul_of_nonneg_right whole (spacing_pos q).le
      _ < overflow := by
          rw [apart, overflow]
          exact mul_lt_mul_of_pos_right (by norm_num) (by positivity)

theorem Magnitude.ofRat_of_overflow (beyond : overflow ≤ q) : Magnitude.ofRat q = .infinite :=
  if_pos (outOfRange_le_nearest beyond)

theorem Magnitude.ofRat_of_lt (nonneg : 0 ≤ q) (below : q < overflow) :
    Magnitude.ofRat q = .finite (nearest q) :=
  if_neg (not_le.mpr ((nearest_lt_overflow nonneg below).trans overflow_lt))

theorem two_pow_lt_overflow : (2 : Rat) ^ 53 < overflow := by
  have early : (2 : Rat) ^ 53 ≤ 2 ^ (1023 : Int) := by
    rw [← zpow_natCast]
    exact zpow_le_zpow_right₀ (by norm_num) (by norm_num)
  exact early.trans_lt lt_overflow

/-- Integers up to the first that is no binary64 number are kept. -/
theorem Magnitude.ofRat_natCast {n : Nat} (small : n ≤ 2 ^ 53) :
    Magnitude.ofRat n = .finite n := by
  have limit : (n : Rat) ≤ 2 ^ 53 := by exact_mod_cast small
  rw [ofRat_of_lt (by positivity) (limit.trans_lt two_pow_lt_overflow), nearest_natCast small]

end ClusterCensus.Binary64
