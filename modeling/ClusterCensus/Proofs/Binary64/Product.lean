import ClusterCensus.Proofs.Binary64.Grid

/-!
# Scaling a number that has been rounded

A number is taken to the grid, multiplied by a factor, and taken to the grid again. Each rounding
moves it by a part in `2 ^ 53` at most. When the product is rounded up to an integer, this shows
only if the exact product is an integer, or is so close to one that it has a large numerator; and
when the factor is a power of two, integers are never passed.

## Main results

`ceil_product_of_fraction`, `ceil_product_of_whole` and `ceil_product_of_dyadic`: what the product
of a rounded number is when it is rounded up. `ceil_product_of_tiny` and
`ceil_product_of_invisible`: the same for the smallest numbers. `ceil_product_near`: how far it is
from the exact product, whatever the number.
-/
namespace ClusterCensus.Binary64

variable {q w : Rat} {k : Int} {j : Nat}

/-! ### The error of one rounding -/

theorem sub_le_nearest (q : Rat) : q - spacing q / 2 ≤ nearest q := by
  have near := (abs_le.mp (roundEven_error (q / spacing q))).1
  calc q - spacing q / 2 = (q / spacing q - 1 / 2) * spacing q := by
        rw [sub_mul, div_mul_cancel₀ q (spacing_pos q).ne']
        ring
    _ ≤ roundEven (q / spacing q) * spacing q :=
        mul_le_mul_of_nonneg_right (by linarith) (spacing_pos q).le
    _ = nearest q := rfl

theorem half_spacing_le (normal : (2 : Rat) ^ (-1022 : Int) ≤ q) : spacing q / 2 ≤ q / 2 ^ 53 := by
  have apart := spacing_le_mul normal
  rw [show (2 : Rat) ^ (-52 : Int) = 2 / 2 ^ 53 by norm_num] at apart
  linarith

/-- Away from the least numbers rounding moves a number by a small part of it. -/
theorem nearest_near (normal : (2 : Rat) ^ (-1022 : Int) ≤ q) : |nearest q - q| ≤ q / 2 ^ 53 := by
  have apart := half_spacing_le normal
  rw [abs_le]
  constructor
  · linarith [sub_le_nearest q]
  · linarith [nearest_le_add q]

/-- Only what is at most half the least grid point is rounded to zero. -/
theorem least_le_nearest (visible : (2 : Rat) ^ (-1075 : Int) < q) :
    (2 : Rat) ^ (-1074 : Int) ≤ nearest q := by
  have positive : 0 < q := lt_trans (by positivity) visible
  have apart : spacing q / 2 < q := by
    rcases le_or_gt ((2 : Rat) ^ (-1022 : Int)) q with normal | tiny
    · have part : q / 2 ^ 53 < q := div_lt_self positive (by norm_num)
      exact (half_spacing_le normal).trans_lt part
    · -- Near zero the grid has the spacing of its least point.
      have exponent := binaryExponent_lt positive tiny
      have last : max (binaryExponent q - 52) (-1074) = -1074 := by omega
      rw [spacing, last]
      calc (2 : Rat) ^ (-1074 : Int) / 2 = 2 ^ (-1075 : Int) := by
            rw [show (-1074 : Int) = -1075 + 1 from rfl, zpow_add_one₀ (by norm_num)]
            ring
        _ < q := visible
  -- More than half a step from zero, it goes at least one step.
  have steps : 0 < roundEven (q / spacing q) := by
    refine lt_roundEven ?_
    rw [lt_div_iff₀ (spacing_pos q)]
    norm_num
    linarith
  have one : (1 : Rat) ≤ roundEven (q / spacing q) := by exact_mod_cast steps
  calc (2 : Rat) ^ (-1074 : Int) ≤ spacing q :=
        zpow_le_zpow_right₀ (by norm_num) (le_max_right _ _)
    _ ≤ nearest q := le_mul_of_one_le_left (spacing_pos q).le one

theorem roundEven_of_half (nonneg : 0 ≤ q) (half : q ≤ 1 / 2) : roundEven q = 0 := by
  have below : q.floor = 0 := Int.floor_eq_zero_iff.mpr ⟨nonneg, by linarith⟩
  unfold roundEven
  simp only [below, Int.cast_zero, sub_zero]
  split_ifs
  · rfl
  · linarith
  · rfl
  · omega

/-- Half the least grid point is nearer to no other point than to zero, which is even. -/
theorem nearest_of_invisible (nonneg : 0 ≤ q) (invisible : q ≤ 2 ^ (-1075 : Int)) :
    nearest q = 0 := by
  rcases nonneg.eq_or_lt with rfl | positive
  · exact nearest_zero
  have next : (2 : Rat) ^ (-1074 : Int) = 2 ^ (-1075 : Int) * 2 :=
    zpow_add_one₀ (by norm_num) (-1075)
  have apart : spacing q = 2 ^ (-1074 : Int) := by
    have below : q < (2 : Rat) ^ (-1074 : Int) :=
      invisible.trans_lt (zpow_lt_zpow_right₀ (by norm_num) (by norm_num))
    have exponent := binaryExponent_lt positive below
    rw [spacing, show max (binaryExponent q - 52) (-1074) = -1074 by omega]
  -- At most half a step goes to zero, which is even.
  have none : roundEven (q / spacing q) = 0 := by
    refine roundEven_of_half (div_nonneg nonneg (spacing_pos q).le) ?_
    rw [div_le_iff₀ (spacing_pos q), apart, next]
    linarith
  rw [nearest, none, Int.cast_zero, zero_mul]

/-! ### Dyadic points of the grid -/

/-- The points that are integers when they are scaled by a power of two are on the grid around a
number that is below `2 ^ 53` when it is scaled so. -/
theorem exists_steps_dyadic (small : binaryExponent q ≤ 52 - j) (deep : j ≤ 1074) (k : Int) :
    ∃ steps : Int, (k : Rat) / 2 ^ j = steps * spacing q := by
  obtain ⟨shift, shifted⟩ :
      ∃ shift : Nat, max (binaryExponent q - 52) (-1074) = -((j + shift : Nat) : Int) :=
    ⟨(-max (binaryExponent q - 52) (-1074) - j).toNat, by omega⟩
  refine ⟨k * 2 ^ shift, ?_⟩
  rw [spacing, shifted, zpow_neg, zpow_natCast, pow_add]
  push_cast
  field_simp

section Dyadic

variable (positive : 0 < q) (small : q * 2 ^ j < 2 ^ 53) (deep : j ≤ 1074)

include positive small

theorem binaryExponent_le_of_dyadic : binaryExponent q ≤ 52 - j := by
  have below : q < (2 : Rat) ^ (53 - (j : Int)) := by
    rw [zpow_sub₀ (by norm_num), zpow_natCast, lt_div_iff₀ (by positivity)]
    exact small
  have exponent := binaryExponent_lt positive below
  omega

include deep

theorem nearest_mul_le_int (below : q * 2 ^ j ≤ k) : nearest q * 2 ^ j ≤ k := by
  obtain ⟨steps, reached⟩ := exists_steps_dyadic (binaryExponent_le_of_dyadic positive small) deep k
  rw [← le_div_iff₀ (by positivity)] at below ⊢
  rw [reached] at below ⊢
  exact nearest_le_of_le below

theorem int_le_nearest_mul (above : (k : Rat) ≤ q * 2 ^ j) : (k : Rat) ≤ nearest q * 2 ^ j := by
  obtain ⟨steps, reached⟩ := exists_steps_dyadic (binaryExponent_le_of_dyadic positive small) deep k
  rw [← div_le_iff₀ (by positivity)] at above ⊢
  rw [reached] at above ⊢
  exact le_nearest_of_le above

end Dyadic

/-! ### The error of a product -/

/-- The product of a rounded number, rounded once more. -/
def roundedProduct (q w : Rat) : Rat :=
  nearest (nearest q * w)

section Product

variable (normal : (2 : Rat) ^ (-40 : Int) ≤ q) (least : 1 ≤ w)

include normal least

/-- The error of the first rounding grows with the factor. -/
theorem nearest_mul_near : |nearest q * w - q * w| ≤ q * w / 2 ^ 53 := by
  have deep : (2 : Rat) ^ (-1022 : Int) ≤ 2 ^ (-40 : Int) :=
    zpow_le_zpow_right₀ (by norm_num) (by norm_num)
  have error := nearest_near (deep.trans normal)
  have nonneg : 0 ≤ w := by linarith
  calc |nearest q * w - q * w| = |nearest q - q| * w := by
        rw [← sub_mul, abs_mul, abs_of_nonneg nonneg]
    _ ≤ q / 2 ^ 53 * w := mul_le_mul_of_nonneg_right error nonneg
    _ = q * w / 2 ^ 53 := by ring

theorem product_pos : 0 < q * w := by
  have positive : 0 < q := lt_of_lt_of_le (by positivity) normal
  exact mul_pos positive (by linarith)

/-- The product stays away from the least numbers. -/
theorem normal_product : (2 : Rat) ^ (-1022 : Int) ≤ nearest q * w := by
  have error := (abs_le.mp (nearest_mul_near normal least)).1
  have positive := product_pos normal least
  have product : (2 : Rat) ^ (-40 : Int) ≤ q * w :=
    normal.trans (le_mul_of_one_le_right (le_trans (by positivity) normal) least)
  calc (2 : Rat) ^ (-1022 : Int) ≤ 2 ^ (-41 : Int) :=
        zpow_le_zpow_right₀ (by norm_num) (by norm_num)
    _ = 2 ^ (-40 : Int) / 2 := by norm_num
    _ ≤ q * w / 2 := div_le_div_of_nonneg_right product (by norm_num)
    _ ≤ nearest q * w := by linarith

/-- Both roundings together move the product by little more than a part in `2 ^ 52`. -/
theorem roundedProduct_near :
    |roundedProduct q w - q * w| ≤ q * w * (1 / 2 ^ 52 + 1 / 2 ^ 106) := by
  have first := abs_le.mp (nearest_mul_near normal least)
  have second := abs_le.mp (nearest_near (normal_product normal least))
  rw [roundedProduct, abs_le]
  constructor <;> linarith

section Small

variable (small : q * w < 2 ^ 52)

include small

theorem nearest_mul_inRange : 0 < nearest q * w ∧ nearest q * w < 2 ^ 53 := by
  have error := abs_le.mp (nearest_mul_near normal least)
  have positive := product_pos normal least
  constructor <;> linarith

/-- An integer that is not passed by the rounded number is not passed by the product either. -/
theorem roundedProduct_le (close : nearest q * w ≤ k) : roundedProduct q w ≤ k := by
  obtain ⟨positive, inRange⟩ := nearest_mul_inRange normal least small
  exact nearest_le_int positive inRange close

/-- An integer that is far enough below stays below. -/
theorem lt_roundedProduct (far : k + q * w * (1 / 2 ^ 52 + 1 / 2 ^ 106) < q * w) :
    k < roundedProduct q w := by
  obtain ⟨positive, inRange⟩ := nearest_mul_inRange normal least small
  have first := abs_le.mp (nearest_mul_near normal least)
  have apart := half_spacing_le (normal_product normal least)
  exact int_lt_nearest positive inRange (by linarith)

end Small
end Product

/-! ### Rounding up a product -/

/-- A quotient of natural numbers that is not whole is at least one part of its denominator away
from the integers around it. -/
theorem gaps_of_fraction {a b : Nat} {x : Rat} (positive : 0 < b) (ratio : x = a / b)
    (fraction : ∀ k : Int, x ≠ k) :
    ((⌈x⌉ - 1 : Int) : Rat) + 1 / b ≤ x ∧ x + 1 / b ≤ ⌈x⌉ := by
  have denominator : (0 : Rat) < b := by exact_mod_cast positive
  have product : x * b = a := by rw [ratio, div_mul_cancel₀ _ denominator.ne']
  have below : ((⌈x⌉ - 1 : Int) : Rat) < x := by
    push_cast
    linarith [Int.ceil_lt_add_one x]
  have above : x < ⌈x⌉ := lt_of_le_of_ne (Int.le_ceil x) (fraction _)
  -- Multiplied by the denominator, all are integers.
  have lower : (⌈x⌉ - 1) * (b : Int) + 1 ≤ a := by
    have strict : ((⌈x⌉ - 1 : Int) : Rat) * b < a :=
      product ▸ mul_lt_mul_of_pos_right below denominator
    exact_mod_cast strict
  have upper : (a : Int) + 1 ≤ ⌈x⌉ * b := by
    have strict : (a : Rat) < ⌈x⌉ * b := product ▸ mul_lt_mul_of_pos_right above denominator
    exact_mod_cast strict
  have unit : 1 / (b : Rat) * b = 1 := one_div_mul_cancel denominator.ne'
  constructor
  · refine le_of_mul_le_mul_right ?_ denominator
    rw [add_mul, unit, product]
    exact_mod_cast lower
  · refine le_of_mul_le_mul_right ?_ denominator
    rw [add_mul, unit, product]
    exact_mod_cast upper

/-! ## Main results -/

section Product

variable (normal : (2 : Rat) ^ (-40 : Int) ≤ q) (least : 1 ≤ w) (small : q * w < 2 ^ 52)

include normal least small

/-- A product that is not whole and has a small numerator is rounded up as if it were exact. -/
theorem ceil_product_of_fraction {a b : Nat} (ratio : q * w = a / b) (few : a < 2 ^ 51)
    (fraction : ∀ k : Int, q * w ≠ k) : ⌈roundedProduct q w⌉ = ⌈q * w⌉ := by
  have positive : 0 < b := by
    refine Nat.pos_of_ne_zero fun none => fraction 0 ?_
    rw [ratio, none, Nat.cast_zero, div_zero, Int.cast_zero]
  obtain ⟨lower, upper⟩ := gaps_of_fraction positive ratio fraction
  -- The error is less than one part of the denominator.
  have error : q * w * (1 / 2 ^ 52 + 1 / 2 ^ 106) < 1 / b := by
    have denominator : (0 : Rat) < b := by exact_mod_cast positive
    have numerator : (a : Rat) < 2 ^ 51 := by exact_mod_cast few
    rw [ratio, div_mul_eq_mul_div]
    refine div_lt_div_of_pos_right ?_ denominator
    linarith
  have product := product_pos normal least
  refine Int.ceil_eq_iff.mpr ⟨?_, ?_⟩
  · have passed := lt_roundedProduct (k := ⌈q * w⌉ - 1) normal least small (by linarith)
    rwa [Int.cast_sub, Int.cast_one] at passed
  · have near := abs_le.mp (nearest_mul_near normal least)
    exact roundedProduct_le normal least small (by linarith)

/-- A product that is whole stays as it is, or becomes one more; this happens only if the number has
been rounded up. -/
theorem ceil_product_of_whole (whole : q * w = k) :
    ⌈roundedProduct q w⌉ = k ∨ (q < nearest q ∧ ⌈roundedProduct q w⌉ = k + 1) := by
  have bounded : k ≤ 2 ^ 52 - 1 := by
    have below : (k : Rat) < 2 ^ 52 := whole ▸ small
    have strict : k < 2 ^ 52 := by exact_mod_cast below
    omega
  have cast : (k : Rat) ≤ 2 ^ 52 - 1 := by exact_mod_cast bounded
  -- Two roundings together move a whole product by less than one.
  have reached : ((k - 1 : Int) : Rat) < roundedProduct q w := by
    refine lt_roundedProduct normal least small ?_
    rw [whole]
    push_cast
    linarith
  have near := abs_le.mp (nearest_mul_near normal least)
  have passed : roundedProduct q w ≤ ((k + 1 : Int) : Rat) := by
    refine roundedProduct_le normal least small ?_
    push_cast
    linarith
  have lower : k - 1 < ⌈roundedProduct q w⌉ := Int.lt_ceil.mpr reached
  have upper : ⌈roundedProduct q w⌉ ≤ k + 1 := Int.ceil_le.mpr passed
  rcases lt_or_ge q (nearest q) with up | down
  · rcases eq_or_ne ⌈roundedProduct q w⌉ k with same | other
    · exact .inl same
    · exact .inr ⟨up, by omega⟩
  · -- A number that has not been rounded up does not pass the whole product.
    have held : nearest q * w ≤ k := whole ▸ mul_le_mul_of_nonneg_right down (by linarith)
    have stays : ⌈roundedProduct q w⌉ ≤ k :=
      Int.ceil_le.mpr (roundedProduct_le normal least small held)
    exact .inl (by omega)

end Product

/-- When the factor is a power of two, the product stays between the integers around it. -/
theorem ceil_product_of_dyadic (normal : (2 : Rat) ^ (-40 : Int) ≤ q) (deep : j ≤ 1074)
    (small : q * 2 ^ j < 2 ^ 52) :
    ⌊q * 2 ^ j⌋ ≤ ⌈roundedProduct q (2 ^ j)⌉ ∧ ⌈roundedProduct q (2 ^ j)⌉ ≤ ⌈q * 2 ^ j⌉ := by
  have least : (1 : Rat) ≤ 2 ^ j := one_le_pow₀ (by norm_num)
  have positive : 0 < q := lt_of_lt_of_le (by positivity) normal
  have range : q * 2 ^ j < 2 ^ 53 := small.trans (by norm_num)
  obtain ⟨above, below⟩ := nearest_mul_inRange normal least small
  -- Both roundings keep between the same two integers, as the factor is a power of two.
  constructor
  · have held := int_le_nearest_mul positive range deep (Int.floor_le (q * 2 ^ j))
    have kept : (⌊q * 2 ^ j⌋ : Rat) ≤ roundedProduct q (2 ^ j) := int_le_nearest above below held
    exact_mod_cast kept.trans (Int.le_ceil _)
  · have held := nearest_mul_le_int positive range deep (Int.le_ceil (q * 2 ^ j))
    exact Int.ceil_le.mpr (nearest_le_int above below held)

/-- A visible number so small that no factor makes it more than one is rounded up to one. -/
theorem ceil_product_of_tiny (visible : (2 : Rat) ^ (-1075 : Int) < q) (tiny : q ≤ 2 ^ (-40 : Int))
    (least : 1 ≤ w) (most : w ≤ 2 ^ 40) : ⌈roundedProduct q w⌉ = 1 ∧ ⌈q * w⌉ = 1 := by
  have positive : 0 < q := lt_trans (by positivity) visible
  have scaled : q * 2 ^ 40 ≤ 1 := by
    calc q * 2 ^ 40 ≤ 2 ^ (-40 : Int) * 2 ^ 40 := mul_le_mul_of_nonneg_right tiny (by norm_num)
      _ = 1 := by norm_num
  have rounded : nearest q * 2 ^ 40 ≤ 1 := by
    have kept := nearest_mul_le_int (k := 1) positive (scaled.trans_lt (by norm_num))
      (by norm_num) (by simpa using scaled)
    simpa using kept
  -- The factor takes neither the number nor its grid point beyond one.
  have exact : q * w ≤ 1 := (mul_le_mul_of_nonneg_left most positive.le).trans scaled
  have close : nearest q * w ≤ 1 :=
    (mul_le_mul_of_nonneg_left most (nearest_nonneg positive.le)).trans rounded
  have seen : (2 : Rat) ^ (-1075 : Int) < nearest q * w := by
    calc (2 : Rat) ^ (-1075 : Int) < 2 ^ (-1074 : Int) :=
          zpow_lt_zpow_right₀ (by norm_num) (by norm_num)
      _ ≤ nearest q := least_le_nearest visible
      _ ≤ nearest q * w := le_mul_of_one_le_right (nearest_nonneg positive.le) least
  have above : 0 < nearest q * w := lt_trans (by positivity) seen
  constructor
  · refine Int.ceil_eq_iff.mpr ⟨?_, ?_⟩
    · have reached : 0 < roundedProduct q w :=
        lt_of_lt_of_le (by positivity) (least_le_nearest seen)
      simpa using reached
    · exact nearest_le_int above (close.trans_lt (by norm_num)) (by simpa using close)
  · refine Int.ceil_eq_iff.mpr ⟨?_, by simpa using exact⟩
    have product : 0 < q * w := mul_pos positive (by linarith)
    simpa using product

/-- What is rounded to zero stays zero. -/
theorem ceil_product_of_invisible (nonneg : 0 ≤ q) (invisible : q ≤ 2 ^ (-1075 : Int)) (w : Rat) :
    ⌈roundedProduct q w⌉ = 0 := by
  rw [roundedProduct, nearest_of_invisible nonneg invisible, zero_mul, nearest_zero, Int.ceil_zero]

/-- However large or small the number is, the relative error is small. -/
theorem ceil_product_near (nonneg : 0 ≤ q) (least : 1 ≤ w) (most : w ≤ 2 ^ 40) :
    |(⌈roundedProduct q w⌉ : Rat) - q * w| < 1 + q * w / 2 ^ 51 := by
  have product : 0 ≤ q * w := mul_nonneg nonneg (by linarith)
  rw [abs_lt]
  rcases le_or_gt q (2 ^ (-40 : Int)) with tiny | normal
  · rcases le_or_gt q (2 ^ (-1075 : Int)) with invisible | visible
    · -- The number is rounded to zero, and its product is not far from zero either.
      have little : q * w < 1 := by
        calc q * w ≤ 2 ^ (-1075 : Int) * 2 ^ 40 :=
              mul_le_mul invisible most (by linarith) (by positivity)
          _ = 2 ^ (-1035 : Int) := by
              rw [← zpow_natCast, ← zpow_add₀ (by norm_num)]
              norm_num
          _ < 1 := zpow_lt_one_of_neg₀ (by norm_num) (by norm_num)
      rw [ceil_product_of_invisible nonneg invisible, Int.cast_zero]
      constructor <;> linarith
    · -- A small product is rounded up to one, as it is without rounding.
      obtain ⟨reached, exact⟩ := ceil_product_of_tiny visible tiny least most
      have above := Int.ceil_lt_add_one (q * w)
      have below := Int.le_ceil (q * w)
      rw [exact, Int.cast_one] at above below
      rw [reached, Int.cast_one]
      constructor <;> linarith
  · -- From here on the error of the two roundings is a part of the product.
    have near := abs_le.mp (roundedProduct_near normal.le least)
    have above := Int.ceil_lt_add_one (roundedProduct q w)
    have below := Int.le_ceil (roundedProduct q w)
    constructor <;> linarith

/-- The product is in range unless it is close to the end of the range. -/
theorem roundedProduct_inRange (nonneg : 0 ≤ q) (least : 1 ≤ w) (most : w ≤ 2 ^ 40)
    (small : q * w < 2 ^ (1023 : Int)) :
    (Magnitude.ofRat q).scale w = .finite (roundedProduct q w) := by
  have positive : 0 ≤ w := by linarith
  have single : q < overflow :=
    (le_mul_of_one_le_right nonneg least).trans_lt (small.trans lt_overflow)
  have double : nearest q * w < overflow := by
    rcases le_or_gt q (2 ^ (-40 : Int)) with tiny | normal
    · -- The number is below one, and the rounded one not far from it.
      have one : q ≤ 1 := tiny.trans (zpow_le_one_of_nonpos₀ (by norm_num) (by norm_num))
      have rounded := nearest_le nonneg
      calc nearest q * w ≤ 3 * 2 ^ 40 := mul_le_mul (by linarith) most positive (by norm_num)
        _ < 2 ^ 53 := by norm_num
        _ < overflow := two_pow_lt_overflow
    · -- Rounding the number does not carry its product over the last binade.
      have near := abs_le.mp (nearest_mul_near normal.le least)
      have last : (2 : Rat) ^ (1023 : Int) = 2 ^ 52 * 2 ^ (971 : Int) := two_zpow_add 52 971
      have above : (0 : Rat) < 2 ^ (971 : Int) := by positivity
      rw [last] at small
      rw [overflow]
      generalize (2 : Rat) ^ (971 : Int) = unit at small above ⊢
      linarith
  rw [Magnitude.ofRat_of_lt nonneg single, Magnitude.scale,
    Magnitude.ofRat_of_lt (mul_nonneg (nearest_nonneg nonneg) positive) double, roundedProduct]

end ClusterCensus.Binary64
