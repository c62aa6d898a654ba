import ClusterCensus.Proofs.Binary64.Grid
import Mathlib.Order.Monotone.Odd

/-!
# Rounding keeps sign and order

The grid is the same on both sides of zero, and a half goes to the even neighbour on both sides. So
the opposite of a number is rounded to the opposite. The fraction is dropped towards zero on both
sides too.

Rounding is monotone. Two numbers of one spacing are compared by their steps on the grid. When the
spacings differ, a power of two lies between the numbers that is a point of both grids, and neither
number is rounded past it.

## Main results

`nearest_neg` and `truncate_neg`; `nearest_mono` and `truncate_mono`; `truncate_div` for the
fraction of a quotient.
-/
namespace ClusterCensus.Binary64

variable {p q : Rat}

/-! ### Sign -/

theorem binaryExponent_neg (q : Rat) : binaryExponent (-q) = binaryExponent q := by
  have size : (-q).abs = q.abs := Rat.abs_neg
  simp only [binaryExponent, size, Rat.neg_num, Int.natAbs_neg, Rat.neg_den]

theorem spacing_neg (q : Rat) : spacing (-q) = spacing q := by
  rw [spacing, binaryExponent_neg, spacing]

/-- Ties go to the even neighbour on both sides of zero. -/
theorem roundEven_neg (q : Rat) : roundEven (-q) = -roundEven q := by
  rcases eq_or_ne (⌊q⌋ : Rat) q with whole | broken
  · -- An integer is kept, and so is its negation.
    rw [← whole, ← Int.cast_neg, roundEven_intCast, roundEven_intCast]
  · -- The neighbours change places, and with them their parity.
    have lower := (Int.floor_le q).lt_of_ne broken
    have upper := Int.lt_floor_add_one q
    have turned : ⌊-q⌋ = -⌊q⌋ - 1 := by
      rw [Int.floor_eq_iff]
      push_cast
      constructor <;> linarith
    unfold roundEven
    simp only [show q.floor = ⌊q⌋ from rfl, show (-q).floor = ⌊-q⌋ from rfl, turned]
    push_cast
    split_ifs <;> first | omega | linarith

theorem nearest_neg (q : Rat) : nearest (-q) = -nearest q := by
  rw [nearest, spacing_neg, neg_div, roundEven_neg, Int.cast_neg, neg_mul, nearest]

theorem truncate_of_nonneg (nonneg : 0 ≤ q) : truncate q = ⌊q⌋ :=
  if_pos nonneg

theorem truncate_neg (q : Rat) : truncate (-q) = -truncate q := by
  unfold truncate
  rcases lt_trichotomy q 0 with negative | rfl | positive
  · rw [if_pos (by linarith), if_neg (by linarith), Rat.ceil_eq_neg_floor_neg q, neg_neg]
  · rfl
  · rw [if_neg (by linarith), if_pos positive.le, Rat.ceil_eq_neg_floor_neg, neg_neg]

/-! ### Order -/

theorem roundEven_mono (below : p ≤ q) : roundEven p ≤ roundEven q := by
  rcases below.eq_or_lt with rfl | less
  · exact le_rfl
  · have left := (abs_le.mp (roundEven_error p)).2
    have right := (abs_le.mp (roundEven_error q)).1
    have close : (roundEven p : Rat) < roundEven q + 1 := by linarith
    have whole : roundEven p < roundEven q + 1 := by exact_mod_cast close
    omega

theorem binaryExponent_mono (positive : 0 < p) (below : p ≤ q) :
    binaryExponent p ≤ binaryExponent q :=
  le_binaryExponent (positive.trans_le below) ((two_zpow_binaryExponent_le positive).trans below)

/-- A power of two is a point of a grid unless the grid is too coarse for it. -/
theorem exists_steps_zpow {n : Int} (fine : max (binaryExponent q - 52) (-1074) ≤ n) :
    ∃ steps : Int, (2 : Rat) ^ n = steps * spacing q := by
  obtain ⟨shift, shifted⟩ : ∃ shift : Nat, n = shift + max (binaryExponent q - 52) (-1074) :=
    ⟨(n - max (binaryExponent q - 52) (-1074)).toNat, by omega⟩
  refine ⟨2 ^ shift, ?_⟩
  rw [spacing, shifted, two_zpow_add]
  push_cast
  rfl

theorem nearest_mono_of_pos (positive : 0 < p) (below : p ≤ q) : nearest p ≤ nearest q := by
  have exponents := binaryExponent_mono positive below
  rcases (max_le_max (sub_le_sub_right exponents 52) (le_refl (-1074))).eq_or_lt with same | finer
  · -- On one grid the steps are compared.
    have apart : spacing p = spacing q := by
      rw [spacing, same, spacing]
    have steps : roundEven (p / spacing q) ≤ roundEven (q / spacing q) :=
      roundEven_mono (div_le_div_of_nonneg_right below (spacing_pos q).le)
    rw [nearest, nearest, apart]
    exact mul_le_mul_of_nonneg_right (by exact_mod_cast steps) (spacing_pos q).le
  · -- The leading power of two of the greater number lies between.
    have between : p ≤ (2 : Rat) ^ binaryExponent q :=
      (lt_two_zpow_binaryExponent positive).le.trans
        (zpow_le_zpow_right₀ (by norm_num) (by omega))
    have reached := two_zpow_binaryExponent_le (positive.trans_le below)
    obtain ⟨left, pointLeft⟩ := exists_steps_zpow (q := p) (n := binaryExponent q) (by omega)
    obtain ⟨right, pointRight⟩ := exists_steps_zpow (q := q) (n := binaryExponent q) (by omega)
    calc nearest p ≤ (2 : Rat) ^ binaryExponent q := by
          rw [pointLeft] at between ⊢
          exact nearest_le_of_le between
      _ ≤ nearest q := by
          rw [pointRight] at reached ⊢
          exact le_nearest_of_le reached

/-- Rounding keeps the order. -/
theorem nearest_mono (below : p ≤ q) : nearest p ≤ nearest q := by
  -- What is odd and monotone on one side of zero is monotone on both.
  refine monotone_of_odd_of_monotoneOn_nonneg nearest_neg (fun p nonneg q _ below => ?_) below
  rcases (Set.mem_Ici.mp nonneg).eq_or_lt with rfl | positive
  · rw [nearest_zero]
    exact nearest_nonneg below
  · exact nearest_mono_of_pos positive below

/-- Dropping the fraction keeps the order, across zero as well. -/
theorem truncate_mono (below : p ≤ q) : truncate p ≤ truncate q := by
  refine monotone_of_odd_of_monotoneOn_nonneg truncate_neg (fun p nonneg q nonneg' below => ?_)
    below
  rw [truncate_of_nonneg nonneg, truncate_of_nonneg nonneg']
  exact Int.floor_le_floor below

/-! ### Quotients of integers -/

theorem truncate_natCast (n : Nat) : truncate n = n := by
  rw [truncate_of_nonneg n.cast_nonneg, Int.floor_natCast]

/-- A quotient without its fraction is that of division with a remainder. -/
theorem truncate_div (n : Int) (d : Nat) : truncate ((n : Rat) / d) = n.tdiv d := by
  have nonneg (k : Nat) : truncate (((k : Int) : Rat) / d) = (k : Int).tdiv d := by
    rw [truncate_of_nonneg (by positivity), Rat.floor_intCast_div_natCast,
      Int.tdiv_eq_ediv_of_nonneg k.cast_nonneg]
  obtain ⟨k, rfl | rfl⟩ := n.eq_nat_or_neg
  · exact nonneg k
  · rw [Int.cast_neg, neg_div, truncate_neg, nonneg, Int.neg_tdiv]

end ClusterCensus.Binary64
