import ClusterCensus.Proofs.Binary64.Product
import ClusterCensus.Proofs.Quantity.Bytes

/-!
# Quantities with a point

A quantity with a point is rounded to binary64 before it is scaled, and its product is rounded once
more before it is rounded up to an integer. For numbers of at most 15 significant digits whose
product is below `2 ^ 52` this differs from rounding up the exact product in two ways only. A
decimal unit can make a whole product one too large, when the number has been rounded up. A binary
unit keeps whole products, but a product that exceeds an integer by very little can lose the excess.

## Main result

`fraction_is_scaled_up`: the millicores and the bytes of a number with a point.
-/
namespace ClusterCensus.Quantity

open ClusterCensus.Text ClusterCensus.Numeral ClusterCensus.Binary64

/-- The text writes the number with a point among its ASCII digits. -/
structure IsFraction (whole fraction : List Char) (q : Rat) : Prop where
  ascii : ∀ c ∈ whole ++ fraction, c.isDigit = true
  nonempty : whole ++ fraction ≠ []
  denotes : (Value.plainNumber (whole ++ fraction) : Rat) / 10 ^ fraction.length = q

/-- The number has at most 15 significant digits. -/
def HasFewDigits (q : Rat) : Prop :=
  ∃ significand < 10 ^ 15, ∃ exponent : Int, q = (significand : Nat) * 10 ^ exponent

/-! ### Reading a number with a point -/

/-- What a number with a point is read as. -/
def fractionDecimal (whole fraction : List Char) : Decimal :=
  ⟨whole.map fun c => c.toNat - 48, some (fraction.map fun c => c.toNat - 48)⟩

section Fraction

variable {whole fraction suffix : List Char} {q : Rat} (number : IsFraction whole fraction q)

include number

theorem IsFraction.nonneg : 0 ≤ q := by
  rw [← number.denotes]
  positivity

theorem IsFraction.decimal :
    decimal? (whole ++ '.' :: fraction) = some (fractionDecimal whole fraction) := by
  obtain ⟨inWhole, inFraction⟩ := List.forall_mem_append.mp number.ascii
  have noPoint : ∀ c ∈ whole, (c != '.') = true := by
    intro c member
    have digit := inWhole c member
    by_cases point : c = '.'
    · subst point
      cases digit
    · simpa using point
  have before : (whole ++ '.' :: fraction).takeWhile (· != '.') = whole := by
    rw [List.takeWhile_append_of_pos noPoint]
    simp
  have behind : (whole ++ '.' :: fraction).dropWhile (· != '.') = '.' :: fraction := by
    rw [List.dropWhile_append_of_pos noPoint]
    simp
  unfold decimal?
  rw [before, behind, digitValues?_of_ascii inWhole]
  have some : ¬(fractionDecimal whole fraction).digits.isEmpty = true := by
    simpa [fractionDecimal, Decimal.digits] using number.nonempty
  simp only [digitValues?_of_ascii inFraction]
  exact if_neg some

/-- The characters of the number and those of the unit are told apart. -/
theorem IsFraction.read (letters : ∀ c ∈ suffix, isLetter c = true) :
    read? (whole ++ '.' :: fraction ++ suffix) =
      some ⟨fractionDecimal whole fraction, suffix⟩ := by
  obtain ⟨inWhole, inFraction⟩ := List.forall_mem_append.mp number.ascii
  obtain ⟨unit, noDigits⟩ := filter_of_letters letters
  have digits : ∀ c ∈ whole ++ '.' :: fraction, isNumberChar c = true ∧ isLetter c = false := by
    intro c member
    rw [List.mem_append, List.mem_cons] at member
    rcases member with digit | rfl | digit
    · exact ⟨isNumberChar_of_ascii (inWhole c digit), not_isLetter_of_ascii (inWhole c digit)⟩
    · decide
    · exact ⟨isNumberChar_of_ascii (inFraction c digit), not_isLetter_of_ascii (inFraction c digit)⟩
  have numbers : numberText (whole ++ '.' :: fraction ++ suffix) = whole ++ '.' :: fraction := by
    rw [numberText, List.filter_append, noDigits, List.append_nil, List.filter_eq_self]
    exact fun c member => (digits c member).1
  have units : unitText (whole ++ '.' :: fraction ++ suffix) = suffix := by
    have none : (whole ++ '.' :: fraction).filter isLetter = [] := by
      rw [List.filter_eq_nil_iff]
      intro c member
      simp [(digits c member).2]
    rw [unitText, List.filter_append, none, unit, List.nil_append]
  rw [read?, numbers, number.decimal, units]
  rfl

theorem IsFraction.value : (fractionDecimal whole fraction).value = q := by
  rw [← number.denotes, Value.plainNumber, List.map_append]
  simp [fractionDecimal, Decimal.value, Decimal.digits]

end Fraction

/-! ### Few digits -/

/-- A number of few digits that does not become whole under a power of ten is a quotient with a
small numerator. -/
theorem HasFewDigits.ratio {q : Rat} {shift : Nat} (few : HasFewDigits q)
    (fraction : ∀ k : Int, q * 10 ^ shift ≠ k) :
    ∃ a b : Nat, a < 2 ^ 51 ∧ q * 10 ^ shift = a / b := by
  obtain ⟨significand, small, exponent, rfl⟩ := few
  have shifted : (significand : Rat) * 10 ^ exponent * 10 ^ shift =
      significand * 10 ^ (exponent + shift) := by
    rw [zpow_add₀ (by norm_num), zpow_natCast, mul_assoc]
  rw [shifted] at fraction ⊢
  obtain ⟨places, above⟩ | ⟨places, below⟩ :
      (∃ n : Nat, exponent + shift = n) ∨ ∃ n : Nat, exponent + shift = -(n : Int) := by
    have parts := Int.eq_nat_or_neg (exponent + shift)
    grind
  · -- With enough places shifted the number is whole.
    refine absurd ?_ (fraction (significand * 10 ^ places))
    rw [above, zpow_natCast]
    push_cast
    rfl
  · refine ⟨significand, 10 ^ places, small.trans (by norm_num), ?_⟩
    rw [below, zpow_neg, zpow_natCast, ← div_eq_mul_inv]
    push_cast
    rfl

theorem HasFewDigits.nonneg {q : Rat} (few : HasFewDigits q) : 0 ≤ q := by
  obtain ⟨significand, -, exponent, rfl⟩ := few
  positivity

/-! ### What scaling does -/

/-- How the scaled number compares with the exact product. -/
structure IsScaledUp (q : Rat) (w : Nat) (n : Int) : Prop where
  /-- Large or small, the relative error is small. -/
  near : |(n : Rat) - q * w| < 1 + q * w / 2 ^ 51
  /-- What is rounded to zero stays zero. -/
  invisible : q ≤ 2 ^ (-1075 : Int) → n = 0
  plain : 2 ^ (-1075 : Int) < q → q < 2 ^ 52 → w = 1 → n = ⌈q⌉
  /-- A decimal unit can make a whole product too large by one. -/
  decimal : 2 ^ (-1075 : Int) < q → q * w < 2 ^ 52 → ∀ i, w = 10 ^ i →
    n = ⌈q * w⌉ ∨ (q < nearest q ∧ q * w = ⌈q * w⌉ ∧ n = ⌈q * w⌉ + 1)
  /-- A binary unit can lose a small excess over an integer. -/
  binary : 2 ^ (-1075 : Int) < q → q * w < 2 ^ 52 → ∀ j, w = 2 ^ j →
    n = ⌈q * w⌉ ∨ (2 ^ 51 ≤ (q * w).num ∧ q * w ≠ ⌊q * w⌋ ∧ n = ⌊q * w⌋)

section Scaled

variable {q : Rat} {w : Nat} (few : HasFewDigits q) (least : 1 ≤ w) (most : w ≤ 2 ^ 40)
  (visible : (2 : Rat) ^ (-1075 : Int) < q) (small : q * w < 2 ^ 52)

include least most visible small

/-- Under a power of ten only a whole product can come out too large, and by one. -/
theorem ceil_scaled_decimal (few : HasFewDigits q) {i : Nat} (power : w = 10 ^ i) :
    ⌈roundedProduct q w⌉ = ⌈q * w⌉ ∨
      (q < nearest q ∧ q * w = ⌈q * w⌉ ∧ ⌈roundedProduct q w⌉ = ⌈q * w⌉ + 1) := by
  have leastCast : (1 : Rat) ≤ w := by exact_mod_cast least
  have mostCast : (w : Rat) ≤ 2 ^ 40 := by exact_mod_cast most
  rcases le_or_gt q (2 ^ (-40 : Int)) with tiny | normal
  · -- So small a number stays at most one under any unit, and both sides are one.
    obtain ⟨reached, exact⟩ := ceil_product_of_tiny visible tiny leastCast mostCast
    exact .inl (reached.trans exact.symm)
  by_cases whole : ∃ k : Int, q * w = k
  · obtain ⟨k, same⟩ := whole
    have stays : ⌈q * w⌉ = k := by rw [same, Int.ceil_intCast]
    rw [stays]
    exact (ceil_product_of_whole normal.le leastCast small same).imp_right fun ⟨up, next⟩ =>
      ⟨up, same, next⟩
  · subst power
    push_cast at small leastCast whole ⊢
    obtain ⟨a, b, numerator, ratio⟩ := few.ratio (not_exists.mp whole)
    exact .inl (ceil_product_of_fraction normal.le leastCast small ratio numerator
      (not_exists.mp whole))

/-- Under a power of two only a fraction with a large numerator can lose its excess. -/
theorem ceil_scaled_binary {j : Nat} (power : w = 2 ^ j) :
    ⌈roundedProduct q w⌉ = ⌈q * w⌉ ∨
      (2 ^ 51 ≤ (q * w).num ∧ q * w ≠ ⌊q * w⌋ ∧ ⌈roundedProduct q w⌉ = ⌊q * w⌋) := by
  have leastCast : (1 : Rat) ≤ w := by exact_mod_cast least
  have mostCast : (w : Rat) ≤ 2 ^ 40 := by exact_mod_cast most
  rcases le_or_gt q (2 ^ (-40 : Int)) with tiny | normal
  · obtain ⟨reached, exact⟩ := ceil_product_of_tiny visible tiny leastCast mostCast
    exact .inl (reached.trans exact.symm)
  have deep : j ≤ 1074 := by
    have bounded : 2 ^ j ≤ 2 ^ 40 := power ▸ most
    have exponent := (Nat.pow_le_pow_iff_right (by norm_num)).mp bounded
    omega
  have range : q * 2 ^ j < 2 ^ 52 := by
    rw [power] at small
    exact_mod_cast small
  obtain ⟨lower, upper⟩ := ceil_product_of_dyadic normal.le deep range
  have same : (w : Rat) = 2 ^ j := by exact_mod_cast power
  rw [← same] at lower upper
  by_cases whole : q * w = ⌊q * w⌋
  · have level : ⌈q * w⌉ = ⌊q * w⌋ := by
      rw [whole, Int.ceil_intCast, Int.floor_intCast]
    exact .inl (by omega)
  rcases lt_or_ge (q * w).num (2 ^ 51) with numerator | large
  · -- With a small numerator the excess over an integer is too large to be lost.
    have positive := product_pos normal.le leastCast
    refine .inl (ceil_product_of_fraction normal.le leastCast small (eq_natAbs_div_den positive)
      ?_ fun k meets => whole ?_)
    · have sign := Rat.num_pos.mpr positive
      omega
    · rw [meets, Int.floor_intCast]
  · have next := Int.ceil_le_floor_add_one (q * w)
    rcases eq_or_ne ⌈roundedProduct q w⌉ ⌈q * w⌉ with kept | lost
    · exact .inl kept
    · exact .inr ⟨large, whole, by omega⟩

end Scaled

/-- A number of few digits is scaled up as described, whatever its size. -/
theorem isScaledUp_of_few {q : Rat} {w : Nat} (few : HasFewDigits q) (least : 1 ≤ w)
    (most : w ≤ 2 ^ 40) : IsScaledUp q w ⌈roundedProduct q w⌉ where
  near := ceil_product_near few.nonneg (by exact_mod_cast least) (by exact_mod_cast most)
  invisible invisible := ceil_product_of_invisible few.nonneg invisible w
  plain visible small one := by
    subst one
    have range : q * (1 : Nat) < 2 ^ 52 := by simpa using small
    have decimal := ceil_scaled_decimal least most visible range few (i := 0) rfl
    have binary := ceil_scaled_binary least most visible range (j := 0) rfl
    -- Where one allows a change the other forbids it.
    have order := Int.floor_le_ceil (q * (1 : Nat))
    have exact : ⌈roundedProduct q (1 : Nat)⌉ = ⌈q * (1 : Nat)⌉ := by omega
    rwa [Nat.cast_one, mul_one] at exact
  decimal visible small _ power := ceil_scaled_decimal least most visible small few power
  binary visible small _ power := ceil_scaled_binary least most visible small power

/-! ### From a number with a point to an amount -/

theorem suffixWorth_le (suffix : List Char) : suffixWorth suffix ≤ 2 ^ 40 := by
  obtain ⟨multiplier, known, bounded⟩ := memoryMultiplier_ok (lower suffix) []
  rw [memoryMultiplier_outcome, memoryFactor_eq, Except.ok.injEq] at known
  exact known ▸ bounded

/-- In range, scaling is the rounded product, rounded up. -/
theorem roundUp_fraction (parts : Parts) {w : Rat} (least : 1 ≤ w) (most : w ≤ 2 ^ 40)
    (small : parts.decimal.value * w < 2 ^ (1023 : Int)) :
    roundUp (parts.magnitude.scale w) = pure ⌈roundedProduct parts.decimal.value w⌉ := by
  rw [Parts.magnitude, roundedProduct_inRange parts.decimal.value_nonneg least most small,
    roundUp_finite]

theorem Parts.bytes_of_fraction {parts : Parts} {digits : List Nat}
    (point : parts.decimal.fraction = some digits) (text : List Char) :
    (parts.bytes text).outcome =
      (roundUp (parts.magnitude.scale (suffixWorth parts.unit))).outcome := by
  rw [Parts.bytes_outcome, point]

section Fraction

variable {whole fraction suffix : List Char} {q : Rat} (number : IsFraction whole fraction q)

include number

/-- A number with a point and without a unit counts cores. -/
theorem IsFraction.millicores (small : q * 1000 < 2 ^ (1023 : Int)) :
    millicores (whole ++ '.' :: fraction) = pure ⌈roundedProduct q 1000⌉ := by
  have read := number.read (List.forall_mem_nil _)
  rw [List.append_nil] at read
  rw [← number.value] at small ⊢
  rw [Quantity.millicores, read]
  simp only [Parts.millicores, List.isEmpty_nil, Bool.or_true, if_true]
  exact roundUp_fraction _ (by norm_num) (by norm_num) small

theorem IsFraction.bytes (letters : ∀ c ∈ suffix, isLetter c = true)
    (small : q * suffixWorth suffix < 2 ^ (1023 : Int)) :
    (bytes (whole ++ '.' :: fraction ++ suffix)).outcome =
      .ok ⌈roundedProduct q (suffixWorth suffix)⌉ := by
  have least : (1 : Rat) ≤ suffixWorth suffix := by exact_mod_cast one_le_suffixWorth suffix
  have most : (suffixWorth suffix : Rat) ≤ 2 ^ 40 := by exact_mod_cast suffixWorth_le suffix
  rw [← number.value] at small ⊢
  rw [Quantity.bytes, number.read letters]
  have scaled := roundUp_fraction ⟨fractionDecimal whole fraction, suffix⟩ least most small
  exact (Parts.bytes_of_fraction rfl _).trans (congrArg Trace.outcome scaled)

end Fraction

/-! ## Main result -/

/-- A number with a point and at most 15 significant digits has an amount unless it is huge, and the
amount is the exact product rounded up but for what `IsScaledUp` says: millicores are a
thousandfold, and bytes the multiple by the suffix. -/
theorem fraction_is_scaled_up {whole fraction : List Char} {q : Rat}
    (number : IsFraction whole fraction q) (few : HasFewDigits q) :
    (q * 1000 < 2 ^ (1023 : Int) →
      ∃ n, millicores (whole ++ '.' :: fraction) = pure n ∧ IsScaledUp q 1000 n) ∧
    ∀ suffix, (∀ c ∈ suffix, isLetter c = true) → q * suffixWorth suffix < 2 ^ (1023 : Int) →
      ∃ n, (bytes (whole ++ '.' :: fraction ++ suffix)).outcome = .ok n ∧
        IsScaledUp q (suffixWorth suffix) n := by
  constructor
  · intro small
    exact ⟨_, number.millicores small, isScaledUp_of_few few (by norm_num) (by norm_num)⟩
  · intro suffix letters small
    exact ⟨_, number.bytes letters small,
      isScaledUp_of_few few (one_le_suffixWorth suffix) (suffixWorth_le suffix)⟩

/-- One and a half cores are 1500 millicores, and one and a half binary kilobytes 1536 bytes. -/
theorem fraction_is_scaled_up_sample :
    IsFraction ['1'] ['5'] (3 / 2) ∧ HasFewDigits (3 / 2) ∧
      millicores ['1', '.', '5'] = pure 1500 ∧
      (bytes ['1', '.', '5', 'K', 'i']).outcome = .ok 1536 := by
  have number : IsFraction ['1'] ['5'] (3 / 2) := ⟨by simp, by simp, by decide +kernel⟩
  have few : HasFewDigits (3 / 2) := ⟨15, by norm_num, -1, by norm_num⟩
  have visible : (2 : Rat) ^ (-1075 : Int) < 3 / 2 :=
    (zpow_le_one_of_nonpos₀ (by norm_num) (by norm_num)).trans_lt (by norm_num)
  have limit : (2 : Rat) ^ 53 < 2 ^ (1023 : Int) := by
    rw [← zpow_natCast]
    exact zpow_lt_zpow_right₀ (by norm_num) (by norm_num)
  have worth : suffixWorth ['K', 'i'] = 2 ^ 10 := by decide
  obtain ⟨cores, kilobytes⟩ := fraction_is_scaled_up number few
  obtain ⟨n, counted, exact⟩ := cores (lt_trans (by norm_num) limit)
  have letters : ∀ c ∈ ['K', 'i'], isLetter c = true := by
    rw [List.forall_mem_cons, List.forall_mem_singleton]
    decide
  obtain ⟨m, measured, whole⟩ := kilobytes ['K', 'i'] letters
    (lt_trans (by rw [worth]; norm_num) limit)
  refine ⟨number, few, ?_, ?_⟩
  · have grid : nearest (3 / 2) = 3 / 2 := by decide +kernel
    rcases exact.decimal visible (by norm_num) 3 (by norm_num) with same | ⟨up, -⟩
    · refine counted.trans ?_
      rw [same]
      norm_num
    · rw [grid] at up
      exact absurd up (lt_irrefl _)
  · rcases whole.binary visible (by rw [worth]; norm_num) 10 worth with same | ⟨-, fraction, -⟩
    · have amount : m = 1536 := by
        rw [same, worth]
        norm_num
      rw [← amount]
      exact measured
    · refine absurd ?_ fraction
      rw [worth]
      norm_num

/-- Sixteen cores and a tenth become one millicore too many, 8.3 megabytes one byte too many, and a
large number of binary kilobytes one byte too few. -/
theorem fraction_is_not_exact :
    (IsFraction ['1', '6'] ['1'] (161 / 10) ∧ HasFewDigits (161 / 10) ∧
      ⌈(161 / 10 : Rat) * 1000⌉ = 16100 ∧ (millicores ['1', '6', '.', '1']).outcome = .ok 16101) ∧
    (IsFraction ['8'] ['3'] (83 / 10) ∧ HasFewDigits (83 / 10) ∧
      ⌈(83 / 10 : Rat) * suffixWorth ['M']⌉ = 8300000 ∧
      (bytes ['8', '.', '3', 'M']).outcome = .ok 8300001) ∧
    (IsFraction ['8', '6', '7', '1', '7', '6', '6', '9', '1', '7', '1', '4'] ['6', '6', '7']
        (867176691714667 / 1000) ∧ HasFewDigits (867176691714667 / 1000) ∧
      ⌈(867176691714667 / 1000 : Rat) * suffixWorth ['K', 'i']⌉ = 887988932315820 ∧
      (bytes (['8', '6', '7', '1', '7', '6', '6', '9', '1', '7', '1', '4'] ++
        '.' :: ['6', '6', '7'] ++ ['K', 'i'])).outcome = .ok 887988932315819) := by
  refine ⟨⟨⟨by simp, by simp, by decide +kernel⟩, ⟨161, by norm_num, -1, by norm_num⟩,
      by norm_num, by decide +kernel⟩,
    ⟨⟨by simp, by simp, by decide +kernel⟩, ⟨83, by norm_num, -1, by norm_num⟩, ?_,
      by decide +kernel⟩,
    ⟨by simp, by simp, by decide +kernel⟩, ⟨867176691714667, by norm_num, -3, by norm_num⟩, ?_,
      by decide +kernel⟩
  · have worth : suffixWorth ['M'] = 10 ^ 6 := by decide
    rw [worth]
    norm_num
  · have worth : suffixWorth ['K', 'i'] = 2 ^ 10 := by decide
    rw [worth]
    norm_num

end ClusterCensus.Quantity
