import ClusterCensus.Proofs.Binary64.Order
import ClusterCensus.Proofs.Binary64.Product
import ClusterCensus.Time.Calendar

/-!
# Ages are right up to one millisecond

Microseconds are divided into seconds, multiplied out to milliseconds, and lose their fraction; the
quotient and the product are rounded to the grid. The two roundings move a number of milliseconds by
less than one as long as it is below `2 ^ 51`, so dropping the fraction gives the exact count or one
of its neighbours. Whole seconds are points of the grid, and so are their milliseconds: these are
counted exactly. Whole seconds of a moment are a quotient that is rounded once, and below `2 ^ 53`
microseconds this rounding does not reach an integer.

Every step is odd and monotone, and so are the counts.

## Main result

`ages_right_to_a_millisecond`: ages and epoch times of all moments of the calendar.
-/
namespace ClusterCensus.Moment

open ClusterCensus.Binary64

variable {micros : Int}

/-! ### Sign and order -/

theorem gridSeconds_neg (micros : Int) : gridSeconds (-micros) = -gridSeconds micros := by
  rw [gridSeconds, Int.cast_neg, neg_div, nearest_neg, gridSeconds]

theorem wholeMillis_neg (micros : Int) : wholeMillis (-micros) = -wholeMillis micros := by
  rw [wholeMillis, gridSeconds_neg, neg_mul, nearest_neg, truncate_neg, wholeMillis]

theorem wholeSeconds_neg (micros : Int) : wholeSeconds (-micros) = -wholeSeconds micros := by
  rw [wholeSeconds, gridSeconds_neg, truncate_neg, wholeSeconds]

theorem wholeMillis_mono {a b : Int} (below : a ≤ b) : wholeMillis a ≤ wholeMillis b := by
  have seconds : gridSeconds a ≤ gridSeconds b := by
    have cast : (a : Rat) ≤ b := by exact_mod_cast below
    exact nearest_mono (div_le_div_of_nonneg_right cast (by norm_num))
  exact truncate_mono (nearest_mono (mul_le_mul_of_nonneg_right seconds (by norm_num)))

/-! ### Whole seconds -/

theorem gridSeconds_seconds {k : Nat} (small : k ≤ 2 ^ 53) :
    gridSeconds ((k : Int) * 1000000) = k := by
  have quotient : (((k : Int) * 1000000 : Int) : Rat) / 1000000 = k := by
    push_cast
    rw [mul_div_cancel_right₀ _ (by norm_num)]
  rw [gridSeconds, quotient, nearest_natCast small]

theorem wholeMillis_seconds {k : Nat} (small : k * 1000 ≤ 2 ^ 53) :
    wholeMillis ((k : Int) * 1000000) = (k : Int) * 1000 := by
  have product : (k : Rat) * 1000 = ((k * 1000 : Nat) : Rat) := by push_cast; rfl
  rw [wholeMillis, gridSeconds_seconds (by omega), product, nearest_natCast small,
    truncate_natCast, Nat.cast_mul, Nat.cast_ofNat]

/-- The seconds of a moment are a quotient that is rounded once. -/
theorem wholeSeconds_eq (within : micros.natAbs < 2 ^ 53) :
    wholeSeconds micros = micros.tdiv 1000000 := by
  -- The rounded quotient has the floor of the exact one, and beyond zero the sign comes last.
  have nonneg {k : Nat} (small : k < 2 ^ 53) : wholeSeconds k = (k : Int).tdiv 1000000 := by
    have floor := floor_nearest_div small (d := 1000000) (by norm_num) (by norm_num)
    have divided := truncate_div k 1000000
    rw [truncate_of_nonneg (by positivity), Int.cast_natCast, ← floor, Nat.cast_ofNat,
      Nat.cast_ofNat] at divided
    rw [← divided, wholeSeconds, gridSeconds, Int.cast_natCast,
      truncate_of_nonneg (nearest_nonneg (by positivity))]
  obtain ⟨k, rfl | rfl⟩ := micros.eq_nat_or_neg
  · exact nonneg (by omega)
  · rw [wholeSeconds_neg, nonneg (by omega), Int.neg_tdiv]

/-! ### Milliseconds -/

/-- The whole milliseconds of so many microseconds, up to one; those of whole seconds are exact. -/
structure CountsMillis (millis micros : Int) : Prop where
  near : |millis - micros.tdiv 1000| ≤ 1
  exact : 1000000 ∣ micros → millis = micros.tdiv 1000

theorem CountsMillis.neg {millis : Int} (counts : CountsMillis millis micros) :
    CountsMillis (-millis) (-micros) := by
  constructor
  · rw [Int.neg_tdiv, ← neg_sub', abs_neg]
    exact counts.near
  · intro whole
    rw [Int.neg_tdiv, counts.exact ((Int.dvd_neg).mp whole)]

theorem floor_near {x y : Rat} (close : |x - y| < 1) : |⌊x⌋ - ⌊y⌋| ≤ 1 := by
  obtain ⟨right, left⟩ := abs_lt.mp close
  have up : ⌊x⌋ ≤ ⌊y⌋ + 1 := by
    rw [← Int.floor_add_one]
    exact Int.floor_le_floor (by linarith)
  have down : ⌊y⌋ ≤ ⌊x⌋ + 1 := by
    rw [← Int.floor_add_one]
    exact Int.floor_le_floor (by linarith)
  rw [abs_le]
  omega

/-- The two roundings together move the milliseconds by less than one. -/
theorem millis_near {k : Nat} (least : 0 < k) (within : k < 2 ^ 60) :
    |nearest (gridSeconds k * 1000) - k / 1000| < 1 := by
  have one : (1 : Rat) ≤ k := by exact_mod_cast least
  have limit : (k : Rat) < 2 ^ 60 := by exact_mod_cast within
  have normal : (2 : Rat) ^ (-40 : Int) ≤ (k : Int) / 1000000 := by
    push_cast
    norm_num
    linarith
  -- Two roundings change a number below this limit by less than a millisecond.
  have error := roundedProduct_near (w := 1000) normal (by norm_num)
  have scaled : ((k : Int) : Rat) / 1000000 * 1000 = k / 1000 := by
    push_cast
    ring
  rw [scaled, roundedProduct] at error
  refine lt_of_le_of_lt error ?_
  linarith

theorem wholeMillis_exact {k : Nat} (within : k < 2 ^ 60) (whole : 1000000 ∣ (k : Int)) :
    wholeMillis k = (k : Int).tdiv 1000 := by
  obtain ⟨seconds, count⟩ : ∃ seconds : Nat, (k : Int) = (seconds : Int) * 1000000 :=
    ⟨k / 1000000, by omega⟩
  rw [count, wholeMillis_seconds (by omega), Int.tdiv_eq_ediv_of_nonneg (by positivity)]
  omega

/-- Milliseconds that come by way of rounded seconds are off by one at most. -/
theorem wholeMillis_near {k : Nat} (within : k < 2 ^ 60) :
    |wholeMillis k - (k : Int).tdiv 1000| ≤ 1 := by
  rcases Nat.eq_zero_or_pos k with rfl | least
  · rw [wholeMillis_exact within (by norm_num), sub_self, abs_zero]
    norm_num
  · have divided := truncate_div k 1000
    rw [truncate_of_nonneg (by positivity), Int.cast_natCast, Nat.cast_ofNat,
      Nat.cast_ofNat] at divided
    have positive : 0 ≤ nearest (gridSeconds k * 1000) :=
      nearest_nonneg (mul_nonneg (nearest_nonneg (by positivity)) (by norm_num))
    rw [← divided, wholeMillis, truncate_of_nonneg positive]
    exact floor_near (millis_near least within)

theorem wholeMillis_counts (within : micros.natAbs < 2 ^ 60) :
    CountsMillis (wholeMillis micros) micros := by
  have nonneg {k : Nat} (within : k < 2 ^ 60) : CountsMillis (wholeMillis k) k :=
    ⟨wholeMillis_near within, wholeMillis_exact within⟩
  obtain ⟨k, rfl | rfl⟩ := micros.eq_nat_or_neg
  · exact nonneg (by omega)
  · rw [wholeMillis_neg]
    exact (nonneg (by omega)).neg

/-! ### Moments of the calendar -/

/-- The clock shows a time of the years 1 to 9999, and it is less than a day off. -/
structure IsDated (m : Moment) : Prop where
  first : Date.toDays ⟨1, 1, 1⟩ * 86400000000 ≤ m.reading
  last : m.reading < Date.toDays ⟨10000, 1, 1⟩ * 86400000000
  offset : ∀ ahead ∈ m.offset, |ahead| < 86400000000

/-- The instants of the calendar, in any zone, are within these bounds. -/
theorem IsDated.instant_bounds {m : Moment} (dated : m.IsDated) :
    -62135683200000000 < m.instant ∧ m.instant < 253402387200000000 := by
  have first : -62135596800000000 ≤ m.reading := dated.first
  have last : m.reading < 253402300800000000 := dated.last
  have day : |m.offset.getD 0| < 86400000000 := by
    cases known : m.offset with
    | none => norm_num
    | some ahead => exact dated.offset ahead known
  rw [abs_lt] at day
  unfold instant
  omega

/-! ## Main result -/

/-- Ages depend on the two instants only, are right up to one millisecond and exact for whole
seconds, change their sign with the direction and grow with the later moment. Epoch milliseconds are
right in the same sense, and epoch seconds are exact as long as the epoch is near. -/
theorem ages_right_to_a_millisecond {start finish : Moment} (begun : start.IsDated)
    (ended : finish.IsDated) :
    (∀ start' finish' : Moment, start'.instant = start.instant →
        finish'.instant = finish.instant →
          start'.millisBetween finish' = start.millisBetween finish) ∧
      CountsMillis (start.millisBetween finish) (finish.instant - start.instant) ∧
      finish.millisBetween start = -start.millisBetween finish ∧
      (∀ later : Moment, finish.instant ≤ later.instant →
        start.millisBetween finish ≤ start.millisBetween later) ∧
      CountsMillis start.epochMillis start.instant ∧
      (|start.instant| ≤ 2 ^ 33 * 1000000 →
        start.epochSeconds = start.instant.tdiv 1000000) := by
  have left := begun.instant_bounds
  have right := ended.instant_bounds
  refine ⟨?_, wholeMillis_counts (by omega), ?_, ?_, wholeMillis_counts (by omega), ?_⟩
  · intro start' finish' same same'
    rw [millisBetween, same, same', millisBetween]
  · rw [millisBetween, ← neg_sub, wholeMillis_neg, millisBetween]
  · intro later after
    exact wholeMillis_mono (Int.sub_le_sub_right after _)
  · intro near
    rw [abs_le] at near
    exact wholeSeconds_eq (by omega)

namespace Sample

/-- The last microsecond before 1970. -/
def eve : Moment := ⟨-1, none⟩

/-- The end of the calendar, on a clock that is behind by a second less than a day. -/
def calendarEnd : Moment := ⟨253402300799999999, some (-86399000000)⟩

end Sample

/-- From the one to the other whole seconds pass. -/
theorem ages_right_to_a_millisecond_sample :
    Sample.eve.IsDated ∧ Sample.calendarEnd.IsDated ∧
      Sample.eve.millisBetween Sample.calendarEnd = 253402387199000 ∧
      Sample.calendarEnd.millisBetween Sample.eve = -253402387199000 ∧
      |Sample.eve.epochMillis - 0| ≤ 1 ∧ Sample.eve.epochSeconds = 0 := by
  have begun : Sample.eve.IsDated := ⟨by decide, by decide, by simp [Sample.eve]⟩
  have ended : Sample.calendarEnd.IsDated := ⟨by decide, by decide, by simp [Sample.calendarEnd]⟩
  obtain ⟨-, age, turned, -, epoch, seconds⟩ := ages_right_to_a_millisecond begun ended
  have passed := age.exact (by decide)
  refine ⟨begun, ended, passed, ?_, epoch.near, seconds (by decide)⟩
  rw [turned, passed]
  rfl

/-- Of 1.001 seconds one millisecond is lost. -/
example : millisBetween ⟨0, none⟩ ⟨1001000, none⟩ = 1000 := by decide +kernel

end ClusterCensus.Moment
