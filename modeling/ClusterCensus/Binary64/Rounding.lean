/-!
# Rounding to binary64

A binary64 number is an integer of at most 53 bits times a power of two that is never below
`2 ^ (-1074)`. `nearest` picks the number of this grid that is closest to a rational, and of two
equally close ones the one with the even significand. The grid is not bounded above: a rounded
value of `2 ^ 1024` or more lies out of range, and `Magnitude` says so.

All arithmetic of the collector rounds once, after an exact operation on rationals, so sums of
errors never arise.
-/
namespace ClusterCensus.Binary64

/-- The greatest exponent whose power of two does not exceed the absolute value. -/
def binaryExponent (q : Rat) : Int :=
  let guess : Int := (Nat.log2 q.num.natAbs : Int) - (Nat.log2 q.den : Int)
  if (2 : Rat) ^ guess ≤ q.abs then guess else guess - 1

/-- The distance between neighbouring grid points around a rational. -/
def spacing (q : Rat) : Rat :=
  (2 : Rat) ^ max (binaryExponent q - 52) (-1074)

/-- The nearest integer; a half goes to the even neighbour. -/
def roundEven (q : Rat) : Int :=
  let below := q.floor
  let excess := q - below
  if excess < 1 / 2 then below
  else if 1 / 2 < excess then below + 1
  else if below % 2 = 0 then below
  else below + 1

/-- The grid point nearest to a rational. -/
def nearest (q : Rat) : Rat :=
  roundEven (q / spacing q) * spacing q

/-- The least power of two that lies out of range. -/
def outOfRange : Rat := (2 : Rat) ^ (1024 : Int)

/-- A rational without its fraction. -/
def truncate (q : Rat) : Int :=
  if 0 ≤ q then q.floor else q.ceil

/-- The size of a binary64 number: a point of the grid, or infinite. -/
inductive Magnitude where
  | finite (value : Rat)
  | infinite
deriving DecidableEq

namespace Magnitude

def ofRat (q : Rat) : Magnitude :=
  let rounded := nearest q
  if outOfRange ≤ rounded then infinite else finite rounded

/-- The product with a positive factor, rounded once. -/
def scale (factor : Rat) : Magnitude → Magnitude
  | finite value => ofRat (value * factor)
  | infinite => infinite

def isBelowOne : Magnitude → Bool
  | finite value => value < 1
  | infinite => false

end Magnitude
end ClusterCensus.Binary64
