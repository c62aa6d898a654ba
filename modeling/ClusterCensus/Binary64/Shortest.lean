import ClusterCensus.Binary64.Rounding
import ClusterCensus.Numeral.Basic

/-!
# Shortest decimal text

A binary64 number is written with the fewest significant digits that read back as the same
number, and with the closest such digits. For a given count of digits the only candidates are the
two neighbours on the decimal grid of that count, so counts from one to seventeen are tried in
turn; seventeen always suffice.

`Layout` holds what the digits leave open: which exponents are written positionally and how wide
an exponent is.
-/
namespace ClusterCensus.Binary64

/-- Significant digits of a number and the decimal exponent of the last of them. -/
structure Decimal where
  significand : Nat
  exponent : Int

/-- The decimal exponent of the leading digit of a positive rational. -/
def decimalExponent (q : Rat) : Int :=
  let guess := Int.fdiv (binaryExponent q * 30103) 100000
  if (10 : Rat) ^ (guess + 1) ≤ q then guess + 1
  else if (10 : Rat) ^ guess ≤ q then guess
  else guess - 1

/-- The closest decimal of a given count of digits that reads back as `q`, when there is one. -/
def decimalOf? (q : Rat) (digits : Nat) : Option Decimal :=
  let exponent := decimalExponent q - (digits - 1 : Nat)
  let scaled := q / (10 : Rat) ^ exponent
  let below := scaled.floor.toNat
  let readsBack (k : Nat) : Bool := nearest ((k : Rat) * (10 : Rat) ^ exponent) = q
  let above := below + 1
  match readsBack below, readsBack above with
  | false, false => none
  | true, false => some ⟨below, exponent⟩
  | false, true => some ⟨above, exponent⟩
  | true, true =>
    let excess := scaled - below
    if excess < 1 / 2 then some ⟨below, exponent⟩
    else if 1 / 2 < excess then some ⟨above, exponent⟩
    else some ⟨if below % 2 = 0 then below else above, exponent⟩

/-- The shortest decimal that reads back as the grid point `q`. -/
def shortest (q : Rat) : Decimal :=
  ((List.range 17).findSome? fun extra => decimalOf? q (extra + 1)).getD ⟨0, 0⟩

structure Layout where
  /-- The least exponent of the leading digit that is written positionally. -/
  leastPositional : Int
  /-- The least exponent above it that is written after an `e`. -/
  leastScientific : Int
  /-- The least number of digits of a written exponent. -/
  exponentWidth : Nat

/-- Record lines write exponents from -4 to 15 positionally and others with two digits or more. -/
def recordLayout : Layout := ⟨-4, 16, 2⟩

def withoutTrailingZeros (digits : List Char) : List Char :=
  (digits.reverse.dropWhile (· == '0')).reverse

def Layout.write (layout : Layout) (q : Rat) : List Char :=
  let decimal := shortest q
  let written := Numeral.naturalDigits decimal.significand
  let leading : Int := decimal.exponent + (written.length : Int) - 1
  let digits := withoutTrailingZeros written
  if leading < layout.leastPositional || layout.leastScientific ≤ leading then
    let size := Numeral.naturalDigits leading.natAbs
    let padding := List.replicate (layout.exponentWidth - size.length) '0'
    let fraction := if digits.length ≤ 1 then [] else '.' :: digits.drop 1
    digits.take 1 ++ fraction ++ ['e', if leading < 0 then '-' else '+'] ++ padding ++ size
  else if leading < 0 then
    ['0', '.'] ++ List.replicate (leading.natAbs - 1) '0' ++ digits
  else
    let whole := leading.toNat + 1
    let padded := digits ++ List.replicate (whole - digits.length) '0'
    let fraction := digits.drop whole
    padded.take whole ++ ['.'] ++ (if fraction.isEmpty then ['0'] else fraction)

end ClusterCensus.Binary64
