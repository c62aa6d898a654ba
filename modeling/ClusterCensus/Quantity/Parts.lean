import ClusterCensus.Binary64.Rounding
import ClusterCensus.Note
import ClusterCensus.Numeral.Basic
import ClusterCensus.Text.Letter

/-!
# Parts of a quantity

A quantity such as `250m` or `1.5Gi` is split by class of character: its digits and points, in
order, are the number, its letters the unit. Everything else is passed over, so signs and blanks
do not count. A quantity whose number cannot be read says nothing.
-/
namespace ClusterCensus.Quantity

open ClusterCensus.Text ClusterCensus.Numeral ClusterCensus.Binary64

def isNumberChar (c : Char) : Bool :=
  isDigit c || c == '.'

def numberText (text : List Char) : List Char :=
  text.filter isNumberChar

def unitText (text : List Char) : List Char :=
  text.filter isLetter

/-- A decimal number: the digits before the point, and those after it when there is a point. -/
structure Decimal where
  whole : List Nat
  fraction : Option (List Nat)

def Decimal.digits (d : Decimal) : List Nat :=
  d.whole ++ d.fraction.getD []

/-- The rational that a decimal number denotes. -/
def Decimal.value (d : Decimal) : Rat :=
  (ofDigits d.digits : Rat) / (10 : Rat) ^ ((d.fraction.getD []).length : Int)

/-- Reads a decimal number: digits with at most one point, and at least one digit. -/
def decimal? (number : List Char) : Option Decimal := do
  let whole ← digitValues? (number.takeWhile (· != '.'))
  let fraction ← match number.dropWhile (· != '.') with
    | [] => some none
    | _ :: rest => (digitValues? rest).map some
  let decimal : Decimal := ⟨whole, fraction⟩
  if decimal.digits.isEmpty then none else some decimal

/-- A quantity that says something. -/
structure Parts where
  decimal : Decimal
  unit : List Char

/-- The magnitude of the number on the binary64 grid. -/
def Parts.magnitude (parts : Parts) : Magnitude :=
  .ofRat parts.decimal.value

def read? (text : List Char) : Option Parts :=
  (decimal? (numberText text)).map fun decimal => ⟨decimal, unitText text⟩

/-- The least integer that is not below a magnitude. -/
def roundUp : Magnitude → Noted Int
  | .finite value => pure value.ceil
  | .infinite => .fail .infiniteQuantity

end ClusterCensus.Quantity
