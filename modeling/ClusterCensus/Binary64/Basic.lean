import ClusterCensus.Binary64.Shortest

/-!
# Binary64 numbers

A number is a sign and a magnitude, or no number at all. Negative zero is kept apart from zero,
because its text shows the sign.
-/
namespace ClusterCensus

inductive Binary64 where
  | nan
  | signed (negative : Bool) (size : Binary64.Magnitude)
deriving DecidableEq

namespace Binary64

/-- The rational that a finite number stands for. -/
def toRat? : Binary64 → Option Rat
  | signed negative (.finite value) => some (if negative then -value else value)
  | _ => none

def isZero (x : Binary64) : Bool :=
  x.toRat? = some 0

/-- The number has a text in a record line. -/
def isFinite (x : Binary64) : Bool :=
  x.toRat?.isSome

def text : Binary64 → List Char
  | nan => ['n', 'a', 'n']
  | signed negative size =>
    let digits := match size with
      | .infinite => ['i', 'n', 'f']
      | .finite value => if value = 0 then ['0', '.', '0'] else recordLayout.write value
    if negative then '-' :: digits else digits

/-- Splits a text at the first of some characters, which is dropped. -/
def splitAtFirst (marks : List Char) (text : List Char) : List Char × Option (List Char) :=
  (text.takeWhile (!marks.contains ·),
    match text.dropWhile (!marks.contains ·) with
    | [] => none
    | _ :: tail => some tail)

/-- The rational that a decimal text without sign denotes, such as `12.5e-3`. -/
def decimalValue? (text : List Char) : Option Rat := do
  let (mantissa, exponent) := splitAtFirst ['e', 'E'] text
  let (whole, fraction) := splitAtFirst ['.'] mantissa
  let fraction := fraction.getD []
  let digits ← Numeral.digitValues? (whole ++ fraction)
  let power ← match exponent.getD ['0'] with
    | '-' :: rest => (Numeral.digitValues? rest).map fun ds => -(Numeral.ofDigits ds : Int)
    | '+' :: rest => (Numeral.digitValues? rest).map fun ds => (Numeral.ofDigits ds : Int)
    | rest => (Numeral.digitValues? rest).map fun ds => (Numeral.ofDigits ds : Int)
  if digits.isEmpty then none
  else some ((Numeral.ofDigits digits : Rat) * (10 : Rat) ^ (power - fraction.length))

def readSize? (negative : Bool) (text : List Char) : Option Binary64 :=
  if text = ['n', 'a', 'n'] then some nan
  else if text = ['i', 'n', 'f'] then some (signed negative .infinite)
  else (decimalValue? text).map fun q => signed negative (.ofRat q)

def read? : List Char → Option Binary64
  | '-' :: rest => readSize? true rest
  | rest => readSize? false rest

end Binary64
end ClusterCensus
