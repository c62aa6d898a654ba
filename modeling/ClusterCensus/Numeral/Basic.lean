import ClusterCensus.Text.Basic

/-!
# Numerals

A numeral is a list of digit values, the most significant first. The digits of a text may come from
any script; they are valued before they are combined.

An integer is an optional sign and one or more decimal digits, at most `digitLimit` of them, with
single underscores allowed between two digits. Nothing else is an integer: no blank inside, no
point, no exponent, no unit.
-/
namespace ClusterCensus.Numeral

open ClusterCensus.Text

/-! ### Digits -/

/-- The most digits a numeral may have, leading zeros included. -/
def digitLimit : Nat := 4300

/-- The number that a list of decimal digit values denotes. -/
def ofDigits (digits : List Nat) : Nat :=
  digits.foldl (fun value digit => 10 * value + digit) 0

/-- The digit values of a text that holds decimal digits and nothing else. -/
def digitValues? (text : List Char) : Option (List Nat) :=
  text.mapM digitValue?

/-- The decimal digits of a natural number, in ASCII and without leading zeros. -/
def naturalDigits (n : Nat) : List Char :=
  Nat.toDigits 10 n

/-- The decimal text of an integer. -/
def integerDigits (n : Int) : List Char :=
  if n < 0 then '-' :: naturalDigits n.natAbs else naturalDigits n.natAbs

/-- The integer has more digits than may be written. -/
def isTooLong (n : Int) : Bool :=
  digitLimit < (naturalDigits n.natAbs).length

/-! ### Integers -/

/-- The values of digits that may be grouped by single underscores. -/
def groupedDigits? : List Char → Option (List Nat)
  | [] => none
  | [c] => (digitValue? c).map ([·])
  | c :: '_' :: rest =>
    (digitValue? c).bind fun digit => (groupedDigits? rest).map (digit :: ·)
  | c :: next :: rest =>
    (digitValue? c).bind fun digit => (groupedDigits? (next :: rest)).map (digit :: ·)

/-- The number denoted by grouped digits, unless there are too many of them. -/
def natural? (text : List Char) : Option Nat :=
  (groupedDigits? text).bind fun digits =>
    if digits.length ≤ digitLimit then some (ofDigits digits) else none

/-- The integer denoted by a text without surrounding blanks. -/
def integer? : List Char → Option Int
  | '-' :: digits => (natural? digits).map fun n => -(n : Int)
  | '+' :: digits => (natural? digits).map fun n => (n : Int)
  | digits => (natural? digits).map fun n => (n : Int)

end ClusterCensus.Numeral
