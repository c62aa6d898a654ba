import ClusterCensus.Numeral.Basic
import ClusterCensus.Time.Moment

/-!
# Moments in text

A moment is written as date, `T`, time of day, a fraction of six digits when the microseconds are
not zero, and the offset when the clock has one. Days are counted in years that begin in March,
so that the leap day comes last and months have a linear day count.
-/
namespace ClusterCensus

/-- A day of the Gregorian calendar. -/
structure Date where
  year : Int
  month : Int
  day : Int
deriving DecidableEq

namespace Date

/-- Days from the start of 1970 to a day. -/
def toDays (date : Date) : Int :=
  let year := if date.month ≤ 2 then date.year - 1 else date.year
  let era := year / 400
  let yearOfEra := year - era * 400
  let month := if date.month ≤ 2 then date.month + 9 else date.month - 3
  let dayOfYear := (153 * month + 2) / 5 + date.day - 1
  let dayOfEra := yearOfEra * 365 + yearOfEra / 4 - yearOfEra / 100 + dayOfYear
  era * 146097 + dayOfEra - 719468

/-- The day that lies so many days after the start of 1970. -/
def ofDays (days : Int) : Date :=
  let shifted := days + 719468
  let era := shifted / 146097
  let dayOfEra := shifted - era * 146097
  let yearOfEra := (dayOfEra - dayOfEra / 1460 + dayOfEra / 36524 - dayOfEra / 146096) / 365
  let dayOfYear := dayOfEra - (365 * yearOfEra + yearOfEra / 4 - yearOfEra / 100)
  let month := (5 * dayOfYear + 2) / 153
  let day := dayOfYear - (153 * month + 2) / 5 + 1
  let monthOfYear := if month < 10 then month + 3 else month - 9
  let year := yearOfEra + era * 400
  ⟨if monthOfYear ≤ 2 then year + 1 else year, monthOfYear, day⟩

end Date

namespace Moment

/-- How an offset of zero is written. -/
inductive ZeroOffset where
  | digits
  | letter

/-- A number padded with zeros to a width. -/
def padded (width : Nat) (n : Int) : List Char :=
  let digits := Numeral.naturalDigits n.natAbs
  List.replicate (width - digits.length) '0' ++ digits

/-- The text of an offset. Its seconds and their fraction are written in digits only, and only where
they are not zero. -/
def offsetText (zeroOffset : ZeroOffset) (micros : Int) : List Char :=
  let second := micros.natAbs / 1000000
  let fraction := micros.natAbs % 1000000
  let minutes := (if micros < 0 then '-' else '+') ::
    padded 2 (second / 3600 : Nat) ++ ':' :: padded 2 (second / 60 % 60 : Nat)
  match zeroOffset, decide (micros = 0) with
  | .letter, true => ['Z']
  | .letter, false => minutes
  | .digits, _ =>
    minutes ++ (if micros.natAbs % 60000000 = 0 then [] else ':' :: padded 2 (second % 60 : Nat)) ++
      (if fraction = 0 then [] else '.' :: padded 6 fraction)

def write (zeroOffset : ZeroOffset) (m : Moment) : String :=
  let second := m.reading / 1000000
  let micros := m.reading % 1000000
  let date := Date.ofDays (second / 86400)
  let time := second % 86400
  let day := padded 4 date.year ++ '-' :: padded 2 date.month ++ '-' :: padded 2 date.day
  let clock := padded 2 (time / 3600) ++ ':' :: padded 2 (time / 60 % 60) ++
    ':' :: padded 2 (time % 60)
  let fraction := if micros = 0 then [] else '.' :: padded 6 micros
  let offset := match m.offset with
    | some micros => offsetText zeroOffset micros
    | none => []
  String.ofList (day ++ 'T' :: clock ++ fraction ++ offset)

def readNumber? (text : List Char) : Option Int :=
  if text.isEmpty then none
  else (Numeral.digitValues? text).map fun digits => (Numeral.ofDigits digits : Int)

/-- Reads an offset in hours and minutes, or its absence. -/
def readOffset? : List Char → Option (Option Int)
  | [] => some none
  | ['Z'] => some (some 0)
  | sign :: rest => do
    let hours ← readNumber? (rest.take 2)
    let minutes ← readNumber? (rest.drop 3)
    let size := (hours * 60 + minutes) * 60000000
    if sign = '-' then some (some (-size)) else some (some size)

def read? (text : List Char) : Option Moment := do
  let year ← readNumber? (text.take 4)
  let month ← readNumber? ((text.drop 5).take 2)
  let day ← readNumber? ((text.drop 8).take 2)
  let hour ← readNumber? ((text.drop 11).take 2)
  let minute ← readNumber? ((text.drop 14).take 2)
  let second ← readNumber? ((text.drop 17).take 2)
  let rest := text.drop 19
  let fraction := match rest with
    | '.' :: digits => digits.takeWhile fun c => (Text.digitValue? c).isSome
    | _ => []
  let micros ← readNumber? ((fraction ++ List.replicate 6 '0').take 6)
  let offset ← readOffset? (rest.drop (if fraction.isEmpty then 0 else fraction.length + 1))
  let days := Date.toDays ⟨year, month, day⟩
  some ⟨(days * 86400 + hour * 3600 + minute * 60 + second) * 1000000 + micros, offset⟩

end Moment
end ClusterCensus
