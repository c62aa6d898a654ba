import ClusterCensus.Value.Basic

/-!
# Reading JSON

The other side of record lines is a reader for JSON text. It takes blanks between tokens, every
escape of a string, and numbers with fraction and exponent; a number without either is an integer
of any size. Fields keep their order.

A string is read in two steps: first as code units, in which an escape stands for one unit, then
as characters, where a high surrogate and the low one behind it make a single character. A
surrogate that stands alone makes no text.
-/
namespace ClusterCensus.Value

/-! ### Strings -/

/-- The character is a blank between tokens. -/
def isGap (c : Char) : Bool :=
  c == ' ' || c == '\t' || c == '\n' || c == '\r'

def skipGap (input : List Char) : List Char :=
  input.dropWhile isGap

def hexValue? (c : Char) : Option Nat :=
  if '0' ≤ c && c ≤ '9' then some (c.toNat - 48)
  else if 'a' ≤ c && c ≤ 'f' then some (c.toNat - 87)
  else if 'A' ≤ c && c ≤ 'F' then some (c.toNat - 55)
  else none

/-- The unit of four hexadecimal digits. -/
def hexUnit? (a b c d : Char) : Option Nat := do
  let high ← hexValue? a
  let middle ← hexValue? b
  let low ← hexValue? c
  let last ← hexValue? d
  return ((high * 16 + middle) * 16 + low) * 16 + last

/-- The unit of a one letter escape. -/
def escapedUnit? (c : Char) : Option Nat :=
  if c == '"' || c == '\\' || c == '/' then some c.toNat
  else if c == 'b' then some 8
  else if c == 'f' then some 12
  else if c == 'n' then some 10
  else if c == 'r' then some 13
  else if c == 't' then some 9
  else none

/-- Reads the units of a string up to the quote that ends it. -/
def readUnits : List Char → Option (List Nat × List Char)
  | [] => none
  | '"' :: rest => some ([], rest)
  | '\\' :: 'u' :: a :: b :: c :: d :: rest => do
    let unit ← hexUnit? a b c d
    let (units, after) ← readUnits rest
    return (unit :: units, after)
  | '\\' :: escape :: rest => do
    let unit ← escapedUnit? escape
    let (units, after) ← readUnits rest
    return (unit :: units, after)
  | c :: rest =>
    if c == '\\' || c.toNat < 32 then none
    else do
      let (units, after) ← readUnits rest
      return (c.toNat :: units, after)

/-- The unit opens a pair of surrogates. -/
def isHighSurrogate (unit : Nat) : Bool :=
  0xD800 ≤ unit && unit < 0xDC00

def isLowSurrogate (unit : Nat) : Bool :=
  0xDC00 ≤ unit && unit < 0xE000

def pairedChar (high low : Nat) : Char :=
  Char.ofNat (0x10000 + (high - 0xD800) * 0x400 + (low - 0xDC00))

/-- The characters that units make. -/
def joinUnits : List Nat → Option (List Char)
  | [] => some []
  | [unit] =>
    if isHighSurrogate unit || isLowSurrogate unit then none else some [Char.ofNat unit]
  | unit :: next :: rest =>
    if isHighSurrogate unit then
      if isLowSurrogate next then (joinUnits rest).map (pairedChar unit next :: ·) else none
    else if isLowSurrogate unit then none
    else (joinUnits (next :: rest)).map (Char.ofNat unit :: ·)

/-- Reads a string behind its opening quote. -/
def readText (input : List Char) : Option (String × List Char) := do
  let (units, after) ← readUnits input
  let chars ← joinUnits units
  return (String.ofList chars, after)

/-! ### Numbers -/

def isPlainDigit (c : Char) : Bool :=
  '0' ≤ c && c ≤ '9'

/-- The number that ASCII digits denote. -/
def plainNumber (digits : List Char) : Nat :=
  Numeral.ofDigits (digits.map fun c => c.toNat - 48)

/-- Reads digits, of which there must be one at least. -/
def readDigits (input : List Char) : Option (List Char × List Char) :=
  let digits := input.takeWhile isPlainDigit
  if digits.isEmpty then none else some (digits, input.dropWhile isPlainDigit)

def readFraction : List Char → Option (Option (List Char) × List Char)
  | '.' :: rest => (readDigits rest).map fun (digits, after) => (some digits, after)
  | input => some (none, input)

/-- Reads the digits of an exponent behind its mark. -/
def readPower : List Char → Option (Int × List Char)
  | '-' :: rest => (readDigits rest).map fun (digits, after) => (-(plainNumber digits : Int), after)
  | '+' :: rest => (readDigits rest).map fun (digits, after) => ((plainNumber digits : Int), after)
  | input => (readDigits input).map fun (digits, after) => ((plainNumber digits : Int), after)

def readExponent : List Char → Option (Option Int × List Char)
  | 'e' :: rest | 'E' :: rest => (readPower rest).map fun (power, after) => (some power, after)
  | input => some (none, input)

/-- Whole digits do not start with a needless zero. -/
def isCanonical : List Char → Bool
  | '0' :: _ :: _ => false
  | _ => true

def numberOf (negative : Bool) (whole : List Char) (fraction : Option (List Char))
    (exponent : Option Int) : Value :=
  match fraction, exponent with
  | none, none =>
    let size : Int := plainNumber whole
    int (if negative then -size else size)
  | _, _ =>
    let decimals := fraction.getD []
    let power := exponent.getD 0 - (decimals.length : Int)
    let size := (plainNumber (whole ++ decimals) : Rat) * (10 : Rat) ^ power
    float (.signed negative (.ofRat size))

def readSize (negative : Bool) (input : List Char) : Option (Value × List Char) := do
  let (whole, rest) ← readDigits input
  let (fraction, rest) ← readFraction rest
  let (exponent, rest) ← readExponent rest
  if isCanonical whole then some (numberOf negative whole fraction exponent, rest) else none

def readNumber : List Char → Option (Value × List Char)
  | '-' :: rest => readSize true rest
  | input => readSize false input

/-! ### Values -/

mutual

/-- Reads a value; the first argument bounds the number of nested steps. -/
def readValue : Nat → List Char → Option (Value × List Char)
  | 0, _ => none
  | steps + 1, input =>
    match skipGap input with
    | 'n' :: 'u' :: 'l' :: 'l' :: rest => some (null, rest)
    | 't' :: 'r' :: 'u' :: 'e' :: rest => some (bool true, rest)
    | 'f' :: 'a' :: 'l' :: 's' :: 'e' :: rest => some (bool false, rest)
    | '"' :: rest => (readText rest).map fun (s, after) => (Value.text s, after)
    | '[' :: rest =>
      match skipGap rest with
      | ']' :: after => some (list [], after)
      | inside => (readItems steps inside).map fun (items, after) => (list items, after)
    | '\x7b' :: rest =>
      match skipGap rest with
      | '\x7d' :: after => some (object [], after)
      | inside => (readFields steps inside).map fun (fields, after) => (object fields, after)
    | rest => readNumber rest

def readItems : Nat → List Char → Option (List Value × List Char)
  | 0, _ => none
  | steps + 1, input => do
    let (item, rest) ← readValue steps input
    match skipGap rest with
    | ']' :: after => some ([item], after)
    | ',' :: more => (readItems steps more).map fun (items, after) => (item :: items, after)
    | _ => none

def readFields : Nat → List Char → Option (List (String × Value) × List Char)
  | 0, _ => none
  | steps + 1, input =>
    match skipGap input with
    | '"' :: rest => do
      let (name, rest) ← readText rest
      match skipGap rest with
      | ':' :: rest => do
        let (item, rest) ← readValue steps rest
        match skipGap rest with
        | '\x7d' :: after => some ([(name, item)], after)
        | ',' :: more =>
          (readFields steps more).map fun (fields, after) => ((name, item) :: fields, after)
        | _ => none
      | _ => none
    | _ => none

end

/-- Reads a JSON text that holds one value and nothing else. -/
def decode? (input : List Char) : Option Value :=
  match readValue (2 * input.length + 2) input with
  | some (value, rest) => if (skipGap rest).isEmpty then some value else none
  | none => none

end ClusterCensus.Value
