import ClusterCensus.Quantity.Parts
import ClusterCensus.Text.Case
import ClusterCensus.Value.Display

/-!
# What a quantity counts

CPU is counted in millicores, rounded up. Without a unit a quantity counts cores, and so does any
quantity less than one; otherwise the unit says how many of it make a millicore.

Memory is counted in bytes. The case of a suffix does not matter. A whole number is multiplied
exactly, whatever its size; a number with a point is multiplied on the binary64 grid and rounded
up.

Capacities such as the number of pods are plain integers. A value that is not one, once written as
text and freed of surrounding blanks, has no count; nothing is rounded or guessed.
-/
namespace ClusterCensus.Quantity

open ClusterCensus.Text ClusterCensus.Numeral ClusterCensus.Binary64

/-! ### CPU -/

/-- How many of a CPU unit make a millicore. -/
def cpuDivisor? : List Char → Option Nat
  | ['m'] => some 1
  | ['u'] => some 1000
  | ['n'] => some 1000000
  | _ => none

/-- An unknown CPU unit is read as the smallest one. -/
def unknownCpuDivisor : Nat := 1000000

/-- The divisor of a unit; an unknown unit is noted. -/
def cpuDivisor (unit text : List Char) : Noted Nat :=
  match cpuDivisor? unit with
  | some divisor => pure divisor
  | none => do
    Trace.tell (.unknownCpuUnit (String.ofList unit) (String.ofList text))
    return unknownCpuDivisor

def Parts.millicores (parts : Parts) (text : List Char) : Noted Int :=
  if parts.magnitude.isBelowOne || parts.unit.isEmpty then
    roundUp (parts.magnitude.scale 1000)
  else do
    let divisor ← cpuDivisor parts.unit text
    roundUp (parts.magnitude.scale (1 / (divisor : Rat)))

/-- The millicores of a CPU quantity; one that says nothing counts as zero. -/
def millicores (text : List Char) : Noted Int :=
  match read? text with
  | none => pure 0
  | some parts => parts.millicores text

/-! ### Memory -/

/-- The bytes that a suffix in lower case stands for. -/
def memoryMultiplier? : List Char → Option Nat
  | [] => some 1
  | ['k', 'i'] => some 1024
  | ['m', 'i'] => some (1024 * 1024)
  | ['g', 'i'] => some (1024 * 1024 * 1024)
  | ['t', 'i'] => some (1024 * 1024 * 1024 * 1024)
  | ['k'] => some 1000
  | ['m'] => some (1000 * 1000)
  | ['g'] => some (1000 * 1000 * 1000)
  | _ => none

/-- An unknown suffix counts as binary kilobytes. -/
def unknownMemoryMultiplier : Nat := 1024

/-- The multiplier of a suffix in lower case; an unknown one is noted. -/
def memoryMultiplier (suffix text : List Char) : Noted Nat :=
  match memoryMultiplier? suffix with
  | some multiplier => pure multiplier
  | none => do
    Trace.tell (.unknownMemoryUnit (String.ofList suffix) (String.ofList text))
    return unknownMemoryMultiplier

/-- The number that whole digits denote, unless there are too many of them. -/
def wholeNumber (digits : List Nat) : Noted Nat :=
  if digitLimit < digits.length then .fail (.longNumeral digits.length)
  else pure (ofDigits digits)

def Parts.bytes (parts : Parts) (text : List Char) : Noted Int := do
  let multiplier ← memoryMultiplier (lower parts.unit) text
  match parts.decimal.fraction with
  | none =>
    let count ← wholeNumber parts.decimal.whole
    return (count * multiplier : Nat)
  | some _ => roundUp (parts.magnitude.scale multiplier)

/-- The bytes of a memory quantity; one that says nothing counts as zero. -/
def bytes (text : List Char) : Noted Int :=
  match read? text with
  | none => pure 0
  | some parts => parts.bytes text

/-! ### Plain counts -/

/-- The integer that a value holds, when it holds one. -/
def count? : Value → Option Int
  | .null => none
  | value =>
    match value.display with
    | .ok text => integer? (trim text)
    | .error _ => none

end ClusterCensus.Quantity
