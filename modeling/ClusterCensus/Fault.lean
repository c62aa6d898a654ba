import ClusterCensus.Text.Quoted
import ClusterCensus.Numeral.Basic
import ClusterCensus.Value.Basic

/-!
# Faults

Everything that can stop a piece of work, one constructor per cause. The wording of a fault is
given once, by `Fault.message`. A cycle fails in one of two ways, and the difference matters: a
failure to fetch has a wording of its own and is told apart in the notes.
-/
namespace ClusterCensus

open ClusterCensus.Text

/-- Why a piece of work stopped. -/
inductive Fault where
  /-- A quantity is too large for a binary64 number. -/
  | infiniteQuantity
  /-- A numeral of so many digits is too long to be read. -/
  | longNumeral (digits : Nat)
  /-- An integer is too long to be written. -/
  | longInteger
  /-- A record holds an infinite number or no number. -/
  | unwritableFloat
  /-- A record holds a value that lines have no form for. -/
  | unwritableKind (kind : Value.Kind)
  /-- A value that should have fields has none. -/
  | noFields (kind : Value.Kind)
  /-- A list or an object stands where an index needs a key. -/
  | unusableKey (kind : Value.Kind)
  /-- A value that should have items has none. -/
  | noItems (kind : Value.Kind)
  /-- The gateway has no credentials. -/
  | unconfigured
  /-- The metrics interface does not serve this kind of object. -/
  | unknownResource (group version kind : String)
  /-- The cluster refused a request. -/
  | fetchRefused (reason : String)
  /-- The clock could not be read. -/
  | clockRefused (reason : String)
  /-- The sink did not take a line. -/
  | sinkRefused (reason : String)
  /-- A setting is neither true nor false. -/
  | notBoolean (name value : String)
  /-- There is no such level of logging. -/
  | unknownLevel (level : String)
  /-- Credentials could not be read. -/
  | unreadableCredentials (reason : String)
deriving DecidableEq

/-- What is said of a number with too many digits. -/
def overLimit : String :=
  s!"Exceeds the limit ({Numeral.digitLimit} digits) for integer string conversion"

/-- How the limit on digits can be raised. -/
def raiseLimit : String :=
  "; use sys.set_int_max_str_digits() to increase the limit"

def Fault.message : Fault → String
  | infiniteQuantity => "cannot convert float infinity to integer"
  | longNumeral digits => overLimit ++ s!": value has {digits} digits" ++ raiseLimit
  | longInteger => overLimit ++ raiseLimit
  | unwritableFloat => "Out of range float values are not JSON compliant"
  | unwritableKind kind => s!"Object of type {kind.name} is not JSON serializable"
  | noFields kind => s!"{quoted kind.name} object has no attribute 'get'"
  | unusableKey kind => s!"unhashable type: {quoted kind.name}"
  | noItems kind => s!"{quoted kind.name} object is not iterable"
  | unconfigured => "kubernetes client is not configured"
  | unknownResource group version kind => s!"unable to resolve {group}/{version} kind {kind}"
  | fetchRefused reason => reason
  | clockRefused reason => reason
  | sinkRefused reason => reason
  | notBoolean name value => s!"{name} must be a boolean, got {quoted value}"
  | unknownLevel level => s!"Unknown level: {quoted level}"
  | unreadableCredentials reason => reason

/-- How a cycle fails: before its data was complete, or at its work. -/
inductive CycleFault where
  | fetchFailed (cause : Fault)
  | workFailed (cause : Fault)
deriving DecidableEq

def CycleFault.message : CycleFault → String
  | fetchFailed cause => "fetch failed: " ++ cause.message
  | workFailed cause => cause.message

end ClusterCensus
