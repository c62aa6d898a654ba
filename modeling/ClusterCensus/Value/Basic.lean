import ClusterCensus.Binary64.Basic
import ClusterCensus.Table

/-!
# Dynamic values

What the metrics server reports, what a limit or a capacity may hold, and what a record line
carries are values of one type: scalars, lists, and objects whose fields keep their order.
-/
namespace ClusterCensus

inductive Value where
  | null
  | bool (b : Bool)
  | int (n : Int)
  | float (x : Binary64)
  | text (s : String)
  | bytes (s : String)
  | list (items : List Value)
  | object (fields : List (String × Value))
deriving Inhabited

/-- Fields of an object or a record, in order. -/
abbrev Fields := List (String × Value)

namespace Value

inductive Kind where
  | null
  | bool
  | int
  | float
  | text
  | bytes
  | list
  | object
deriving DecidableEq

def Kind.name : Kind → String
  | null => "NoneType"
  | bool => "bool"
  | int => "int"
  | float => "float"
  | text => "str"
  | bytes => "bytes"
  | list => "list"
  | object => "dict"

def kind : Value → Kind
  | null => .null
  | bool _ => .bool
  | int _ => .int
  | float _ => .float
  | text _ => .text
  | bytes _ => .bytes
  | list _ => .list
  | object _ => .object

/-- The value says something: it is not null, false, a zero or empty. -/
def isTruthy : Value → Bool
  | null => false
  | bool b => b
  | int n => n != 0
  | float x => !x.isZero
  | text s => !s.isEmpty
  | bytes s => !s.isEmpty
  | list items => !items.isEmpty
  | object fields => !fields.isEmpty

/-- The value, or a substitute when it says nothing. -/
def orElse (value substitute : Value) : Value :=
  if value.isTruthy then value else substitute

/-- What makes a value the key it is. Numbers of all kinds and truth values are alike when they
are equal. -/
inductive KeyForm where
  | null
  | text (s : String)
  | bytes (s : String)
  | number (q : Rat)
  | infinite (negative : Bool)
deriving DecidableEq

/-- The key that a value makes; lists and objects make none, nor does a value that is no number. -/
def keyForm? : Value → Option KeyForm
  | null => some .null
  | bool b => some (.number (if b then 1 else 0))
  | int n => some (.number n)
  | float .nan => none
  | float (.signed negative .infinite) => some (.infinite negative)
  | float (.signed negative (.finite size)) => some (.number (if negative then -size else size))
  | text s => some (.text s)
  | bytes s => some (.bytes s)
  | list _ => none
  | object _ => none

/-- Two values are the same key of an index. -/
def sameKey (a b : Value) : Bool :=
  a.keyForm?.isSome && a.keyForm? == b.keyForm?

theorem sameKey_symm {a b : Value} (same : a.sameKey b = true) : b.sameKey a = true := by
  simp only [sameKey, Bool.and_eq_true, beq_iff_eq] at same ⊢
  exact ⟨same.2 ▸ same.1, same.2.symm⟩

theorem sameKey_trans {a b c : Value} (left : a.sameKey b = true) (right : b.sameKey c = true) :
    a.sameKey c = true := by
  simp only [sameKey, Bool.and_eq_true, beq_iff_eq] at left right ⊢
  exact ⟨left.1, left.2.trans right.2⟩

/-- Only a text is the same key as a text, and only an equal one. -/
theorem sameKey_text {a : Value} {s : String} : a.sameKey (text s) = true ↔ a = text s := by
  constructor
  · intro same
    simp only [sameKey, Bool.and_eq_true, beq_iff_eq] at same
    cases a with
    | float x =>
      rcases x with _ | ⟨_, _ | _⟩ <;> simp [keyForm?] at same
    | _ => simp_all [keyForm?]
  · rintro rfl
    simp [sameKey, keyForm?]

def ofText? : Option String → Value
  | some s => text s
  | none => null

def ofInt? : Option Int → Value
  | some n => int n
  | none => null

end Value

namespace Fields

/-- The value of a field, null when there is none of that name. -/
def get (fields : Fields) (name : String) : Value :=
  (fields.lookup name).getD .null

/-- The fields of a list of bindings in which the last binding of a name holds. -/
def ofBindings (bindings : Fields) : Fields :=
  (Table.ofBindings bindings).entries

/-- The value has nothing to show on a line: it is null or the empty text. -/
def isBlankValue : Value → Bool
  | .null => true
  | .text s => s.isEmpty
  | _ => false

/-- Drops the fields that are null or empty; zeros and false are kept. -/
def compact (fields : Fields) : Fields :=
  fields.filter fun field => !isBlankValue field.2

end Fields
end ClusterCensus
