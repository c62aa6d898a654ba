import ClusterCensus.Record.Container
import ClusterCensus.Record.Node
import ClusterCensus.Value.Line
import Mathlib.Algebra.Group.Nat.Defs
import Mathlib.Data.List.Forall2

/-!
# Records that have no line

The values of a record are texts, truth values and integers, and a record is not nested. So there
is one reason only for a record to have no line: one of its integers is too long to be written.

## Main results

`ContainerRecord.line?_eq_none_iff` and `NodeRecord.line?_eq_none_iff`: a record has no line exactly
when it holds an integer of more digits than may be written.
-/
namespace ClusterCensus

namespace Value

/-- The value is neither a float nor bytes, and it holds no other values. -/
def isPlain : Value → Bool
  | null | bool _ | int _ | text _ => true
  | float _ | bytes _ | list _ | object _ => false

@[simp]
theorem isPlain_bool (b : Bool) : (bool b).isPlain = true := rfl

@[simp]
theorem isPlain_int (n : Int) : (int n).isPlain = true := rfl

@[simp]
theorem isPlain_text (s : String) : (text s).isPlain = true := rfl

@[simp]
theorem isPlain_ofInt? (n : Option Int) : (ofInt? n).isPlain = true := by
  cases n <;> rfl

/-- The value is an integer of more decimal digits than may be written. -/
def IsLongInteger : Value → Prop
  | int n => 10 ^ Numeral.digitLimit ≤ n.natAbs
  | _ => False

instance : DecidablePred IsLongInteger
  | int n => inferInstanceAs (Decidable (10 ^ Numeral.digitLimit ≤ n.natAbs))
  | null | bool _ | float _ | text _ | bytes _ | list _ | object _ => .isFalse id

end Value

theorem Numeral.isTooLong_iff (n : Int) :
    Numeral.isTooLong n = true ↔ 10 ^ Numeral.digitLimit ≤ n.natAbs := by
  have bounded := Nat.length_toDigits_le_iff (b := 10) (n := n.natAbs) (k := Numeral.digitLimit)
    (by decide) (by decide)
  rw [Numeral.isTooLong, decide_eq_true_eq, Numeral.naturalDigits, ← Nat.not_le, bounded,
    Nat.not_lt]

namespace Value

/-- Among values that hold no others, a long integer alone has no text. -/
theorem encode_of_plain {v : Value} (plain : v.isPlain = true) :
    (v.IsLongInteger ∧ v.encode = .error .longInteger) ∨
      (¬v.IsLongInteger ∧ ∃ chars, v.encode = .ok chars) := by
  cases v with
  | int n =>
    rw [encode, integerText, IsLongInteger, ← Numeral.isTooLong_iff]
    split
    next tooLong => exact .inl ⟨tooLong, rfl⟩
    next fits => exact .inr ⟨fits, _, rfl⟩
  | null => exact .inr ⟨id, _, rfl⟩
  | bool b => cases b <;> exact .inr ⟨id, _, rfl⟩
  | text s => exact .inr ⟨id, _, rfl⟩
  | _ => cases plain

/-- A record has no text exactly when a long integer is in it. -/
theorem encodeFields_of_plain {fields : Fields} (plain : ∀ field ∈ fields, field.2.isPlain = true) :
    ((∃ field ∈ fields, field.2.IsLongInteger) ∧ encodeFields fields = .error .longInteger) ∨
      ((∀ field ∈ fields, ¬field.2.IsLongInteger) ∧ ∃ parts, encodeFields fields = .ok parts) := by
  induction fields with
  | nil => exact .inr ⟨by simp, [], rfl⟩
  | cons field rest ih =>
    obtain ⟨name, value⟩ := field
    have later := ih fun other member => plain other (.tail _ member)
    rw [encodeFields]
    have one := encode_of_plain (plain (name, value) (.head _))
    rcases one with ⟨long, fails⟩ | ⟨fits, chars, written⟩
    · -- The first value that cannot be written stops the others.
      refine .inl ⟨⟨_, .head _, long⟩, ?_⟩
      rw [fails]
      rfl
    · rw [written]
      rcases later with ⟨⟨other, member, long⟩, fails⟩ | ⟨allFit, parts, restWritten⟩
      · refine .inl ⟨⟨other, .tail _ member, long⟩, ?_⟩
        rw [fails]
        rfl
      · refine .inr ⟨?_, _, by rw [restWritten]; rfl⟩
        simpa [fits] using allFit

end Value

namespace Fields

/-- Some field is an integer of more decimal digits than may be written. -/
def HasLongInteger (fields : Fields) : Prop :=
  ∃ field ∈ fields, field.2.IsLongInteger

instance : DecidablePred HasLongInteger :=
  fun fields => inferInstanceAs (Decidable (∃ field ∈ fields, field.2.IsLongInteger))

/-- The line of a record, if it has one. -/
def line? (fields : Fields) : Option String :=
  (Value.line (.object fields)).toOption

/-- Plain fields have a line unless one of the integers is too long, and there is no other fault. -/
theorem line_of_plain {fields : Fields} (plain : ∀ field ∈ fields, field.2.isPlain = true) :
    (fields.HasLongInteger ∧ Value.line (.object fields) = .error .longInteger) ∨
      (¬fields.HasLongInteger ∧ ∃ line, Value.line (.object fields) = .ok line) := by
  simp only [Value.line, Value.encode, Value.encodeFields]
  rcases Value.encodeFields_of_plain plain with ⟨long, fails⟩ | ⟨fit, parts, written⟩
  · exact .inl ⟨long, by rw [fails]; rfl⟩
  · refine .inr ⟨?_, _, by rw [written]; rfl⟩
    simpa [HasLongInteger] using fit

theorem line?_eq_none_iff {fields : Fields} (plain : ∀ field ∈ fields, field.2.isPlain = true) :
    fields.line? = none ↔ fields.HasLongInteger := by
  rcases line_of_plain plain with ⟨long, fails⟩ | ⟨fit, line, written⟩
  · simp [line?, fails, Except.toOption, long]
  · simp [line?, written, Except.toOption, fit]

theorem countP_add_countP (records : List Fields) :
    records.countP (¬HasLongInteger ·) + records.countP (HasLongInteger ·) = records.length := by
  have split := List.length_eq_countP_add_countP (HasLongInteger ·) (l := records)
  simp only [decide_not, Bool.decide_eq_true] at split ⊢
  omega

theorem length_filter_isNone_of_plain {records : List Fields}
    (plain : ∀ fields ∈ records, ∀ field ∈ fields, field.2.isPlain = true) :
    (records.filter (·.line?.isNone)).length = records.countP (HasLongInteger ·) := by
  rw [← List.countP_eq_length_filter]
  refine List.countP_congr fun fields member => ?_
  simpa using line?_eq_none_iff (plain fields member)

/-- The lines of plain records are those of the records without an integer that is too long. -/
theorem lines_of_plain {records : List Fields}
    (plain : ∀ fields ∈ records, ∀ field ∈ fields, field.2.isPlain = true) :
    List.Forall₂ (fun fields line => Value.line (.object fields) = .ok line)
      (records.filter (¬HasLongInteger ·)) (records.filterMap line?) := by
  induction records with
  | nil => exact .nil
  | cons fields rest ih =>
    have later := ih fun other member => plain other (.tail _ member)
    rcases line_of_plain (plain fields (.head _)) with ⟨long, fails⟩ | ⟨fits, line, written⟩
    · have unwritten : fields.line? = none := by rw [line?, fails]; rfl
      rw [List.filterMap_cons_none unwritten]
      simpa [long] using later
    · have kept : fields.line? = some line := by rw [line?, written]; rfl
      rw [List.filterMap_cons_some kept]
      simpa [fits, written] using later

/-- The lines are as many as the records without a long integer. -/
theorem length_lines_of_plain {records : List Fields}
    (plain : ∀ fields ∈ records, ∀ field ∈ fields, field.2.isPlain = true) :
    (records.filterMap line?).length = records.countP (¬HasLongInteger ·) := by
  rw [List.countP_eq_length_filter, (lines_of_plain plain).length_eq]

theorem plain_compact {fields : Fields} (plain : ∀ field ∈ fields, field.2.isPlain = true) :
    ∀ field ∈ compact fields, field.2.isPlain = true :=
  fun field member => plain field (List.mem_filter.mp member).1

end Fields

/-! ## Main results -/

theorem ContainerRecord.plain_fields (r : ContainerRecord) :
    ∀ field ∈ r.fields, field.2.isPlain = true := by
  have pod : ∀ field ∈ r.pod.allFields, field.2.isPlain = true := by
    simp [PodFacts.allFields]
  have container : ∀ field ∈ r.container.allFields, field.2.isPlain = true := by
    simp [ContainerFacts.allFields]
  have controller : ∀ field ∈ r.controller.fields, field.2.isPlain = true := by
    simp [ControllerTally.fields]
  intro field member
  simp only [ContainerRecord.fields, List.mem_append] at member
  rcases member with (member | member) | member
  · exact Fields.plain_compact pod field member
  · exact Fields.plain_compact container field member
  · exact controller field member

theorem NodeRecord.plain_fields (n : NodeRecord) : ∀ field ∈ n.fields, field.2.isPlain = true := by
  have node : ∀ field ∈ n.allFields, field.2.isPlain = true := by
    simp [NodeRecord.allFields]
  have pods : ∀ field ∈ n.pods.fields, field.2.isPlain = true := by
    simp [PodTally.fields]
  have containers : ∀ field ∈ n.containers.fields, field.2.isPlain = true := by
    simp [ContainerTally.fields]
  intro field member
  simp only [NodeRecord.fields, List.mem_append] at member
  rcases member with (member | member) | member
  · exact Fields.plain_compact node field member
  · exact pods field member
  · exact containers field member

/-- A container record has no line exactly when one of its integers is too long. -/
theorem ContainerRecord.line?_eq_none_iff (r : ContainerRecord) :
    r.fields.line? = none ↔ r.fields.HasLongInteger :=
  Fields.line?_eq_none_iff r.plain_fields

/-- A node record has no line exactly when one of its integers is too long. -/
theorem NodeRecord.line?_eq_none_iff (n : NodeRecord) :
    n.fields.line? = none ↔ n.fields.HasLongInteger :=
  Fields.line?_eq_none_iff n.plain_fields

end ClusterCensus
