import ClusterCensus.Proofs.Record.Line
import ClusterCensus.Proofs.Value.Integers

/-!
# Lines decode back

A record is written without spaces, and every part of it is delimited: a value begins with a
character that ends no list and no object, and it is followed by a comma or a bracket. So a reader
of JSON that is given the line of a record finds each value where it was put, and reads the record.

## Main result

`line_reads_back`: the line of a record, its characters, and what is read from it.
-/
namespace ClusterCensus.Value

/-- The value holds neither floats nor bytes, and no integer that is too long to be written. -/
inductive IsWritable : Value → Prop where
  | null : IsWritable null
  | bool (b : Bool) : IsWritable (bool b)
  | int {n : Int} (short : ¬IsLongInteger (int n)) : IsWritable (int n)
  | text (s : String) : IsWritable (text s)
  | list {items : List Value} (each : ∀ item ∈ items, IsWritable item) : IsWritable (list items)
  | object {fields : Fields} (each : ∀ field ∈ fields, IsWritable field.2) :
      IsWritable (object fields)

/-! ### Written values -/

/-- The first character of a text is no gap and closes neither a list nor an object. -/
def Opens : List Char → Prop
  | [] => False
  | c :: _ => isGap c = false ∧ c ≠ ']' ∧ c ≠ '\x7d'

/-- The text is visible and delimited, and the reader takes it for the value. The steps that it
needs are bounded by the length of the text. -/
structure Writes (text : List Char) (v : Value) : Prop where
  visible : ∀ c ∈ text, IsVisible c
  opens : Opens text
  reads : ∀ steps rest, 2 * text.length ≤ steps → Closes rest →
    readValue steps (text ++ rest) = some (v, rest)

theorem skipGap_cons {c : Char} (solid : isGap c = false) (rest : List Char) :
    skipGap (c :: rest) = c :: rest := by
  rw [skipGap, List.dropWhile_cons_of_neg (by simp [solid])]

theorem Opens.append {text : List Char} (opens : Opens text) (rest : List Char) :
    Opens (text ++ rest) := by
  cases text with
  | nil => exact opens.elim
  | cons c text => exact opens

/-- A text that opens a value is not empty, so there is a first step to read it with. -/
theorem Writes.of_step {text : List Char} {v : Value} (visible : ∀ c ∈ text, IsVisible c)
    (opens : Opens text)
    (reads : ∀ k rest, 2 * text.length ≤ k + 1 → Closes rest →
      readValue (k + 1) (text ++ rest) = some (v, rest)) : Writes text v := by
  refine ⟨visible, opens, ?_⟩
  intro steps rest enough closes
  cases steps with
  | zero =>
    -- A text that opens is not empty, so there is a step to begin with.
    cases text with
    | nil => exact opens.elim
    | cons c text => simp at enough
  | succ k => exact reads k rest enough closes

/-! ### Scalars -/

theorem encodeText_append (s : String) (rest : List Char) :
    encodeText s ++ rest = '"' :: (s.toList.flatMap escapeChar ++ '"' :: rest) := by
  simp [encodeText]

theorem writes_null : Writes ['n', 'u', 'l', 'l'] null :=
  .of_step (by simp [IsVisible]) ⟨rfl, by decide, by decide⟩ fun _ _ _ _ => rfl

theorem writes_true : Writes ['t', 'r', 'u', 'e'] (bool true) :=
  .of_step (by simp [IsVisible]) ⟨rfl, by decide, by decide⟩ fun _ _ _ _ => rfl

theorem writes_false : Writes ['f', 'a', 'l', 's', 'e'] (bool false) :=
  .of_step (by simp [IsVisible]) ⟨rfl, by decide, by decide⟩ fun _ _ _ _ => rfl

theorem writes_text (s : String) : Writes (encodeText s) (text s) := by
  apply Writes.of_step (visible_encodeText s) ⟨rfl, by decide, by decide⟩
  intro k rest _ _
  rw [encodeText_append, readValue, skipGap_cons (by decide)]
  simp only [readText_escaped]
  rfl

/-- A digit or a sign is where a number begins, and nothing else begins there. -/
theorem number_first {c : Char} (first : c = '-' ∨ isPlainDigit c = true) :
    IsVisible c ∧ Opens [c] ∧
      c ≠ 'n' ∧ c ≠ 't' ∧ c ≠ 'f' ∧ c ≠ '"' ∧ c ≠ '[' ∧ c ≠ '\x7b' := by
  rcases first with rfl | digit
  · exact ⟨by decide, ⟨rfl, by decide, by decide⟩, by decide⟩
  · -- What is no digit differs from the first character of a number.
    have other (mark : Char) (none : isPlainDigit mark = false) : c ≠ mark := by
      rintro rfl
      rw [digit] at none
      cases none
    refine ⟨?_, ⟨?_, other _ rfl, other _ rfl⟩, other _ rfl, other _ rfl, other _ rfl, other _ rfl,
      other _ rfl, other _ rfl⟩
    · simp only [isPlainDigit, Bool.and_eq_true, decide_eq_true_eq, Char.le_def,
        UInt32.le_iff_toNat_le] at digit
      exact ⟨Nat.le_trans (by decide) digit.1, Nat.le_trans digit.2 (by decide)⟩
    · simp only [isGap, Bool.or_eq_false_iff, beq_eq_false_iff_ne]
      exact ⟨⟨⟨other _ rfl, other _ rfl⟩, other _ rfl⟩, other _ rfl⟩

theorem readValue_number {c : Char} (first : c = '-' ∨ isPlainDigit c = true) (steps : Nat)
    (rest : List Char) : readValue (steps + 1) (c :: rest) = readNumber (c :: rest) := by
  obtain ⟨-, ⟨solid, -, -⟩, others⟩ := number_first first
  rw [readValue, skipGap_cons solid]
  -- Every other kind of value begins with one of the excluded characters.
  split <;> simp_all

theorem integerDigits_first (n : Int) :
    ∃ c rest, Numeral.integerDigits n = c :: rest ∧ (c = '-' ∨ isPlainDigit c = true) ∧
      ∀ digit ∈ rest, isPlainDigit digit = true := by
  unfold Numeral.integerDigits
  split
  · exact ⟨_, _, rfl, .inl rfl, fun _ => isPlainDigit_of_mem⟩
  · obtain ⟨c, rest, split⟩ := List.exists_cons_of_ne_nil (naturalDigits_ne_nil n.natAbs)
    have each : ∀ digit ∈ c :: rest, isPlainDigit digit = true := by
      rw [← split]
      exact fun _ => isPlainDigit_of_mem
    exact ⟨c, rest, split, .inr (each c (.head _)), fun digit member => each digit (.tail _ member)⟩

/-- An integer is read back from its digits. -/
theorem writes_int (n : Int) : Writes (Numeral.integerDigits n) (int n) := by
  obtain ⟨c, digits, split, first, each⟩ := integerDigits_first n
  have read (rest : List Char) (closes : Closes rest) := readNumber_integerDigits n closes
  rw [split] at read ⊢
  obtain ⟨visible, opens, -⟩ := number_first first
  refine .of_step ?_ opens ?_
  · intro own member
    rcases List.mem_cons.mp member with rfl | member
    · exact visible
    · exact (number_first (.inr (each own member))).1
  · intro k rest _ closes
    rw [List.cons_append, readValue_number first]
    exact read rest closes

/-! ### Parts between brackets -/

section Parts

variable {α : Type} {R : List Char → α → Prop} {parts : List (List Char)} {found : List α}

/-- Parts that are joined by commas are read one by one, if each of them can be read up to the comma
behind it, and up to the bracket when it is the last. -/
theorem read_joined {read : Nat → List Char → Option (List α × List Char)} {bracket : Char}
    (last : ∀ part one k rest, R part one → 2 * part.length ≤ k →
      read (k + 1) (part ++ bracket :: rest) = some ([one], rest))
    (more : ∀ part one k rest, R part one → 2 * part.length ≤ k →
      read (k + 1) (part ++ ',' :: rest) = (read k rest).map fun others =>
        (one :: others.1, others.2))
    (written : List.Forall₂ R parts found) (filled : parts ≠ []) (steps : Nat) (rest : List Char)
    (enough : 2 * (List.intercalate [','] parts).length < steps) :
    read steps (List.intercalate [','] parts ++ bracket :: rest) = some (found, rest) := by
  -- Each part takes one step, and the parts behind it are read in one step less.
  induction written generalizing steps with
  | nil => exact absurd rfl filled
  | @cons part one parts found written others ih =>
    obtain ⟨k, rfl⟩ : ∃ k, steps = k + 1 := ⟨steps - 1, by omega⟩
    cases others with
    | nil =>
      rw [List.intercalate_singleton] at enough ⊢
      exact last part one k rest written (by omega)
    | @cons next two parts found nextWritten others =>
      rw [List.intercalate_cons_cons, List.length_append, List.length_append,
        List.length_singleton] at enough
      have onward := ih (by simp) k (by omega)
      rw [List.intercalate_cons_cons, List.append_assoc, List.append_assoc, List.singleton_append,
        more part one k _ written (by omega), onward]
      rfl

theorem opens_joined (opens : ∀ part one, R part one → Opens part)
    (written : List.Forall₂ R parts found) (filled : parts ≠ []) :
    Opens (List.intercalate [','] parts) := by
  cases written with
  | nil => exact absurd rfl filled
  | @cons part one parts found written others =>
    cases parts with
    | nil =>
      rw [List.intercalate_singleton]
      exact opens part one written
    | cons next parts =>
      rw [List.intercalate_cons_cons, List.append_assoc]
      exact (opens part one written).append _

theorem visible_joined (visible : ∀ part one, R part one → ∀ c ∈ part, IsVisible c)
    (written : List.Forall₂ R parts found) : ∀ c ∈ List.intercalate [','] parts, IsVisible c := by
  induction written with
  | nil => simp
  | @cons part one parts found written others ih =>
    intro c member
    cases parts with
    | nil =>
      rw [List.intercalate_singleton] at member
      exact visible part one written c member
    | cons next parts =>
      rw [List.intercalate_cons_cons, List.mem_append, List.mem_append,
        List.mem_singleton] at member
      rcases member with (member | rfl) | member
      · exact visible part one written c member
      · decide
      · exact ih c member

theorem visible_between {left right : Char} {inside : List Char} (one : IsVisible left)
    (other : IsVisible right) (visible : ∀ c ∈ inside, IsVisible c) :
    ∀ c ∈ left :: inside ++ [right], IsVisible c := by
  intro c member
  rw [List.mem_append, List.mem_cons, List.mem_singleton] at member
  rcases member with (rfl | member) | rfl
  · exact one
  · exact visible c member
  · exact other

end Parts

/-! ### Lists -/

theorem readItems_last {part : List Char} {item : Value} {k : Nat} {rest : List Char}
    (written : Writes part item) (enough : 2 * part.length ≤ k) :
    readItems (k + 1) (part ++ ']' :: rest) = some ([item], rest) := by
  have read := written.reads k (']' :: rest) enough (.inr (.inl rfl))
  rw [readItems, read]
  rfl

/-- Before a comma there is one item, and behind it come the others. -/
theorem readItems_more {part : List Char} {item : Value} {k : Nat} {rest : List Char}
    (written : Writes part item) (enough : 2 * part.length ≤ k) :
    readItems (k + 1) (part ++ ',' :: rest) = (readItems k rest).map fun others =>
      (item :: others.1, others.2) := by
  have read := written.reads k (',' :: rest) enough (.inl rfl)
  rw [readItems, read]
  rfl

theorem readValue_list {inside : List Char} (opens : Opens inside) (k : Nat) :
    readValue (k + 1) ('[' :: inside) =
      (readItems k inside).map fun items => (list items.1, items.2) := by
  cases inside with
  | nil => exact opens.elim
  | cons c inside =>
    obtain ⟨solid, bracket, -⟩ := opens
    rw [readValue, skipGap_cons (by decide)]
    simp only [skipGap_cons solid]
    split
    next same => simp_all
    next => rfl

/-- Items that are each read back are read back from a list. -/
theorem writes_list {parts : List (List Char)} {items : List Value}
    (written : List.Forall₂ Writes parts items) :
    Writes ('[' :: List.intercalate [','] parts ++ [']']) (list items) := by
  refine .of_step ?_ ⟨rfl, by decide, by decide⟩ ?_
  · apply visible_between (by decide) (by decide)
    exact visible_joined (fun _ _ one => one.visible) written
  · intro k rest enough _
    simp only [List.cons_append, List.append_assoc, List.nil_append, List.length_cons,
      List.length_append] at enough ⊢
    -- The reader looks for a closing bracket first, so the empty list is a case of its own.
    by_cases filled : parts = []
    · subst filled
      cases written
      rfl
    · have opens := opens_joined (fun _ _ one => one.opens) written filled
      rw [readValue_list (opens.append _),
        read_joined (fun _ _ _ _ => readItems_last) (fun _ _ _ _ => readItems_more) written filled k
          rest (by omega)]
      rfl

/-! ### Objects -/

/-- The text is the one of a field: a name, a colon and the text of a value. -/
def WritesField (part : List Char) (field : String × Value) : Prop :=
  ∃ text, part = encodeText field.1 ++ ':' :: text ∧ Writes text field.2

theorem WritesField.visible {part : List Char} {field : String × Value}
    (written : WritesField part field) : ∀ c ∈ part, IsVisible c := by
  obtain ⟨text, rfl, value⟩ := written
  intro c member
  rcases List.mem_append.mp member with member | member
  · exact visible_encodeText field.1 c member
  · rcases List.mem_cons.mp member with rfl | member
    · decide
    · exact value.visible c member

theorem WritesField.opens {part : List Char} {field : String × Value}
    (written : WritesField part field) : Opens part := by
  obtain ⟨text, rfl, -⟩ := written
  exact ⟨rfl, by decide, by decide⟩

theorem readFields_last {part : List Char} {field : String × Value} {k : Nat} {rest : List Char}
    (written : WritesField part field) (enough : 2 * part.length ≤ k) :
    readFields (k + 1) (part ++ '\x7d' :: rest) = some ([field], rest) := by
  obtain ⟨text, rfl, value⟩ := written
  have read := value.reads k ('\x7d' :: rest) (by simp at enough; omega) (.inr (.inr rfl))
  rw [List.append_assoc, encodeText_append, readFields, skipGap_cons (by decide)]
  simp only [readText_escaped, Option.bind_eq_bind, Option.bind_some, List.cons_append]
  rw [skipGap_cons (by decide)]
  simp only [read]
  rfl

theorem readFields_more {part : List Char} {field : String × Value} {k : Nat} {rest : List Char}
    (written : WritesField part field) (enough : 2 * part.length ≤ k) :
    readFields (k + 1) (part ++ ',' :: rest) = (readFields k rest).map fun others =>
      (field :: others.1, others.2) := by
  obtain ⟨text, rfl, value⟩ := written
  have read := value.reads k (',' :: rest) (by simp at enough; omega) (.inl rfl)
  rw [List.append_assoc, encodeText_append, readFields, skipGap_cons (by decide)]
  simp only [readText_escaped, Option.bind_eq_bind, Option.bind_some, List.cons_append]
  rw [skipGap_cons (by decide)]
  simp only [read]
  rfl

theorem readValue_object {inside : List Char} (opens : Opens inside) (k : Nat) :
    readValue (k + 1) ('\x7b' :: inside) =
      (readFields k inside).map fun fields => (object fields.1, fields.2) := by
  cases inside with
  | nil => exact opens.elim
  | cons c inside =>
    obtain ⟨solid, -, bracket⟩ := opens
    rw [readValue, skipGap_cons (by decide)]
    simp only [skipGap_cons solid]
    split
    next same => simp_all
    next => rfl

/-- Fields that are each read back are read back from an object. -/
theorem writes_object {parts : List (List Char)} {fields : Fields}
    (written : List.Forall₂ WritesField parts fields) :
    Writes ('\x7b' :: List.intercalate [','] parts ++ ['\x7d']) (object fields) := by
  refine .of_step ?_ ⟨rfl, by decide, by decide⟩ ?_
  · apply visible_between (by decide) (by decide)
    exact visible_joined (fun _ _ one => one.visible) written
  · intro k rest enough _
    simp only [List.cons_append, List.append_assoc, List.nil_append, List.length_cons,
      List.length_append] at enough ⊢
    by_cases filled : parts = []
    · subst filled
      cases written
      rfl
    · have opens := opens_joined (fun _ _ one => one.opens) written filled
      rw [readValue_object (opens.append _),
        read_joined (fun _ _ _ _ => readFields_last) (fun _ _ _ _ => readFields_more) written filled
          k rest (by omega)]
      rfl

/-! ### Writable values -/

/-- Items are encoded one by one. -/
theorem encodeItems_of_writes {items : List Value}
    (each : ∀ item ∈ items, ∃ text, item.encode = .ok text ∧ Writes text item) :
    ∃ parts, encodeItems items = .ok parts ∧ List.Forall₂ Writes parts items := by
  induction items with
  | nil => exact ⟨[], rfl, .nil⟩
  | cons item rest ih =>
    obtain ⟨text, encoded, written⟩ := each item (.head _)
    obtain ⟨parts, restEncoded, others⟩ := ih fun other member => each other (.tail _ member)
    refine ⟨text :: parts, ?_, .cons written others⟩
    rw [encodeItems, encoded, restEncoded]
    rfl

theorem encodeFields_of_writes {fields : Fields}
    (each : ∀ field ∈ fields, ∃ text, field.2.encode = .ok text ∧ Writes text field.2) :
    ∃ parts, encodeFields fields = .ok parts ∧ List.Forall₂ WritesField parts fields := by
  induction fields with
  | nil => exact ⟨[], rfl, .nil⟩
  | cons field rest ih =>
    obtain ⟨text, encoded, written⟩ := each field (.head _)
    obtain ⟨parts, restEncoded, others⟩ := ih fun other member => each other (.tail _ member)
    refine ⟨(encodeText field.1 ++ ':' :: text) :: parts, ?_, .cons ⟨text, rfl, written⟩ others⟩
    rw [encodeFields, encoded, restEncoded]
    rfl

/-- A writable value has a text, and the reader takes the text for the value. -/
theorem IsWritable.writes {v : Value} (writable : v.IsWritable) :
    ∃ text, v.encode = .ok text ∧ Writes text v := by
  induction writable with
  | null => exact ⟨_, rfl, writes_null⟩
  | bool b =>
    cases b with
    | false => exact ⟨_, rfl, writes_false⟩
    | true => exact ⟨_, rfl, writes_true⟩
  | @int n short =>
    refine ⟨_, ?_, writes_int n⟩
    have fits : ¬Numeral.isTooLong n = true := fun long => short ((Numeral.isTooLong_iff n).mp long)
    rw [encode, integerText, if_neg fits]
  | text s => exact ⟨_, rfl, writes_text s⟩
  | list _ ih =>
    obtain ⟨parts, encoded, written⟩ := encodeItems_of_writes ih
    refine ⟨_, ?_, writes_list written⟩
    rw [encode, encoded]
    rfl
  | object _ ih =>
    obtain ⟨parts, encoded, written⟩ := encodeFields_of_writes ih
    refine ⟨_, ?_, writes_object written⟩
    rw [encode, encoded]
    rfl

theorem Writes.decode {text : List Char} {v : Value} (written : Writes text v) :
    decode? text = some v := by
  have read := written.reads (2 * text.length + 2) [] (by omega) trivial
  rw [List.append_nil] at read
  rw [decode?, read]
  rfl

/-! ## Main result -/

/-- A record of objects, lists, strings, truth values, nulls and integers that are not too long has
a line, however deeply it is nested. The line is printable ASCII, so it holds no line break, and the
record can be decoded from it, in its envelope. So no other such record has the same line. -/
theorem line_reads_back (record : Value) (writable : record.IsWritable) :
    ∃ text, record.line = .ok text ∧ (∀ c ∈ text.toList, IsVisible c) ∧
      decode? text.toList = some (object [("kube", record)]) ∧
      ∀ other, other.IsWritable → other.line = .ok text → other = record := by
  have decodes : ∀ v, v.IsWritable → ∃ chars, v.line = .ok (String.ofList chars) ∧
      Writes chars (object [("kube", v)]) := by
    intro v writable
    have envelope : (object [("kube", v)]).IsWritable := .object (by simpa using writable)
    obtain ⟨chars, encoded, written⟩ := envelope.writes
    exact ⟨chars, by rw [line, encoded]; rfl, written⟩
  obtain ⟨chars, line, written⟩ := decodes record writable
  have read := written.decode
  refine ⟨String.ofList chars, line, ?_, ?_, ?_⟩
  · rw [String.toList_ofList]
    exact written.visible
  · rwa [String.toList_ofList]
  · intro other otherWritable sameLine
    obtain ⟨otherChars, otherLine, otherWritten⟩ := decodes other otherWritable
    -- One text is decoded to one value.
    have sameText : otherChars = chars := by
      have same := Except.ok.inj (otherLine.symm.trans sameLine)
      rw [← String.toList_ofList (l := otherChars), same, String.toList_ofList]
    have otherRead := otherWritten.decode
    rw [sameText, read] at otherRead
    simpa using otherRead.symm

/-! ### A sample -/

namespace Sample

/-- A string in which each way to write a character occurs. -/
def escaped : String :=
  "say \"hi\" \\ now\n\x00\x7fé😀"

/-- A record with such a string, a large integer and values inside values. -/
def nested : Value :=
  .object [("name", .text escaped), (escaped, .int (-98765432109876543210)),
    ("inside", .list [.null, .bool true, .object [], .list [.text ""]])]

theorem nested_isWritable : nested.IsWritable := by
  have inner : (Value.list [.text ""]).IsWritable := .list (by simpa using .text "")
  have inside : (Value.list [.null, .bool true, .object [], .list [.text ""]]).IsWritable := by
    refine .list ?_
    simpa using ⟨.null, .bool true, .object (by simp), inner⟩
  have short : ¬IsLongInteger (.int (-98765432109876543210)) := by decide +kernel
  refine .object ?_
  simpa using ⟨.text escaped, .int short, inside⟩

end Sample

theorem line_reads_back_sample :
    Sample.nested.IsWritable ∧
      ∃ text, Sample.nested.line = .ok text ∧ (∀ c ∈ text.toList, IsVisible c) ∧
        decode? text.toList = some (object [("kube", Sample.nested)]) := by
  obtain ⟨text, line, visible, read, -⟩ := line_reads_back Sample.nested Sample.nested_isWritable
  exact ⟨Sample.nested_isWritable, text, line, visible, read⟩

end ClusterCensus.Value
