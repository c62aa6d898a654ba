import ClusterCensus.Value.Line
import ClusterCensus.Value.Reading

/-!
# Strings are read as they were written

A character of a string is written as itself or as one or two escapes, and the reader takes each
escape for a unit. The units of a character are itself, or a pair of surrogates when it lies beyond
the basic plane; the reader joins the pair again. Since no character is itself a surrogate, no other
units are joined.

## Main results

`readText_escaped`: a written string is read back. `visible_escapeChar`: what is written of it is
printable ASCII.
-/
namespace ClusterCensus.Value

open ClusterCensus.Text

/-- A printable character of ASCII, or a space. -/
def IsVisible (c : Char) : Prop :=
  0x20 ≤ c.toNat ∧ c.toNat ≤ 0x7E

instance : DecidablePred IsVisible :=
  fun c => inferInstanceAs (Decidable (0x20 ≤ c.toNat ∧ c.toNat ≤ 0x7E))

/-! ### Hexadecimal digits -/

theorem hexValue?_digitChar : ∀ digit < 16, hexValue? (Nat.digitChar digit) = some digit := by
  decide

theorem visible_digitChar : ∀ digit < 16, IsVisible (Nat.digitChar digit) := by
  decide

/-- The last digit is split off; zeros stay in front. -/
theorem hexDigits_succ (width code : Nat) (wide : 1 ≤ width) :
    hexDigits (width + 1) code = hexDigits width (code / 16) ++ [Nat.digitChar (code % 16)] := by
  unfold hexDigits
  by_cases small : code < 16
  · have none : code / 16 = 0 := by omega
    have same : code % 16 = code := by omega
    obtain ⟨k, rfl⟩ : ∃ k, width = k + 1 := ⟨width - 1, by omega⟩
    rw [none, same, Nat.toDigits_of_lt_base small, Nat.toDigits_of_lt_base (by decide : 0 < 16)]
    have zero : Nat.digitChar 0 = '0' := by decide
    simp [zero, List.replicate_succ']
  · rw [Nat.toDigits_of_base_le (by decide) (by omega)]
    simp [Nat.add_sub_add_right]

theorem hexDigits_four {code : Nat} (small : code < 0x10000) :
    hexDigits 4 code =
      [Nat.digitChar (code / 16 / 16 / 16), Nat.digitChar (code / 16 / 16 % 16),
        Nat.digitChar (code / 16 % 16), Nat.digitChar (code % 16)] := by
  have first : code / 16 / 16 / 16 < 16 := by omega
  have single : hexDigits 1 (code / 16 / 16 / 16) = [Nat.digitChar (code / 16 / 16 / 16)] := by
    rw [hexDigits, Nat.toDigits_of_lt_base first]
    rfl
  rw [hexDigits_succ 3 _ (by decide), hexDigits_succ 2 _ (by decide),
    hexDigits_succ 1 _ (by decide), single]
  rfl

theorem hexUnit?_digits {code : Nat} (small : code < 0x10000) :
    hexUnit? (Nat.digitChar (code / 16 / 16 / 16)) (Nat.digitChar (code / 16 / 16 % 16))
      (Nat.digitChar (code / 16 % 16)) (Nat.digitChar (code % 16)) = some code := by
  have whole : ((code / 16 / 16 / 16 * 16 + code / 16 / 16 % 16) * 16 + code / 16 % 16) * 16 +
      code % 16 = code := by omega
  simp only [hexUnit?, hexValue?_digitChar _ (by omega : code / 16 / 16 / 16 < 16),
    hexValue?_digitChar _ (Nat.mod_lt _ (by decide : 16 > 0)), Option.bind_eq_bind,
    Option.bind_some, Option.pure_def, whole]

/-! ### Characters -/

/-- A character is a code point that is no surrogate. -/
theorem toNat_valid (c : Char) :
    c.toNat < 0xD800 ∨ 0xDFFF < c.toNat ∧ c.toNat < 0x110000 :=
  c.valid

/-- The sixteen bit units of a character. -/
def unitsOf (c : Char) : List Nat :=
  if c.toNat < 0x10000 then [c.toNat]
  else [0xD800 + (c.toNat - 0x10000) / 0x400, 0xDC00 + (c.toNat - 0x10000) % 0x400]

/-- The four ways in which a character is written: by an escape of one letter, as itself, by its
code point, or by the code points of a pair of surrogates. -/
theorem escapeChar_cases (c : Char) :
    (∃ letter, escapeChar c = ['\\', letter] ∧ letter ≠ 'u' ∧ IsVisible letter ∧
        escapedUnit? letter = some c.toNat ∧ c.toNat < 0x10000) ∨
      (escapeChar c = [c] ∧ c ≠ '"' ∧ c ≠ '\\' ∧ IsVisible c) ∨
      (c.toNat < 0x10000 ∧ escapeChar c = escapeUnit c.toNat) ∨
      (0x10000 ≤ c.toNat ∧ escapeChar c =
        escapeUnit (0xD800 + (c.toNat - 0x10000) / 0x400) ++
          escapeUnit (0xDC00 + (c.toNat - 0x10000) % 0x400)) := by
  -- Seven characters have a letter of their own, and five of them are named by the character.
  by_cases quote : c = '"'
  · subst quote
    exact .inl ⟨'"', rfl, by decide, by decide, rfl, by decide⟩
  by_cases backslash : c = '\\'
  · subst backslash
    exact .inl ⟨'\\', rfl, by decide, by decide, rfl, by decide⟩
  by_cases feed : c = '\n'
  · subst feed
    exact .inl ⟨'n', rfl, by decide, by decide, rfl, by decide⟩
  by_cases carriage : c = '\r'
  · subst carriage
    exact .inl ⟨'r', rfl, by decide, by decide, rfl, by decide⟩
  by_cases tab : c = '\t'
  · subst tab
    exact .inl ⟨'t', rfl, by decide, by decide, rfl, by decide⟩
  unfold escapeChar
  simp only [beq_false_of_ne quote, beq_false_of_ne backslash, beq_false_of_ne feed,
    beq_false_of_ne carriage, beq_false_of_ne tab, Bool.false_eq_true, if_false]
  by_cases back : c.toNat = 8
  · exact .inl ⟨'b', by rw [if_pos back], by decide, by decide, by rw [back]; rfl, by omega⟩
  by_cases form : c.toNat = 12
  · exact .inl ⟨'f', by rw [if_neg back, if_pos form], by decide, by decide, by rw [form]; rfl,
      by omega⟩
  rw [if_neg back, if_neg form]
  by_cases printable : (32 ≤ c.toNat && c.toNat < 127) = true
  · rw [if_pos printable]
    rw [Bool.and_eq_true, decide_eq_true_eq, decide_eq_true_eq] at printable
    exact .inr (.inl ⟨rfl, quote, backslash, printable.1, by omega⟩)
  rw [if_neg printable]
  by_cases basic : c.toNat < 0x10000
  · exact .inr (.inr (.inl ⟨basic, if_pos basic⟩))
  · exact .inr (.inr (.inr ⟨by omega, if_neg basic⟩))

/-- Puts a unit in front of those that have been read. -/
def pushUnit (unit : Nat) (read : List Nat × List Char) : List Nat × List Char :=
  (unit :: read.1, read.2)

theorem readUnits_escapeUnit {unit : Nat} (small : unit < 0x10000) (rest : List Char) :
    readUnits (escapeUnit unit ++ rest) = (readUnits rest).map (pushUnit unit) := by
  rw [escapeUnit, hexDigits_four small]
  simp only [List.cons_append, List.nil_append, readUnits, hexUnit?_digits small,
    Option.bind_eq_bind, Option.bind_some]
  cases readUnits rest <;> rfl

theorem readUnits_plain {c : Char} (quote : c ≠ '"') (backslash : c ≠ '\\')
    (printable : 32 ≤ c.toNat) (rest : List Char) :
    readUnits (c :: rest) = (readUnits rest).map (pushUnit c.toNat) := by
  have control : ¬c.toNat < 32 := by omega
  rw [readUnits]
  · simp only [beq_false_of_ne backslash, control, Bool.false_or, decide_false,
      Bool.false_eq_true, if_false]
    cases readUnits rest <;> rfl
  -- All other patterns begin with a quote or a backslash.
  all_goals simp_all

theorem pushUnit_eq {c : Char} (basic : c.toNat < 0x10000) :
    (fun read : List Nat × List Char => (unitsOf c ++ read.1, read.2)) = pushUnit c.toNat := by
  funext read
  rw [unitsOf, if_pos basic]
  rfl

theorem readUnits_letter {letter : Char} {unit : Nat} (known : escapedUnit? letter = some unit)
    (other : letter ≠ 'u') (rest : List Char) :
    readUnits ('\\' :: letter :: rest) = (readUnits rest).map (pushUnit unit) := by
  rw [readUnits]
  · simp only [known, Option.bind_eq_bind, Option.bind_some]
    cases readUnits rest <;> rfl
  · simp_all

/-- An escaped character is read as its code units. -/
theorem readUnits_escapeChar (c : Char) (rest : List Char) :
    readUnits (escapeChar c ++ rest) =
      (readUnits rest).map fun read => (unitsOf c ++ read.1, read.2) := by
  rcases escapeChar_cases c with ⟨letter, written, other, -, known, basic⟩ |
    ⟨written, quote, backslash, visible⟩ | ⟨basic, written⟩ | ⟨beyond, written⟩
  · rw [written, pushUnit_eq basic]
    exact readUnits_letter known other rest
  · have basic : c.toNat < 0x10000 := Nat.lt_of_le_of_lt visible.2 (by decide)
    rw [written, pushUnit_eq basic]
    exact readUnits_plain quote backslash visible.1 rest
  · rw [written, pushUnit_eq basic]
    exact readUnits_escapeUnit basic rest
  · -- Beyond the basic plane there are two escapes.
    have valid := toNat_valid c
    have high : 0xD800 + (c.toNat - 0x10000) / 0x400 < 0x10000 := by omega
    have low : 0xDC00 + (c.toNat - 0x10000) % 0x400 < 0x10000 := by omega
    rw [written, List.append_assoc, readUnits_escapeUnit high, readUnits_escapeUnit low,
      Option.map_map, unitsOf, if_neg (by omega)]
    rfl

theorem readUnits_escaped (chars rest : List Char) :
    readUnits (chars.flatMap escapeChar ++ '"' :: rest) = some (chars.flatMap unitsOf, rest) := by
  induction chars with
  | nil => rfl
  | cons c chars ih =>
    rw [List.flatMap_cons, List.flatMap_cons, List.append_assoc, readUnits_escapeChar, ih]
    rfl

/-! ### Pairs of surrogates -/

theorem not_surrogate (c : Char) :
    isHighSurrogate c.toNat = false ∧ isLowSurrogate c.toNat = false := by
  have valid := toNat_valid c
  simp only [isHighSurrogate, isLowSurrogate, Bool.and_eq_false_iff, decide_eq_false_iff_not]
  omega

/-- The code units of a character join to it, one unit or a surrogate pair. -/
theorem joinUnits_unitsOf (c : Char) (units : List Nat) :
    joinUnits (unitsOf c ++ units) = (joinUnits units).map (c :: ·) := by
  unfold unitsOf
  split
  next basic =>
    -- The reader looks one unit ahead, but joins nothing to a unit that is no surrogate.
    obtain ⟨high, low⟩ := not_surrogate c
    cases units with
    | nil => simp [joinUnits, high, low]
    | cons next rest => simp [joinUnits, high, low]
  next beyond =>
    have valid := toNat_valid c
    have high : isHighSurrogate (0xD800 + (c.toNat - 0x10000) / 0x400) = true := by
      simp only [isHighSurrogate, Bool.and_eq_true, decide_eq_true_eq]
      omega
    have low : isLowSurrogate (0xDC00 + (c.toNat - 0x10000) % 0x400) = true := by
      simp only [isLowSurrogate, Bool.and_eq_true, decide_eq_true_eq]
      omega
    have same : pairedChar (0xD800 + (c.toNat - 0x10000) / 0x400)
        (0xDC00 + (c.toNat - 0x10000) % 0x400) = c := by
      have code : 0x10000 + (0xD800 + (c.toNat - 0x10000) / 0x400 - 0xD800) * 0x400 +
          (0xDC00 + (c.toNat - 0x10000) % 0x400 - 0xDC00) = c.toNat := by omega
      rw [pairedChar, code, Char.ofNat_toNat]
    simp only [List.cons_append, List.nil_append, joinUnits, high, low, if_true, same]

theorem joinUnits_flatMap (chars : List Char) :
    joinUnits (chars.flatMap unitsOf) = some chars := by
  induction chars with
  | nil => rfl
  | cons c chars ih =>
    rw [List.flatMap_cons, joinUnits_unitsOf, ih]
    rfl

/-! ## Main results -/

/-- A string is read up to the quote that ends it, as it was written. -/
theorem readText_escaped (s : String) (rest : List Char) :
    readText (s.toList.flatMap escapeChar ++ '"' :: rest) = some (s, rest) := by
  rw [readText, readUnits_escaped]
  simp only [Option.bind_eq_bind, Option.bind_some, joinUnits_flatMap, Option.pure_def,
    String.ofList_toList]

theorem visible_escapeUnit {unit : Nat} (small : unit < 0x10000) :
    ∀ c ∈ escapeUnit unit, IsVisible c := by
  intro c member
  rw [escapeUnit, hexDigits_four small] at member
  simp only [List.mem_cons, List.not_mem_nil, or_false] at member
  rcases member with rfl | rfl | rfl | rfl | rfl | rfl
  · decide
  · decide
  all_goals exact visible_digitChar _ (by omega)

/-- Escaping leaves printable characters only. -/
theorem visible_escapeChar (own : Char) : ∀ c ∈ escapeChar own, IsVisible c := by
  rcases escapeChar_cases own with ⟨letter, written, -, visible, -⟩ |
    ⟨written, -, -, visible⟩ | ⟨basic, written⟩ | ⟨beyond, written⟩
  · rw [written]
    simpa using ⟨(by decide : IsVisible '\\'), visible⟩
  · rw [written]
    simpa using visible
  · rw [written]
    exact visible_escapeUnit basic
  · have valid := toNat_valid own
    rw [written]
    intro c member
    rcases List.mem_append.mp member with member | member
    · exact visible_escapeUnit (by omega) c member
    · exact visible_escapeUnit (by omega) c member

theorem visible_encodeText (s : String) : ∀ c ∈ encodeText s, IsVisible c := by
  intro c member
  rw [encodeText, List.mem_append, List.mem_cons, List.mem_flatMap, List.mem_singleton] at member
  rcases member with (rfl | ⟨own, -, inside⟩) | rfl
  · decide
  · exact visible_escapeChar own c inside
  · decide

end ClusterCensus.Value
