import ClusterCensus.Numeral.Basic
import ClusterCensus.Proofs.Text
import Mathlib.Data.List.Chain
import Mathlib.Data.Nat.Digits.Defs

/-!
# How integers are spelled

An integer is spelled with an optional sign and digits of any script, which may be grouped by single
underscores. What a text spells is told here by its characters alone, and the reader accepts exactly
the texts that spell an integer.

## Main result

`integer?_eq_some_iff`: a text is read as an integer exactly when it spells it.
-/
namespace ClusterCensus.Numeral

open ClusterCensus.Text

/-! ### Grouped digits -/

/-- One or more digits, with single underscores between them where there are any. -/
structure IsGrouped (text : List Char) : Prop where
  filled : text ≠ []
  chars : ∀ c ∈ text, (digitValue? c).isSome ∨ c = '_'
  first : text.head? ≠ some '_'
  last : text.getLast? ≠ some '_'
  single : text.IsChain fun a b => a ≠ '_' ∨ b ≠ '_'

/-- The values of the digits of a text, in order. -/
def values (text : List Char) : List Nat :=
  text.filterMap digitValue?

theorem digitValue?_underscore : digitValue? '_' = none := by
  decide

theorem ne_underscore {c : Char} (digit : (digitValue? c).isSome) : c ≠ '_' := by
  rintro rfl
  cases digit

section

variable {c next : Char} {rest : List Char}

theorem isGrouped_singleton : IsGrouped [c] ↔ (digitValue? c).isSome := by
  constructor
  · intro grouped
    have underscore : c ≠ '_' := by simpa using grouped.first
    simpa [underscore] using grouped.chars c
  · intro digit
    have underscore := ne_underscore digit
    constructor <;> simp [digit, underscore]

/-- A digit can stand before a grouped text that does not begin with an underscore. -/
theorem isGrouped_cons_cons (other : next ≠ '_') :
    IsGrouped (c :: next :: rest) ↔ (digitValue? c).isSome ∧ IsGrouped (next :: rest) := by
  constructor
  · -- Off a grouped text its first digit can be taken, unless an underscore follows.
    rintro ⟨-, chars, first, last, single⟩
    have underscore : c ≠ '_' := by simpa using first
    rw [List.forall_mem_cons] at chars
    rw [List.getLast?_cons_cons] at last
    rw [List.isChain_cons_cons] at single
    refine ⟨chars.1.resolve_right underscore, by simp, chars.2, ?_, last, single.2⟩
    simpa using other
  · rintro ⟨digit, filled, chars, first, last, single⟩
    have underscore := ne_underscore digit
    constructor
    case chars => exact List.forall_mem_cons.mpr ⟨.inl digit, chars⟩
    case last => rwa [List.getLast?_cons_cons]
    case single => exact List.isChain_cons_cons.mpr ⟨.inl underscore, single⟩
    all_goals simp [underscore]

/-- An underscore stands between two digits. -/
theorem isGrouped_cons_underscore :
    IsGrouped (c :: '_' :: rest) ↔ (digitValue? c).isSome ∧ IsGrouped rest := by
  cases rest with
  | nil =>
    -- An underscore that ends the text groups nothing.
    constructor
    · intro grouped
      exact absurd rfl grouped.last
    · intro grouped
      exact absurd rfl grouped.2.filled
  | cons next rest =>
    constructor
    · rintro ⟨-, chars, first, last, single⟩
      have underscore : c ≠ '_' := by simpa using first
      simp only [List.forall_mem_cons, List.isChain_cons_cons] at chars single
      rw [List.getLast?_cons_cons, List.getLast?_cons_cons] at last
      -- Behind an underscore stands a digit, since there is no second underscore.
      have alone : next ≠ '_' := single.2.1.resolve_left fun other => other rfl
      refine ⟨chars.1.resolve_right underscore, by simp, ?_, by simpa using alone, last,
        single.2.2⟩
      exact List.forall_mem_cons.mpr chars.2.2
    · rintro ⟨digit, filled, chars, first, last, single⟩
      have underscore := ne_underscore digit
      have alone : next ≠ '_' := by simpa using first
      constructor
      case chars =>
        exact List.forall_mem_cons.mpr ⟨.inl digit, List.forall_mem_cons.mpr ⟨.inr rfl, chars⟩⟩
      case last => rwa [List.getLast?_cons_cons, List.getLast?_cons_cons]
      case single =>
        exact List.isChain_cons_cons.mpr
          ⟨.inl underscore, List.isChain_cons_cons.mpr ⟨.inr alone, single⟩⟩
      all_goals simp [underscore]

end

theorem isGrouped_of_digits {text : List Char} (filled : text ≠ [])
    (digits : ∀ c ∈ text, (digitValue? c).isSome) : IsGrouped text := by
  induction text with
  | nil => exact absurd rfl filled
  | cons c rest ih =>
    rw [List.forall_mem_cons] at digits
    cases rest with
    | nil => exact isGrouped_singleton.mpr digits.1
    | cons next rest =>
      have other := ne_underscore (digits.2 next (.head _))
      exact (isGrouped_cons_cons other).mpr ⟨digits.1, ih (List.cons_ne_nil _ _) digits.2⟩

theorem values_cons {c : Char} {d : Nat} (valued : digitValue? c = some d) (rest : List Char) :
    values (c :: rest) = d :: values rest :=
  List.filterMap_cons_some valued

theorem values_cons_underscore (rest : List Char) : values ('_' :: rest) = values rest :=
  List.filterMap_cons_none digitValue?_underscore

/-- The digits are read exactly when the text is grouped, and the underscores are skipped. -/
theorem groupedDigits?_eq_some_iff {text : List Char} {digits : List Nat} :
    groupedDigits? text = some digits ↔ IsGrouped text ∧ values text = digits := by
  -- Reading passes over a digit, and over the underscore behind it if there is one.
  fun_induction groupedDigits? text generalizing digits with
  | case1 =>
    constructor
    · intro read
      cases read
    · intro grouped
      exact absurd rfl grouped.1.filled
  | case2 c =>
    rw [isGrouped_singleton]
    cases valued : digitValue? c <;> simp [values, valued]
  | case3 c rest ih =>
    rw [isGrouped_cons_underscore]
    cases valued : digitValue? c with
    | none => simp
    | some digit => simp [values_cons valued, values_cons_underscore, ih, and_assoc]
  | case4 c next rest other ih =>
    rw [isGrouped_cons_cons other]
    cases valued : digitValue? c with
    | none => simp
    | some digit => simp [values_cons valued, ih, and_assoc]

/-! ### Numbers -/

theorem ofDigits_eq (digits : List Nat) : ofDigits digits = Nat.ofDigits 10 digits.reverse := by
  rw [Nat.ofDigits_eq_foldr, List.foldr_reverse]
  simp only [ofDigits, Nat.cast_id, Nat.add_comm]

inductive Sign where
  | absent
  | plus
  | minus

def Sign.text : Sign → List Char
  | absent => []
  | plus => ['+']
  | minus => ['-']

/-- The number of a given size with this sign. -/
def Sign.number : Sign → Nat → Int
  | absent, size => size
  | plus, size => size
  | minus, size => -size

/-- The text spells the integer: a sign, if any, and at most 4300 grouped digits, of which the last
is worth ones, the one before it tens, and so on. -/
def Spells (text : List Char) (n : Int) : Prop :=
  ∃ (sign : Sign) (digits : List Char), text = sign.text ++ digits ∧ IsGrouped digits ∧
    (values digits).length ≤ 4300 ∧ n = sign.number (Nat.ofDigits 10 (values digits).reverse)

theorem natural?_eq_some_iff {text : List Char} {size : Nat} :
    natural? text = some size ↔ IsGrouped text ∧ (values text).length ≤ 4300 ∧
      Nat.ofDigits 10 (values text).reverse = size := by
  simp only [natural?, Option.bind_eq_some_iff, groupedDigits?_eq_some_iff, ofDigits_eq]
  constructor
  · rintro ⟨digits, ⟨grouped, rfl⟩, read⟩
    obtain ⟨few, same⟩ := Option.ite_none_right_eq_some.mp read
    exact ⟨grouped, few, Option.some.inj same⟩
  · rintro ⟨grouped, few, same⟩
    exact ⟨_, ⟨grouped, rfl⟩, by rw [digitLimit, if_pos few, same]⟩

theorem IsGrouped.head_isSome {text : List Char} (grouped : IsGrouped text) :
    ∀ c ∈ text.head?, (digitValue? c).isSome := by
  intro c head
  refine (grouped.chars c (List.mem_of_mem_head? head)).resolve_right ?_
  rintro rfl
  exact grouped.first head

theorem integer?_unsigned {text : List Char} (minus : text.head? ≠ some '-')
    (plus : text.head? ≠ some '+') : integer? text = (natural? text).map Sign.absent.number := by
  rw [integer?]
  · cases natural? text <;> rfl
  · rintro rest rfl
    exact minus rfl
  · rintro rest rfl
    exact plus rfl

theorem integer?_minus (text : List Char) :
    integer? ('-' :: text) = (natural? text).map Sign.minus.number := by
  rw [integer?]
  cases natural? text <;> rfl

theorem integer?_plus (text : List Char) :
    integer? ('+' :: text) = (natural? text).map Sign.plus.number := by
  rw [integer?]
  cases natural? text <;> rfl

/-- Every text is read behind its sign, if it has one. -/
theorem exists_sign (text : List Char) : ∃ sign : Sign, ∃ rest,
    text = sign.text ++ rest ∧ integer? text = (natural? rest).map sign.number := by
  by_cases minus : text.head? = some '-'
  · obtain ⟨rest, rfl⟩ := List.head?_eq_some_iff.mp minus
    exact ⟨.minus, rest, rfl, integer?_minus rest⟩
  by_cases plus : text.head? = some '+'
  · obtain ⟨rest, rfl⟩ := List.head?_eq_some_iff.mp plus
    exact ⟨.plus, rest, rfl, integer?_plus rest⟩
  exact ⟨.absent, text, rfl, integer?_unsigned minus plus⟩

/-- Behind a sign the digits are read as without one. -/
theorem IsGrouped.read_signed {digits : List Char} (grouped : IsGrouped digits) (sign : Sign) :
    integer? (sign.text ++ digits) = (natural? digits).map sign.number := by
  cases sign with
  | minus => exact integer?_minus digits
  | plus => exact integer?_plus digits
  | absent =>
    -- Grouped digits begin with a digit, which is not taken for a sign.
    change integer? digits = _
    apply integer?_unsigned
    · intro head
      cases grouped.head_isSome _ head
    · intro head
      cases grouped.head_isSome _ head

/-- A text is read as an integer exactly when it spells it. -/
theorem integer?_eq_some_iff {text : List Char} {n : Int} :
    integer? text = some n ↔ Spells text n := by
  constructor
  · intro read
    obtain ⟨sign, digits, split, reads⟩ := exists_sign text
    rw [reads] at read
    obtain ⟨size, sized, rfl⟩ := Option.map_eq_some_iff.mp read
    obtain ⟨grouped, few, rfl⟩ := natural?_eq_some_iff.mp sized
    exact ⟨sign, digits, split, grouped, few, rfl⟩
  · rintro ⟨sign, digits, rfl, grouped, few, rfl⟩
    rw [grouped.read_signed, natural?_eq_some_iff.mpr ⟨grouped, few, rfl⟩, Option.map_some]

/-! ### What can stand in the text of an integer -/

section

variable {text : List Char} {n : Int} (spells : Spells text n)

include spells

theorem Spells.filled : text ≠ [] := by
  obtain ⟨sign, digits, rfl, grouped, -, -⟩ := spells
  exact List.append_ne_nil_of_right_ne_nil _ grouped.filled

/-- A numeral has digits, underscores and signs, and no other characters. -/
theorem Spells.chars : ∀ c ∈ text, (digitValue? c).isSome ∨ c = '_' ∨ c = '+' ∨ c = '-' := by
  obtain ⟨sign, digits, rfl, grouped, -, -⟩ := spells
  intro c member
  rcases List.mem_append.mp member with inSign | inDigits
  · cases sign with
    | absent => cases inSign
    | plus =>
      obtain rfl := List.mem_singleton.mp inSign
      exact .inr (.inr (.inl rfl))
    | minus =>
      obtain rfl := List.mem_singleton.mp inSign
      exact .inr (.inr (.inr rfl))
  · rcases grouped.chars c inDigits with digit | underscore
    · exact .inl digit
    · exact .inr (.inl underscore)

theorem Spells.solid : ∀ c ∈ text, isBlank c = false := by
  intro c member
  rcases spells.chars c member with digit | rfl | rfl | rfl
  · exact not_isBlank_of_isDigit (by simp [isDigit, digit])
  all_goals decide

/-- A numeral has neither a letter nor a point in it. -/
theorem Spells.unitless : ∀ c ∈ text, isLetter c = false ∧ c ≠ '.' := by
  intro c member
  rcases spells.chars c member with digit | rfl | rfl | rfl
  · constructor
    · cases letter : isLetter c with
      | false => rfl
      | true => simpa [isDigit, digit] using not_isDigit_of_isLetter letter
    · rintro rfl
      cases digit
  all_goals decide

end

end ClusterCensus.Numeral
