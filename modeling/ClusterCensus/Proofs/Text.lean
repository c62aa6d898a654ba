import ClusterCensus.Text.Letter
import Mathlib.Data.List.TakeWhile

/-!
# Characters and the texts between blanks

No letter is a digit, and neither letters nor digits are blanks. Below code 128 this is checked
code by code. Beyond, a class is a table of ranges, and two tables are compared range by range.

A text is what remains of it when it is trimmed, between blanks. What remains is found again
whatever blanks are put around it, provided that it has none itself.
-/
namespace ClusterCensus.Text

/-! ### Tables -/

/-- No range of one list meets a range of the other. -/
def CodeRanges.areApart (one other : CodeRanges) : Bool :=
  one.all fun a => other.all fun b => a.2.blt b.1 || b.2.blt a.1

theorem CodeRanges.not_covers_of_apart {one other : CodeRanges} {c : Char}
    (apart : one.areApart other = true) (covered : one.covers c = true) :
    other.covers c = false := by
  obtain ⟨a, inOne, lower, upper⟩ :
      ∃ a ∈ one, a.1 ≤ c.toNat ∧ c.toNat ≤ a.2 := by simpa [covers] using covered
  rw [covers, List.any_eq_false]
  intro b inOther both
  have distant := List.all_eq_true.mp (List.all_eq_true.mp apart a inOne) b inOther
  simp only [Bool.and_eq_true, Bool.or_eq_true, decide_eq_true_eq, Nat.blt_eq] at both distant
  omega

/-- The digits beyond ASCII, with and without a place value. -/
def digitRanges : CodeRanges :=
  scriptZeros.map (fun start => (start, start + 9)) ++ ornamentalDigitRanges

/-! ### Classes -/

/-- Beyond ASCII the class is the one of the table. -/
def IsTabled (member : Char → Bool) (ranges : CodeRanges) : Prop :=
  ∀ c : Char, 128 ≤ c.toNat → member c = ranges.covers c

theorem isTabled_isLetter : IsTabled isLetter letterRanges := by
  intro c wide
  rw [isLetter, if_neg (by omega)]

theorem isTabled_isBlank : IsTabled isBlank blankRanges := by
  intro c wide
  rw [isBlank, if_neg (by omega)]

theorem isTabled_isDigit : IsTabled isDigit digitRanges := by
  intro c wide
  rw [isDigit, digitValue?, if_neg (by omega), Bool.eq_iff_iff]
  simp only [digitRanges, CodeRanges.covers, Option.isSome_map, List.find?_isSome,
    List.any_append, List.any_map, Bool.or_eq_true, List.any_eq_true, Function.comp_apply,
    Nat.lt_add_one_iff]

/-- Classes are apart when they are so among the characters of ASCII, and their tables are. -/
theorem not_member_of_apart {member other : Char → Bool} {ranges otherRanges : CodeRanges}
    (tabled : IsTabled member ranges) (otherTabled : IsTabled other otherRanges)
    (narrow : ∀ code < 128, member (Char.ofNat code) = true → other (Char.ofNat code) = false)
    (apart : ranges.areApart otherRanges = true) {c : Char} (own : member c = true) :
    other c = false := by
  rcases Nat.lt_or_ge c.toNat 128 with ascii | wide
  · have same := narrow c.toNat ascii
    rw [Char.ofNat_toNat] at same
    exact same own
  · rw [otherTabled c wide]
    rw [tabled c wide] at own
    exact CodeRanges.not_covers_of_apart apart own

theorem not_isDigit_of_isLetter {c : Char} (letter : isLetter c = true) : isDigit c = false :=
  not_member_of_apart isTabled_isLetter isTabled_isDigit (by decide +kernel) (by decide +kernel)
    letter

theorem not_isBlank_of_isLetter {c : Char} (letter : isLetter c = true) : isBlank c = false :=
  not_member_of_apart isTabled_isLetter isTabled_isBlank (by decide +kernel) (by decide +kernel)
    letter

theorem not_isBlank_of_isDigit {c : Char} (digit : isDigit c = true) : isBlank c = false :=
  not_member_of_apart isTabled_isDigit isTabled_isBlank (by decide +kernel) (by decide +kernel)
    digit

/-! ### Texts between blanks -/

/-- The text is the given one, with nothing but blanks before and behind it. -/
def IsPadded (text core : List Char) : Prop :=
  ∃ before after, text = before ++ core ++ after ∧ ∀ c ∈ before ++ after, isBlank c = true

theorem isPadded_self (text : List Char) : IsPadded text text :=
  ⟨[], [], by simp, by simp⟩

/-- Trimming takes off blanks on both sides and nothing else. -/
theorem isPadded_trim (text : List Char) : IsPadded text (trim text) := by
  let rest := (text.dropWhile isBlank).reverse
  have front : text.takeWhile isBlank ++ text.dropWhile isBlank = text :=
    List.takeWhile_append_dropWhile
  -- From behind, trimming is the same as from the front of the reversed text.
  have back : (rest.dropWhile isBlank).reverse ++ (rest.takeWhile isBlank).reverse =
      text.dropWhile isBlank := by
    rw [← List.reverse_append, List.takeWhile_append_dropWhile, List.reverse_reverse]
  refine ⟨text.takeWhile isBlank, (rest.takeWhile isBlank).reverse, ?_, ?_⟩
  · rw [trim, trimBy, List.append_assoc, back, front]
  · intro c member
    rw [List.mem_append, List.mem_reverse] at member
    rcases member with member | member
    · exact List.mem_takeWhile_imp member
    · exact List.mem_takeWhile_imp member

/-- Whatever is not a blank stands in what is between the blanks. -/
theorem IsPadded.mem_core {text core : List Char} {c : Char} (padded : IsPadded text core)
    (member : c ∈ text) (solid : isBlank c = false) : c ∈ core := by
  obtain ⟨before, after, rfl, blank⟩ := padded
  have outside : c ∉ before ++ after := by
    intro padding
    rw [blank c padding] at solid
    cases solid
  rw [List.mem_append, not_or] at outside
  rw [List.mem_append, List.mem_append] at member
  exact (member.resolve_right outside.2).resolve_left outside.1

theorem dropWhile_blanks {blanks rest : List Char} (blank : ∀ c ∈ blanks, isBlank c = true)
    (solid : ∀ c ∈ rest.head?, isBlank c = false) : (blanks ++ rest).dropWhile isBlank = rest := by
  rw [List.dropWhile_append_of_pos blank]
  cases rest with
  | nil => rfl
  | cons c rest => rw [List.dropWhile_cons_of_neg (by simp [solid c rfl])]

/-- Of a text without blanks, padded with blanks, trimming leaves that text. -/
theorem trim_of_padded {text core : List Char} (padded : IsPadded text core) (filled : core ≠ [])
    (solid : ∀ c ∈ core, isBlank c = false) : trim text = core := by
  obtain ⟨before, after, rfl, blank⟩ := padded
  rw [List.forall_mem_append] at blank
  -- The blanks in front end where the core begins, and those behind, read backwards, where it ends.
  have front : (before ++ (core ++ after)).dropWhile isBlank = core ++ after := by
    apply dropWhile_blanks blank.1
    obtain ⟨first, rest, rfl⟩ := List.exists_cons_of_ne_nil filled
    rintro c ⟨⟩
    exact solid first (.head _)
  have back : (after.reverse ++ core.reverse).dropWhile isBlank = core.reverse := by
    apply dropWhile_blanks
    · simpa using blank.2
    · intro c last
      exact solid c (List.mem_reverse.mp (List.mem_of_mem_head? last))
  rw [trim, trimBy, List.append_assoc, front, List.reverse_append, back, List.reverse_reverse]

end ClusterCensus.Text
