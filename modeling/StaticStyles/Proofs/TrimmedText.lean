import Mathlib.Data.List.DropRight
import Mathlib.Data.List.Infix
import Mathlib.Data.List.TakeWhile
import StaticStyles.Text.Blank
import StaticStyles.Text.Classes

/-!
White space at the ends of a text, and texts that have none there.
-/
namespace StaticStyles.Text
variable {text before after : List Char} {c : Char}

/-! ## The beginning -/

theorem skipBlanks_cons (solid : isBlank c = false) (rest : List Char) :
    skipBlanks (c :: rest) = c :: rest := by
  simp [skipBlanks, solid]

theorem skipBlanks_append (solid : isBlank c = false) (text rest : List Char) :
    skipBlanks (text ++ c :: rest) = skipBlanks text ++ c :: rest := by
  induction text with
  | nil => simp [skipBlanks, solid]
  | cons d text ih =>
    simp only [skipBlanks, List.cons_append, List.dropWhile_cons] at ih ⊢
    by_cases blank : isBlank d = true
    · rw [if_pos blank, if_pos blank, ih]
    · rw [if_neg blank, if_neg blank, List.cons_append]

theorem skipBlanks_passed (blank : isBlankText before = true) (text : List Char) :
    skipBlanks (before ++ text) = skipBlanks text :=
  List.dropWhile_append_of_pos fun c member => List.all_eq_true.mp blank c member

theorem head?_skipBlanks (text : List Char) : ∀ c ∈ (skipBlanks text).head?, isBlank c = false := by
  intro c first
  have kept := List.head?_dropWhile_not isBlank text
  rw [skipBlanks] at first
  rw [Option.mem_def.mp first] at kept
  simpa using kept

/-! ## Trimmed texts -/

/-- A text without white space at its ends. -/
structure IsTrimmed (text : List Char) : Prop where
  first : ∀ c ∈ text.head?, isBlank c = false
  last : ∀ c ∈ text.getLast?, isBlank c = false

theorem trimEnd_append (last : ∀ c ∈ text.getLast?, isBlank c = false) (blank : isBlankText after = true) :
    trimEnd (text ++ after) = text := by
  have reversed : ∀ c ∈ after.reverse, isBlank c = true :=
    fun c member => List.all_eq_true.mp blank c (List.mem_reverse.mp member)
  have kept : text.reverse.dropWhile isBlank = text.reverse := by
    cases backwards : text.reverse with
    | nil => rfl
    | cons c others =>
      have final : c ∈ text.getLast? := by rw [List.getLast?_eq_head?_reverse, backwards]; rfl
      rw [List.dropWhile_cons_of_neg (by simp [last c final])]
  rw [trimEnd, List.reverse_append, List.dropWhile_append_of_pos reversed, kept, List.reverse_reverse]

/-- Trimming takes the white space around a trimmed text. -/
theorem IsTrimmed.trim_eq (trimmed : IsTrimmed text) (lead : isBlankText before = true)
    (trail : isBlankText after = true) : trim (before ++ (text ++ after)) = text := by
  have front : skipBlanks (before ++ (text ++ after)) = skipBlanks (text ++ after) := skipBlanks_passed lead _
  cases text with
  | nil =>
    have none : skipBlanks after = [] := skipBlanks_eq_nil_iff.mpr trail
    rw [trim, front, List.nil_append, none]
    rfl
  | cons c text =>
    have solid : isBlank c = false := trimmed.first c rfl
    rw [trim, front, List.cons_append, skipBlanks_cons solid, ← List.cons_append,
      trimEnd_append trimmed.last trail]

theorem isTrimmed_of_all (solid : ∀ c ∈ text, isBlank c = false) : IsTrimmed text where
  first c first := solid c (List.mem_of_mem_head? first)
  last c last := solid c (List.mem_of_mem_getLast? last)

theorem IsTrimmed.prepend (trimmed : IsTrimmed text) (some_char : text ≠ [])
    (solid : ∀ c ∈ before.head?, isBlank c = false) : IsTrimmed (before ++ text) where
  first c first := by
    cases before with
    | nil => exact trimmed.first c first
    | cons d before => exact solid c first
  last c last := by
    rw [List.getLast?_append_of_ne_nil _ some_char] at last
    exact trimmed.last c last

theorem IsTrimmed.trim_self (trimmed : IsTrimmed text) : trim text = text := by
  have none : isBlankText [] = true := rfl
  have trim_eq := trimmed.trim_eq none none
  rwa [List.append_nil] at trim_eq

theorem IsTrimmed.trim_append_blank (trimmed : IsTrimmed text) : trim (text ++ [' ']) = text :=
  have none : isBlankText [] = true := rfl
  trimmed.trim_eq none rfl

theorem trimEnd_eq_nil_iff {text : List Char} : trimEnd text = [] ↔ isBlankText text = true := by
  simp [trimEnd, isBlankText]

/-- A text is blank exactly if nothing of it is left after trimming. -/
theorem trim_eq_nil_iff {text : List Char} : trim text = [] ↔ isBlankText text = true := by
  have passed : isBlankText (text.takeWhile isBlank) = true := List.all_takeWhile
  have whole : isBlankText text = isBlankText (skipBlanks text) := by
    conv_lhs => rw [← List.takeWhile_append_dropWhile (p := isBlank) (l := text)]
    rw [isBlankText, List.all_append]
    exact (congrArg (· && _) passed).trans (Bool.true_and _)
  rw [trim, trimEnd_eq_nil_iff, whole]

/-! ## What trimming leaves -/

/-- A text is what trimming leaves of it between two runs of white space. -/
theorem exists_trim (text : List Char) :
    ∃ lead trail, text = lead ++ (trim text ++ trail) ∧ (∀ c ∈ lead, isBlank c = true) ∧
      ∀ c ∈ trail, isBlank c = true := by
  refine ⟨text.takeWhile isBlank, ((skipBlanks text).reverse.takeWhile isBlank).reverse, ?_, ?_, ?_⟩
  · rw [trim, trimEnd, ← List.reverse_append, List.takeWhile_append_dropWhile, List.reverse_reverse, skipBlanks,
      List.takeWhile_append_dropWhile]
  · exact fun c member => List.all_eq_true.mp List.all_takeWhile c member
  · exact fun c member => List.all_eq_true.mp List.all_takeWhile c (List.mem_reverse.mp member)

theorem mem_of_mem_trim (member : c ∈ trim text) : c ∈ text := by
  obtain ⟨lead, trail, whole, _, _⟩ := exists_trim text
  rw [whole]
  exact List.mem_append_right _ (List.mem_append_left _ member)

theorem isTrimmed_trim (text : List Char) : IsTrimmed (trim text) where
  first c first := by
    obtain ⟨more, begins⟩ := List.rdropWhile_prefix isBlank (skipBlanks text)
    have kept : (skipBlanks text).head? = some c := by
      rw [← begins, List.head?_append]
      exact Option.or_eq_some_iff.mpr (.inl first)
    exact head?_skipBlanks text c kept
  last c last := by
    have some_char : (skipBlanks text).rdropWhile isBlank ≠ [] := by
      rintro none
      rw [trim, trimEnd, ← List.rdropWhile, none] at last
      contradiction
    have final : ((skipBlanks text).rdropWhile isBlank).getLast some_char = c := by
      rw [trim, trimEnd, ← List.rdropWhile] at last
      exact Option.some.inj ((List.getLast?_eq_some_getLast some_char).symm.trans last)
    have kept := List.rdropWhile_last_not isBlank (skipBlanks text) some_char
    rw [final] at kept
    simpa using kept

/-! ## Characters that are no white space -/

theorem ne_of_isBlank {d : Char} (blank : isBlank c = true) (solid : isBlank d = false) : c ≠ d := by
  rintro rfl
  rw [blank] at solid
  contradiction

/-- The code points of white space. -/
private def blankCodes : List Nat :=
  [9, 10, 11, 12, 13, 0x20, 0x85, 0xA0, 0x1680, 0x2000, 0x2001, 0x2002, 0x2003, 0x2004, 0x2005, 0x2006, 0x2007, 0x2008,
    0x2009, 0x200A, 0x2028, 0x2029, 0x202F, 0x205F, 0x3000]

private theorem toNat_mem_blankCodes {c : Char} (blank : isBlank c = true) : c.toNat ∈ blankCodes := by
  simp only [isBlank, Bool.or_eq_true, Bool.and_eq_true, decide_eq_true_eq, Char.le_def, ← Char.toNat_inj,
    UInt32.le_iff_toNat_le, Char.toNat] at blank
  simp only [Char.reduceVal, UInt32.reduceToNat] at blank
  simp only [blankCodes, List.mem_cons, List.not_mem_nil, or_false, Char.toNat]
  omega

theorem isBlank_of_isAlphanum {c : Char} (plain : c.isAlphanum = true) : isBlank c = false := by
  have letter : c.isAlphanum = (decide ('A'.val ≤ c.val ∧ c.val ≤ 'Z'.val) ||
      (decide ('a'.val ≤ c.val) && decide (c.val ≤ 'z'.val)) ||
      (decide ('0'.val ≤ c.val) && decide (c.val ≤ '9'.val))) := rfl
  rw [Bool.eq_false_iff]
  intro blank
  have code := toNat_mem_blankCodes blank
  simp only [blankCodes, List.mem_cons, List.not_mem_nil, or_false, Char.toNat] at code
  simp only [letter, Bool.or_eq_true, Bool.and_eq_true, decide_eq_true_eq, UInt32.le_iff_toNat_le] at plain
  simp only [Char.reduceVal, UInt32.reduceToNat] at plain
  omega

theorem isBlank_of_isDecimal {c : Char} (digit : isDecimal c = true) : isBlank c = false := by
  rw [Bool.eq_false_iff]
  intro blank
  have code := toNat_mem_blankCodes blank
  -- no range of digits, in any script, holds white space
  have apart : ∀ n ∈ blankCodes, ¬(48 ≤ n ∧ n ≤ 57) ∧ ∀ range ∈ digitRanges, ¬(range.1 ≤ n ∧ n ≤ range.2) := by
    decide
  obtain ⟨ascii, others⟩ := apart _ code
  rw [isDecimal, Bool.or_eq_true, Bool.and_eq_true] at digit
  rcases digit with digit | ⟨_, digit⟩
  · simp only [Char.isDigit, Bool.and_eq_true, decide_eq_true_eq, ge_iff_le, UInt32.le_iff_toNat_le] at digit
    exact ascii digit
  · obtain ⟨range, listed, inside⟩ := inRanges_iff.mp digit
    exact others range listed inside

theorem isBlank_of_isWord {c : Char} (letter : isWord c = true) : isBlank c = false := by
  rw [isWord, Bool.or_eq_true, Bool.or_eq_true, Bool.and_eq_true] at letter
  rcases letter with (plain | low) | ⟨_, other⟩
  · exact isBlank_of_isAlphanum plain
  · rw [of_decide_eq_true low]
    decide
  · rw [Bool.eq_false_iff]
    intro blank
    -- no range of word characters holds white space either
    have apart : (blankCodes.all fun n => wordRanges.all fun range => !(range.1.ble n && n.ble range.2)) = true := by
      decide +kernel
    obtain ⟨range, listed, low, high⟩ := inRanges_iff.mp other
    have outside := List.all_eq_true.mp (List.all_eq_true.mp apart _ (toNat_mem_blankCodes blank)) range listed
    rw [Nat.ble_eq_true_of_le low, Nat.ble_eq_true_of_le high] at outside
    exact absurd outside Bool.false_ne_true

end StaticStyles.Text
