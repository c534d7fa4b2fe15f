/-!
White space, and texts without white space at their ends.
-/
namespace StaticStyles.Text

/-- White space as Unicode defines it: 25 characters. -/
def isBlank (c : Char) : Bool :=
  ('\t' ≤ c && c ≤ '\r') || c = ' ' || c = '\u0085' || c = '\u00A0' || c = '\u1680' ||
    ('\u2000' ≤ c && c ≤ '\u200A') || c = '\u2028' || c = '\u2029' || c = '\u202F' ||
    c = '\u205F' || c = '\u3000'

/-- The white space of ASCII that source layout uses; the vertical tab is not among it. -/
def isLayout (c : Char) : Bool :=
  c = ' ' || c = '\t' || c = '\n' || c = '\x0C' || c = '\r'

theorem isBlank_of_isLayout {c : Char} (h : isLayout c = true) : isBlank c = true := by
  simp only [isLayout, Bool.or_eq_true, decide_eq_true_eq] at h
  rcases h with (((rfl | rfl) | rfl) | rfl) | rfl <;> decide

/-- What follows the white space at the beginning. -/
def skipBlanks (text : List Char) : List Char := text.dropWhile isBlank

/-- The text without the white space at its end. -/
def trimEnd (text : List Char) : List Char := (text.reverse.dropWhile isBlank).reverse

/-- The text without the white space at both ends. -/
def trim (text : List Char) : List Char := trimEnd (skipBlanks text)

/-- Whether there is nothing but white space. -/
def isBlankText (text : List Char) : Bool := text.all isBlank

@[simp] theorem skipBlanks_nil : skipBlanks [] = [] := rfl

theorem skipBlanks_length_le (text : List Char) : (skipBlanks text).length ≤ text.length :=
  (List.dropWhile_suffix isBlank).length_le

theorem skipBlanks_eq_nil_iff {text : List Char} : skipBlanks text = [] ↔ isBlankText text = true := by
  induction text with
  | nil => simp [isBlankText]
  | cons c rest ih =>
    simp only [isBlankText, skipBlanks, List.all_cons, Bool.and_eq_true] at ih ⊢
    by_cases h : isBlank c = true
    · simp [h, ih]
    · simp [h]

end StaticStyles.Text
