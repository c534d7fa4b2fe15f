import StaticStyles.Expression.Reference
import StaticStyles.Proofs.RenderedSource
import StaticStyles.Proofs.TernarySplit

/-!
Literals as they are written: texts in quotes, decimal numbers and booleans. A literal with white space around it is
read as its value (`Expression.Literal.literal?_text`), and it holds no mark that could split an expression.
-/
namespace StaticStyles

namespace Expression
open Text

/-! ## Literals -/

/-- Digits of any script, at least one. -/
def isDigits (text : List Char) : Bool := !text.isEmpty && text.all isDecimal

/-- A literal: a text in quotes on one line without its quote, a backslash or, in backticks, an interpolation; a number
with an optional minus and an optional fraction; or a boolean. -/
inductive Literal where
  | quoted (mark : Char) (inside : List Char) (quote : isQuote mark = true := by decide)
      (closed : mark ∉ inside := by decide) (unescaped : '\\' ∉ inside := by decide)
      (line : '\n' ∉ inside := by decide) (whole : mark = '\x60' → ¬ ['$', '{'] <:+: inside := by decide)
  | number (negative : Bool) (whole : List Char) (fraction : Option (List Char))
      (digits : isDigits whole = true := by decide) (further : fraction.all isDigits = true := by decide)
  | boolean (value : Bool)

namespace Literal

def text : Literal → List Char
  | quoted mark inside .. => mark :: (inside ++ [mark])
  | number negative whole fraction .. =>
    (if negative then ['-'] else []) ++ (whole ++ (fraction.map ('.' :: ·)).getD [])
  | boolean true => ['t', 'r', 'u', 'e']
  | boolean false => ['f', 'a', 'l', 's', 'e']

/-- What a literal stands for: a text without its quotes, and anything else as it is written. -/
def value : Literal → List Char
  | quoted _ inside .. => inside
  | literal => literal.text

end Literal

/-! ## Reading literals -/

theorem opensHole_eq_false {text : List Char} (whole : ¬ ['$', '{'] <:+: text) : opensHole text = false := by
  induction text with
  | nil => rfl
  | cons c text ih =>
    have later : ¬ ['$', '{'] <:+: text := fun inside => whole (List.infix_cons inside)
    rw [opensHole.eq_2]
    · exact ih later
    · rintro rest rfl rfl
      exact whole (List.prefix_append ['$', '{'] rest).isInfix

private theorem all_of_isDigits {text : List Char} (digits : isDigits text = true) :
    text ≠ [] ∧ ∀ c ∈ text, isDecimal c = true := by
  simpa [isDigits] using digits

theorem isUnmarked_of_isDecimal {c : Char} (digit : isDecimal c = true) : isUnmarked c = true :=
  isUnmarked_of rfl digit

private theorem dropWhile_digits {whole : List Char} (decimal : ∀ c ∈ whole, isDecimal c = true)
    (fraction : Option (List Char)) : (whole ++ (fraction.map ('.' :: ·)).getD []).dropWhile isDecimal =
      (fraction.map ('.' :: ·)).getD [] := by
  rw [List.dropWhile_append_of_pos decimal]
  cases fraction with
  | none => rfl
  | some digits => exact List.dropWhile_cons_of_neg (by decide)

private theorem isNumber_minus {first : Char} (unsigned : first ≠ '-') (rest : List Char) :
    isNumber ('-' :: first :: rest) = isNumber (first :: rest) := by
  conv_rhs => unfold isNumber
  split
  · next signed => exact absurd (List.cons.inj signed).1 unsigned
  · rfl

theorem isNumber_digits {whole : List Char} {fraction : Option (List Char)} (digits : isDigits whole = true)
    (further : fraction.all isDigits = true) (negative : Bool) :
    isNumber ((if negative then ['-'] else []) ++ (whole ++ (fraction.map ('.' :: ·)).getD [])) = true := by
  obtain ⟨some_digit, decimal⟩ := all_of_isDigits digits
  obtain ⟨first, others, rfl⟩ := List.exists_cons_of_ne_nil some_digit
  have starts : isDecimal first = true := decimal first List.mem_cons_self
  have unsigned : first ≠ '-' := by
    rintro rfl
    contradiction
  have rest := dropWhile_digits decimal fraction
  rw [List.cons_append] at rest ⊢
  have read : isNumber (first :: (others ++ (fraction.map ('.' :: ·)).getD [])) = true := by
    unfold isNumber
    split
    · next signed => exact absurd (List.cons.inj signed).1 unsigned
    · simp only [rest, List.head?_cons]
      cases fraction with
      | none => simp [starts]
      | some fraction => simpa [starts, isDigits] using further
  cases negative with
  | false => exact read
  | true => exact (isNumber_minus unsigned _).trans read

namespace Literal

theorem unmarked_text (literal : Literal) : Unmarked literal.text := by
  cases literal with
  | quoted mark inside quote closed unescaped => exact .quoted quote closed unescaped
  | number negative whole fraction digits further =>
    have plain {digits : List Char} (holds : isDigits digits = true) : Unmarked digits :=
      .of_all (List.all_eq_true.mpr fun c member => isUnmarked_of_isDecimal ((all_of_isDigits holds).2 c member))
    refine .append ?_ ((plain digits).append ?_)
    · cases negative with
      | false => exact .nil
      | true => exact .char rfl
    · cases fraction with
      | none => exact .nil
      | some fraction => exact (Unmarked.char (c := '.') rfl).append (plain further)
  | boolean value =>
    cases value with
    | false => exact .of_all rfl
    | true => exact .of_all rfl

/-- A literal without quotes: no character of it is white space or a quote, and it is read as it is written. -/
private structure IsBare (text : List Char) : Prop where
  some_char : text ≠ []
  solid : ∀ c ∈ text, isBlank c = false ∧ isQuote c = false
  read : bareLiteral? text = some text

private theorem IsBare.literal?_eq {text padded : List Char} (bare : IsBare text) (trimmed : trim padded = text) :
    literal? padded = some text := by
  obtain ⟨c, rest, rfl⟩ := List.exists_cons_of_ne_nil bare.some_char
  have unquoted : isQuote c = false := (bare.solid c List.mem_cons_self).2
  simp only [literal?, trimmed, unquoted]
  exact bare.read

private theorem isBare_number (negative : Bool) {whole : List Char} {fraction : Option (List Char)}
    (digits : isDigits whole = true) (further : fraction.all isDigits = true) :
    IsBare (number negative whole fraction digits further).text := by
  have digit {c : Char} (decimal : isDecimal c = true) : isBlank c = false ∧ isQuote c = false := by
    have unmarked := isUnmarked_of_isDecimal decimal
    simp only [isUnmarked, Bool.and_eq_true, Bool.not_eq_true'] at unmarked
    exact ⟨isBlank_of_isDecimal decimal, unmarked.1.1.1⟩
  obtain ⟨some_digit, decimal⟩ := all_of_isDigits digits
  refine ⟨by simp [text, some_digit], ?_, ?_⟩
  · intro c member
    rcases List.mem_append.mp member with sign | member
    · cases negative with
      | false => exact absurd sign List.not_mem_nil
      | true =>
        rw [List.mem_singleton.mp sign]
        decide
    rcases List.mem_append.mp member with member | member
    · exact digit (decimal c member)
    · cases fraction with
      | none => exact absurd member List.not_mem_nil
      | some fraction =>
        rcases List.mem_cons.mp member with rfl | member
        · decide
        · exact digit ((all_of_isDigits further).2 c member)
  · rw [text, bareLiteral?, isNumber_digits digits further]
    rfl

private theorem isBare_boolean (value : Bool) : IsBare (boolean value).text := by
  cases value with
  | false => exact ⟨List.cons_ne_nil _ _, by simp [text, isBlank, isQuote], rfl⟩
  | true => exact ⟨List.cons_ne_nil _ _, by simp [text, isBlank, isQuote], rfl⟩

theorem text_ne_nil (literal : Literal) : literal.text ≠ [] := by
  cases literal with
  | quoted => exact List.cons_ne_nil _ _
  | number negative _ _ digits further => exact (isBare_number negative digits further).some_char
  | boolean value => exact (isBare_boolean value).some_char

theorem isTrimmed_text (literal : Literal) : IsTrimmed literal.text := by
  cases literal with
  | quoted mark inside quote =>
    have quotes : mark = '\'' ∨ mark = '"' ∨ mark = '\x60' := by
      simpa [isQuote, or_assoc] using quote
    have solid : isBlank mark = false := by rcases quotes with rfl | rfl | rfl <;> decide
    exact ⟨by simpa [text] using solid, by simpa [text, List.getLast?_cons] using solid⟩
  | number negative _ _ digits further =>
    exact isTrimmed_of_all fun c member => ((isBare_number negative digits further).solid c member).1
  | boolean value => exact isTrimmed_of_all fun c member => ((isBare_boolean value).solid c member).1

theorem line_text (literal : Literal) : '\n' ∉ literal.text := by
  have solid {text : List Char} (bare : IsBare text) : '\n' ∉ text := by
    intro member
    exact absurd (bare.solid _ member).1 (by decide)
  cases literal with
  | quoted mark inside quote closed unescaped line =>
    have other : mark ≠ '\n' := by
      rintro rfl
      contradiction
    simp [text, line, Ne.symm other]
  | number negative _ _ digits further => exact solid (isBare_number negative digits further)
  | boolean value => exact solid (isBare_boolean value)

/-- A literal is read as its value, with white space around it or without. -/
theorem literal?_text (literal : Literal) {before after : List Char} (lead : isBlankText before = true)
    (trail : isBlankText after = true) : literal? (before ++ (literal.text ++ after)) = some literal.value := by
  have trimmed := literal.isTrimmed_text.trim_eq lead trail
  cases literal with
  | quoted mark inside quote closed unescaped line whole =>
    have enclosed : enclosed? mark (inside ++ [mark]) = some inside := by simp [enclosed?]
    have plain : isPlainInside mark inside = true := by
      by_cases template : mark = '\x60'
      · simp [isPlainInside, closed, opensHole_eq_false (whole template)]
      · simp [isPlainInside, closed, template]
    rw [literal?, trimmed]
    simp only [text, value, if_pos quote, enclosed, plain, if_true]
  | number negative _ _ digits further => exact (isBare_number negative digits further).literal?_eq trimmed
  | boolean value => exact (isBare_boolean value).literal?_eq trimmed

theorem literal?_self (literal : Literal) : literal? literal.text = some literal.value := by
  have none : isBlankText [] = true := rfl
  have value := literal.literal?_text none none
  rwa [List.nil_append, List.append_nil] at value

/-- A literal behind an operator is its operand. -/
theorem operand?_text (literal : Literal) : operand? (' ' :: literal.text) = some literal.text := by
  have skipped : skipBlanks (' ' :: literal.text) = literal.text := by
    obtain ⟨first, rest, split⟩ := List.exists_cons_of_ne_nil literal.text_ne_nil
    have solid : isBlank first = false := literal.isTrimmed_text.first first (by rw [split]; rfl)
    rw [split]
    exact skipBlanks_cons solid rest
  simp [operand?, skipped, literal.text_ne_nil, literal.line_text]

end Literal
end Expression
end StaticStyles
