import StaticStyles.Expression.Shape
import StaticStyles.Proofs.WrittenReference

/-!
Expressions as they are written: a reference to a prop with its preamble, compared with a literal, asked for truth, or
alone. Whatever its literals hold, such a text is read as the shape that it was written in, and evaluated as it says
(`Expression.written_expression_read`).
-/
namespace StaticStyles.Expression
open Text Source

/-! ## Forms -/

/-- An operator that compares a value with a literal. -/
inductive Comparison where
  | strictlyEqual
  | equal
  | strictlyUnequal
  | unequal
deriving DecidableEq, Repr

namespace Comparison

def text : Comparison → List Char
  | strictlyEqual => ['=', '=', '=']
  | equal => ['=', '=']
  | strictlyUnequal => ['!', '=', '=']
  | unequal => ['!', '=']

def negated : Comparison → Bool
  | strictlyEqual | equal => false
  | strictlyUnequal | unequal => true

/-- What an operator says of a value, perhaps an absent one, and another. -/
def holds (comparison : Comparison) (value : Option String) (other : String) : Bool :=
  match comparison with
  | strictlyEqual | equal => value = some other
  | strictlyUnequal | unequal => value ≠ some other

end Comparison

/-- What a literal stands for, as a string. -/
def Literal.string (literal : Literal) : String := String.ofList literal.value

/-- What is written about a reference `r`: `r === l ? a : b`, also with the other operators, `r ? a : b`, perhaps with
`!` before the reference, or the reference alone. -/
inductive Form where
  | compare (comparison : Comparison) (against yes no : Literal)
  | choose (negated : Bool) (yes no : Literal)
  | plain

/-- A reference, an operator and a literal. -/
def operation (reference : Reference) (sign : List Char) (literal : Literal) : List Char :=
  reference.text ++ ' ' :: (sign ++ ' ' :: literal.text)

/-- A reference alone, perhaps negated. -/
def question (negated : Bool) (reference : Reference) : List Char :=
  (if negated then ['!'] else []) ++ reference.text

/-- A condition and two branches. -/
def conditional (condition : List Char) (yes no : Literal) : List Char :=
  (condition ++ [' ']) ++ '?' :: ' ' :: ((yes.text ++ [' ']) ++ ':' :: ' ' :: no.text)

namespace Form

def text (form : Form) (reference : Reference) : List Char :=
  match form with
  | compare comparison against yes no => conditional (operation reference comparison.text against) yes no
  | choose negated yes no => conditional (question negated reference) yes no
  | plain => reference.text

/-- The shape of a form; a negated question is one with its branches exchanged. -/
def shape : Form → Shape
  | compare comparison against yes no =>
    .equality against.string comparison.negated (some yes.string) (some no.string)
  | choose true yes no => .truthy (some no.string) (some yes.string)
  | choose false yes no => .truthy (some yes.string) (some no.string)
  | plain => .direct

/-- What a form says for a value of its prop. -/
def result (form : Form) (value : Option String) : Option String :=
  match form with
  | compare comparison against yes no =>
    if comparison.holds value against.string then some yes.string else some no.string
  | choose negated yes no => if value.any isTruthy != negated then some yes.string else some no.string
  | plain => value

end Form

/-- The expression on the prop of a subject, with a given shape. A member of a prop is no more than a member. -/
def Subject.expression (subject : Subject) (shape : Shape) : Expression where
  prop := String.ofList subject.prop.path
  shape := if subject.prop.members = [] then shape else .member
  default := (subject.preamble.default? subject.reference).map String.ofList

/-- The value of the prop of a subject: what is looked up, or else the default. -/
def Subject.value (subject : Subject) (lookup : String → Option String) : Option String :=
  (lookup (String.ofList subject.prop.path)).or ((subject.preamble.default? subject.reference).map String.ofList)

/-! ## Reading the parts -/

theorem Reference.text_ne_nil (reference : Reference) : reference.text ≠ [] := by
  obtain ⟨first, begins, _⟩ := reference.head?_text []
  rintro none
  simp [none] at begins

theorem Reference.contains_path (reference : Reference) :
    reference.path.contains '.' = !reference.members.isEmpty := by
  obtain ⟨name, members, named⟩ := reference
  cases members with
  | nil =>
    have absent : '.' ∉ name := fun member => absurd (isIdentifierPart_of_mem named member) (by decide)
    simpa [path] using absent
  | cons member members => simp [path, Member.path]

theorem Subject.onPath_eq (subject : Subject) (shape : Shape) :
    onPath subject.prop.path (subject.preamble.default? subject.reference) shape = subject.expression shape := by
  rw [onPath, Subject.expression, Reference.contains_path]
  cases subject.prop.members with
  | nil => rfl
  | cons => rfl

theorem Comparison.comparison?_text (comparison : Comparison) (rest : List Char) :
    comparison? (comparison.text ++ ' ' :: rest) = some (comparison.negated, ' ' :: rest) := by
  cases comparison <;> rfl

theorem Comparison.unmarked_text (comparison : Comparison) : Unmarked comparison.text := by
  refine .of_all ?_
  cases comparison <;> rfl

theorem isTrimmed_conditional {condition : List Char} (trimmed : IsTrimmed condition) (some_char : condition ≠ [])
    (yes no : Literal) : IsTrimmed (conditional condition yes no) := by
  obtain ⟨first, rest, rfl⟩ := List.exists_cons_of_ne_nil some_char
  have split : conditional (first :: rest) yes no =
      ((first :: rest) ++ [' '] ++ '?' :: ' ' :: ((yes.text ++ [' ']) ++ [':', ' '])) ++ no.text := by
    simp [conditional]
  rw [split]
  refine no.isTrimmed_text.prepend no.text_ne_nil ?_
  rintro c ⟨⟩
  exact trimmed.first first rfl

theorem ternary?_conditional {condition : List Char} (asked : Unmarked condition) (yes no : Literal) :
    ternary? (conditional condition yes no) = some (condition ++ [' '], ' ' :: (yes.text ++ [' ']), ' ' :: no.text) :=
  have blank : Unmarked [' '] := .char rfl
  ternary?_append (asked.append blank) (blank.append (yes.unmarked_text.append blank)) (' ' :: no.text)

theorem branchValue_text (literal : Literal) {after : List Char} (trail : isBlankText after = true) :
    branchValue (' ' :: (literal.text ++ after)) = some literal.string := by
  have space : isBlankText [' '] = true := rfl
  have value := literal.literal?_text space trail
  rw [List.singleton_append] at value
  rw [branchValue, value]
  rfl

theorem branchValue_yes (literal : Literal) : branchValue (' ' :: (literal.text ++ [' '])) = some literal.string :=
  branchValue_text literal rfl

theorem branchValue_no (literal : Literal) : branchValue (' ' :: literal.text) = some literal.string := by
  have none : isBlankText [] = true := rfl
  have value := branchValue_text literal none
  rwa [List.append_nil] at value

/-- A preamble and a body are tried as each shape in the scope that the preamble opens. -/
theorem ofText?_append (preamble : Preamble) {body : List Char} (whole : IsBody body) :
    ofText? (preamble.text ++ body) =
      (equality? preamble.scope body).orElse fun _ => (truthy? preamble.scope body).orElse fun _ =>
        (fallback? preamble.scope body).orElse fun _ => direct? preamble.scope body := by
  have bare : unwrap body = body := by
    obtain ⟨first, rest, rfl⟩ := List.exists_cons_of_ne_nil whole.some_char
    refine unwrap.eq_2 _ ?_
    rintro rest ⟨⟩
    exact whole.bare rfl
  rw [ofText?, (preamble.isTrimmed_append whole).trim_self, openScope_text preamble whole]
  simp only [whole.trimmed.trim_self, bare]

/-! ## Reading operations and questions -/

theorem isTrimmed_operation (reference : Reference) (sign : List Char) (literal : Literal) :
    IsTrimmed (operation reference sign literal) := by
  obtain ⟨first, begins, starts⟩ := reference.head?_text (' ' :: (sign ++ [' ']))
  have split : operation reference sign literal = reference.text ++ ' ' :: (sign ++ [' ']) ++ literal.text := by
    simp [operation]
  rw [split]
  refine literal.isTrimmed_text.prepend literal.text_ne_nil ?_
  rw [begins]
  rintro c ⟨⟩
  exact isBlank_of_isNameStart starts

theorem unmarked_operation (reference : Reference) {sign : List Char} (plain : Unmarked sign) (literal : Literal) :
    Unmarked (operation reference sign literal) :=
  have blank : Unmarked [' '] := .char rfl
  reference.unmarked_text.append (blank.append (plain.append (blank.append literal.unmarked_text)))

theorem path?_operation (reference : Reference) (sign : List Char) (literal : Literal) :
    path? (operation reference sign literal) = some (reference.path, ' ' :: (sign ++ ' ' :: literal.text)) :=
  path?_text reference (pathTail_blank _)

theorem path?_reference (reference : Reference) : path? reference.text = some (reference.path, []) := by
  have path : path? (reference.text ++ []) = some (reference.path, []) := path?_text reference rfl
  rwa [List.append_nil] at path

theorem isTrimmed_question (negated : Bool) (reference : Reference) : IsTrimmed (question negated reference) := by
  refine reference.isTrimmed_text.prepend reference.text_ne_nil ?_
  cases negated with
  | false => rintro c ⟨⟩
  | true =>
    rintro c ⟨⟩
    rfl

theorem unmarked_question (negated : Bool) (reference : Reference) : Unmarked (question negated reference) := by
  refine .append ?_ reference.unmarked_text
  cases negated with
  | false => exact .nil
  | true => exact .char rfl

/-! ## Reading each form -/

section
variable (subject : Subject)

private theorem isBody_compared (comparison : Comparison) (against yes no : Literal) :
    IsBody (conditional (operation subject.reference comparison.text against) yes no) := by
  have some_char : operation subject.reference comparison.text against ≠ [] := by simp [operation]
  have trimmed := isTrimmed_conditional (isTrimmed_operation subject.reference comparison.text against) some_char yes no
  rw [conditional, operation, List.append_assoc, List.append_assoc] at trimmed ⊢
  refine subject.reference.isBody_append trimmed ?_ ?_
  · rintro c ⟨⟩
    rfl
  · cases comparison <;> rfl

/-- A comparison is read before anything else is tried. -/
theorem ofText?_compare (comparison : Comparison) (against yes no : Literal) :
    ofText? (subject.preamble.text ++ (Form.compare comparison against yes no).text subject.reference) =
      some (subject.expression (Form.compare comparison against yes no).shape) := by
  have unmarked : Unmarked (operation subject.reference comparison.text against) :=
    unmarked_operation subject.reference comparison.unmarked_text against
  have trimmed := (isTrimmed_operation subject.reference comparison.text against).trim_append_blank
  have gap : skipBlanks (' ' :: (comparison.text ++ ' ' :: against.text)) = comparison.text ++ ' ' :: against.text := by
    cases comparison <;> rfl
  have read : equality? subject.preamble.scope
      (conditional (operation subject.reference comparison.text against) yes no) =
        some (subject.expression (Form.compare comparison against yes no).shape) := by
    simp only [equality?, ternary?_conditional unmarked, trimmed, path?_operation, gap, comparison.comparison?_text,
      against.operand?_text, against.literal?_self, subject.resolve?_path, branchValue_yes, branchValue_no,
      Option.bind_eq_bind, Option.bind_some, subject.onPath_eq]
    rfl
  rw [Form.text, ofText?_append _ (isBody_compared subject comparison against yes no), read]
  rfl

private theorem isBody_asked (negated : Bool) (yes no : Literal) :
    IsBody (conditional (question negated subject.reference) yes no) := by
  have some_char : question negated subject.reference ≠ [] := by simp [question, subject.reference.text_ne_nil]
  have trimmed := isTrimmed_conditional (isTrimmed_question negated subject.reference) some_char yes no
  cases negated with
  | false =>
    have split : conditional (question false subject.reference) yes no = subject.reference.text ++
        ([' '] ++ '?' :: ' ' :: ((yes.text ++ [' ']) ++ ':' :: ' ' :: no.text)) := List.append_assoc _ _ _
    rw [split] at trimmed ⊢
    refine subject.reference.isBody_append trimmed ?_ rfl
    rintro c ⟨⟩
    rfl
  | true =>
    refine ⟨trimmed, List.cons_ne_nil _ _, ?_, ?_⟩
    · rintro ⟨⟩
    · rintro name rest ⟨⟩

theorem equality?_question (scope : Scope) (negated : Bool) (reference : Reference) (yes no : Literal) :
    equality? scope (conditional (question negated reference) yes no) = none := by
  -- its condition has the same parts, but no operator behind the reference
  simp only [equality?, ternary?_conditional (unmarked_question negated reference),
    (isTrimmed_question negated reference).trim_append_blank, Option.bind_eq_bind, Option.bind_some]
  cases negated with
  | false =>
    have plain : question false reference = reference.text := rfl
    simp only [plain, path?_reference, Option.bind_some]
    rfl
  | true => rfl

/-- A question chooses by truth, and its negation exchanges the branches. -/
theorem truthy?_question (negated : Bool) (yes no : Literal) :
    truthy? subject.preamble.scope (conditional (question negated subject.reference) yes no) =
      some (subject.expression (Form.choose negated yes no).shape) := by
  have path := path?_reference subject.reference
  have trimmed := (isTrimmed_question negated subject.reference).trim_append_blank
  obtain ⟨first, begins, starts⟩ := subject.reference.head?_text []
  obtain ⟨rest, split⟩ := List.head?_eq_some_iff.mp begins
  rw [List.append_nil] at split
  rw [split] at path
  rw [truthy?, ternary?_conditional (unmarked_question negated subject.reference)]
  cases negated with
  | false =>
    -- the reference begins with a name, not with a negation
    have other : first ≠ '!' := by
      rintro rfl
      contradiction
    have condition : question false subject.reference = first :: rest := split
    rw [condition, List.cons_append] at trimmed
    simp [condition, trimmed, path, other, branchValue_yes, branchValue_no, subject.resolve?_path,
      subject.onPath_eq, Form.shape]
  | true =>
    have condition : question true subject.reference = '!' :: first :: rest := congrArg ('!' :: ·) split
    have gap : skipBlanks (first :: rest) = first :: rest := skipBlanks_cons (isBlank_of_isNameStart starts) rest
    rw [condition, List.cons_append, List.cons_append] at trimmed
    simp [condition, trimmed, gap, path, branchValue_yes, branchValue_no, subject.resolve?_path, subject.onPath_eq,
      Form.shape]

theorem ofText?_choose (negated : Bool) (yes no : Literal) :
    ofText? (subject.preamble.text ++ (Form.choose negated yes no).text subject.reference) =
      some (subject.expression (Form.choose negated yes no).shape) := by
  rw [Form.text, ofText?_append _ (isBody_asked subject negated yes no), equality?_question, truthy?_question]
  rfl

/-- A text without parts is neither a comparison nor a question. -/
theorem ofText?_of_ternary?_eq_none (preamble : Preamble) {body : List Char} (whole : IsBody body)
    (parts : ternary? body = none) : ofText? (preamble.text ++ body) =
      (fallback? preamble.scope body).orElse fun _ => direct? preamble.scope body := by
  have uncompared : equality? preamble.scope body = none := by rw [equality?, parts]; rfl
  have unasked : truthy? preamble.scope body = none := by rw [truthy?, parts]; rfl
  rw [ofText?_append preamble whole, uncompared, unasked]
  rfl

theorem ofText?_plain :
    ofText? (subject.preamble.text ++ Form.plain.text subject.reference) =
      some (subject.expression Form.plain.shape) := by
  have path := path?_reference subject.reference
  have whole : IsBody subject.reference.text := by
    have trimmed := subject.reference.isTrimmed_text
    rw [← List.append_nil subject.reference.text] at trimmed ⊢
    exact subject.reference.isBody_append trimmed (by rintro c ⟨⟩) rfl
  have alone : fallback? subject.preamble.scope subject.reference.text = none := by
    rw [fallback?, path]
    rfl
  have read : direct? subject.preamble.scope subject.reference.text = some (subject.expression .direct) := by
    rw [direct?, path]
    simp [subject.resolve?_path, subject.onPath_eq]
  rw [Form.text, ofText?_of_ternary?_eq_none _ whole subject.reference.unmarked_text.ternary?_eq_none, alone, read]
  rfl

theorem ofText?_form (form : Form) :
    ofText? (subject.preamble.text ++ form.text subject.reference) = some (subject.expression form.shape) := by
  cases form with
  | compare comparison against yes no => exact ofText?_compare subject comparison against yes no
  | choose negated yes no => exact ofText?_choose subject negated yes no
  | plain => exact ofText?_plain subject

theorem Comparison.holds_eq (comparison : Comparison) (value : Option String) (other : String) :
    comparison.holds value other = (decide (value = some other) != comparison.negated) := by
  cases comparison <;> simp [holds, Comparison.negated]

/-- The shape of a form gives what the form says. -/
theorem eval?_form (form : Form) (undotted : subject.prop.members = []) (lookup : String → Option String) :
    (subject.expression form.shape).eval? lookup = form.result (subject.value lookup) := by
  have given : (lookup (subject.expression form.shape).prop).or (subject.expression form.shape).default =
      subject.value lookup := rfl
  have shape : (subject.expression form.shape).shape = form.shape := if_pos undotted
  rw [eval?, given, shape]
  cases form with
  | compare comparison against yes no => simp only [Form.shape, Form.result, comparison.holds_eq]
  | choose negated yes no =>
    cases negated with
    | false => simp [Form.shape, Form.result]
    | true => cases truth : (subject.value lookup).any isTruthy <;> simp [Form.shape, Form.result, truth]
  | plain => rfl

end

/-- An expression as it is written is read as the shape that it was written in, with its prop, its default and its
literals, and evaluated as it says: by comparison or by truth of the value that is looked up, or else of the default,
and by nothing if it is about a member of its prop. -/
theorem written_expression_read (subject : Subject) (form : Form) :
    ofText? (subject.preamble.text ++ form.text subject.reference) = some (subject.expression form.shape) ∧
      ∀ lookup, (subject.expression form.shape).eval? lookup =
        if subject.prop.members = [] then form.result (subject.value lookup) else none := by
  refine ⟨ofText?_form subject form, fun lookup => ?_⟩
  split
  · next undotted => exact eval?_form subject form undotted lookup
  · next dotted =>
    have shape : (subject.expression form.shape).shape = .member := if_neg dotted
    rw [eval?, shape]

example : ofText? "v => v?.kind !== 'a ? b : c' ? '=> (' : -1.5".toList =
    some ⟨"kind", .equality "a ? b : c" true (some "=> (") (some "-1.5"), none⟩ := by
  decide

end StaticStyles.Expression
