import StaticStyles.Proofs.WrittenExpression

/-!
Logical defaults. Of the two operators that put a literal in the place of a value, `||` keeps what counts as true, and
`??` keeps what is neither `null` nor `undefined`. Both are read as one shape, which keeps what is looked up and counts
as true, and which forgets a default in the parameter list. So `??` is evaluated otherwise than it says for some value,
and `||` is always evaluated as it says exactly if no such default is in the way (`Expression.logical_default_iff`).
-/
namespace StaticStyles.Expression
open Text Source

/-! ## What the operators say -/

/-- An operator that puts a literal in the place of a value: `||` or `??`. -/
inductive Logical where
  | or
  | coalesce
deriving DecidableEq, Repr

namespace Logical

def text : Logical → List Char
  | or => ['|', '|']
  | coalesce => ['?', '?']

/-- Whether an operator keeps a value that exists. -/
def keeps (operator : Logical) (value : String) : Bool :=
  match operator with
  | or => isTruthy value
  | coalesce => value ≠ "null" && value ≠ "undefined"

/-- What an operator makes of a value, perhaps an absent one, and a literal. -/
def result (operator : Logical) (value : Option String) (other : String) : String :=
  (value.filter operator.keeps).getD other

theorem unmarked_text (operator : Logical) : Unmarked operator.text := by
  cases operator with
  | or => exact .of_all rfl
  | coalesce => exact .double (.inr rfl)

theorem keeps_of_isTruthy {value : String} (truth : isTruthy value = true) (operator : Logical) :
    operator.keeps value = true := by
  cases operator with
  | or => exact truth
  | coalesce =>
    have other : value ≠ "null" ∧ value ≠ "undefined" := by
      constructor <;> (rintro rfl; exact absurd truth (by decide))
    simp [keeps, other]

/-- To keep of a value only what is looked up and counts as true is what an operator says exactly if nothing but this
and the literal itself is kept by the operator. -/
theorem or_result_eq_iff (operator : Logical) (found given : Option String) (other : String) :
    or.result found other = operator.result (found.or given) other ↔
      ∀ kept ∈ (found.or given).filter operator.keeps, kept = other ∨ kept ∈ found.filter isTruthy := by
  have truths : or.result found other = (found.filter isTruthy).getD other := rfl
  rw [truths, result]
  cases true_value : found.filter isTruthy with
  | some value =>
    obtain ⟨rfl, truth⟩ := Option.filter_eq_some_iff.mp true_value
    have kept : ((some value).or given).filter operator.keeps = some value :=
      Option.filter_eq_some_iff.mpr ⟨rfl, keeps_of_isTruthy truth operator⟩
    rw [kept]
    simp
  | none =>
    cases (found.or given).filter operator.keeps with
    | none => simp
    | some kept => simp [eq_comm]

end Logical

/-! ## How they are read -/

/-- The expression that a logical default on the prop of a subject is read as. -/
def Subject.fallback (subject : Subject) (literal : Literal) : Expression where
  prop := String.ofList subject.prop.path
  shape := .fallback literal.string
  default := some literal.string

section
variable (subject : Subject) (undotted : subject.prop.members = []) (operator : Logical) (literal : Literal)

theorem isBody_logical (reference : Reference) : IsBody (operation reference operator.text literal) := by
  refine reference.isBody_append (isTrimmed_operation reference operator.text literal) ?_ ?_
  · rintro c ⟨⟩
    rfl
  · cases operator <;> rfl

include undotted in
/-- Both operators are read as the same expression, without the default of the parameter list. -/
theorem ofText?_logical : ofText? (subject.preamble.text ++ operation subject.reference operator.text literal) =
    some (subject.fallback literal) := by
  have unmarked := unmarked_operation subject.reference operator.unmarked_text literal
  have whole := isBody_logical operator literal subject.reference
  have gap : skipBlanks (' ' :: (operator.text ++ ' ' :: literal.text)) = operator.text ++ ' ' :: literal.text := by
    cases operator <;> rfl
  have sign : ((after? "||" (operator.text ++ ' ' :: literal.text)).orElse fun _ =>
      after? "??" (operator.text ++ ' ' :: literal.text)) = some (' ' :: literal.text) := by
    cases operator <;> rfl
  have shape : onPath subject.prop.path (some literal.value) (.fallback literal.string) = subject.fallback literal := by
    rw [onPath, Reference.contains_path, undotted]
    rfl
  have read : fallback? subject.preamble.scope (operation subject.reference operator.text literal) =
      some (subject.fallback literal) := by
    rw [← shape]
    simp only [fallback?, path?_operation, Option.bind_eq_bind, Option.bind_some, gap, sign, literal.operand?_text,
      literal.literal?_self, subject.resolve?_path]
    rfl
  rw [ofText?_of_ternary?_eq_none _ whole unmarked.ternary?_eq_none, read]
  rfl

/-- What is read keeps what is looked up and counts as true. -/
theorem eval?_fallback (lookup : String → Option String) : (subject.fallback literal).eval? lookup =
    some (Logical.or.result (lookup (String.ofList subject.prop.path)) literal.string) := by
  have given : (lookup (subject.fallback literal).prop).or (subject.fallback literal).default =
      (lookup (String.ofList subject.prop.path)).or (some literal.string) := rfl
  have shape : (subject.fallback literal).shape = .fallback literal.string := rfl
  rw [eval?, given, shape]
  cases found : lookup (String.ofList subject.prop.path) with
  | none => cases truth : isTruthy literal.string <;> simp [Logical.result, Option.filter, truth]
  | some value => rfl

/-- That is what the operator says exactly if a value that the operator keeps is the literal itself or is looked up and
counts as true. -/
theorem eval?_fallback_iff (lookup : String → Option String) :
    (subject.fallback literal).eval? lookup = some (operator.result (subject.value lookup) literal.string) ↔
      ∀ kept ∈ (subject.value lookup).filter operator.keeps, kept = literal.string ∨
        kept ∈ (lookup (String.ofList subject.prop.path)).filter isTruthy := by
  rw [eval?_fallback, Option.some.injEq]
  exact operator.or_result_eq_iff _ _ _

/-- For every lookup it is what the operator says exactly if the operator is `||` and the parameter list gives the prop
no default that counts as true, other than the literal. -/
theorem eval?_fallback_forall_iff :
    (∀ lookup, (subject.fallback literal).eval? lookup =
      some (operator.result (subject.value lookup) literal.string)) ↔
        operator = .or ∧ ∀ given ∈ (subject.preamble.default? subject.reference).map String.ofList,
          isTruthy given = true → given = literal.string := by
  simp only [eval?_fallback_iff]
  constructor
  · intro agrees
    have is_or : operator = .or := by
      cases operator with
      | or => rfl
      | coalesce =>
        -- the literal would have to be both of these values, which exist and do not count as true
        have falsy : isTruthy "0" = false ∧ isTruthy "" = false := by decide
        have zero : "0" = literal.string := by simpa [falsy] using agrees (fun _ => some "0") "0" rfl
        have empty : literal.string = "" := by simpa [falsy] using agrees (fun _ => some "") "" rfl
        exact absurd (zero.trans empty) (by decide)
    subst is_or
    refine ⟨rfl, fun given default truth => ?_⟩
    have kept := agrees (fun _ => none) given (Option.filter_eq_some_iff.mpr ⟨default, truth⟩)
    simpa using kept
  · rintro ⟨rfl, fits⟩ lookup kept member
    obtain ⟨value, truth⟩ := Option.filter_eq_some_iff.mp member
    rw [Subject.value, Option.or_eq_some_iff] at value
    rcases value with found | ⟨_, default⟩
    · exact .inr (Option.filter_eq_some_iff.mpr ⟨found, truth⟩)
    · exact .inl (fits kept default truth)

end

/-- A logical default on a prop is always read, whatever its operator as one expression, which is evaluated as `||` on
what is looked up alone. That is what the operator says of the value of the prop exactly if the operator keeps nothing
but the literal itself or what is looked up and counts as true. So it holds for every lookup exactly of `||` where the
parameter list gives no default that counts as true, other than the literal. -/
theorem logical_default_iff (subject : Subject) (undotted : subject.prop.members = []) (operator : Logical)
    (literal : Literal) :
    ofText? (subject.preamble.text ++ operation subject.reference operator.text literal) =
        some (subject.fallback literal) ∧
      (∀ lookup, (subject.fallback literal).eval? lookup =
        some (Logical.or.result (lookup (String.ofList subject.prop.path)) literal.string)) ∧
      (∀ lookup, (subject.fallback literal).eval? lookup =
          some (operator.result (subject.value lookup) literal.string) ↔
        ∀ kept ∈ (subject.value lookup).filter operator.keeps, kept = literal.string ∨
          kept ∈ (lookup (String.ofList subject.prop.path)).filter isTruthy) ∧
      ((∀ lookup, (subject.fallback literal).eval? lookup =
          some (operator.result (subject.value lookup) literal.string)) ↔
        operator = .or ∧ ∀ given ∈ (subject.preamble.default? subject.reference).map String.ofList,
          isTruthy given = true → given = literal.string) :=
  ⟨ofText?_logical subject undotted operator literal, eval?_fallback subject literal,
    eval?_fallback_iff subject operator literal, eval?_fallback_forall_iff subject operator literal⟩

/-- The prop `size`, with the default `md`. -/
def sizeSubject : Subject where
  preamble := .object [⟨['s', 'i', 'z', 'e'], some (.quoted '\'' ['m', 'd']), by decide, by decide⟩] none
  reference := ⟨['s', 'i', 'z', 'e'], [], by decide⟩
  prop := ⟨['s', 'i', 'z', 'e'], [], by decide⟩

/-- The prop `gap`, without a default. -/
def gapSubject : Subject where
  preamble := .bare ['p']
  reference := ⟨['p'], [⟨['g', 'a', 'p'], false, by decide⟩], by decide⟩
  prop := ⟨['g', 'a', 'p'], [], by decide⟩

example : gapSubject.preamble.text ++ operation gapSubject.reference Logical.coalesce.text (.number false ['4'] none) =
    "p => p.gap ?? 4".toList := by decide

/-- With `md` in both places, `size || 'md'` is always evaluated as it says. -/
theorem logical_default_iff_size : sizeSubject.prop.members = [] ∧
    ∀ lookup, (sizeSubject.fallback (.quoted '\'' ['m', 'd'])).eval? lookup =
      some (Logical.or.result (sizeSubject.value lookup) "md") := by
  obtain ⟨_, _, _, always⟩ := logical_default_iff sizeSubject rfl .or (.quoted '\'' ['m', 'd'])
  refine ⟨rfl, always.mpr ⟨rfl, ?_⟩⟩
  rintro given ⟨⟩ _
  rfl

/-- With the default `md`, an absent `size || 'lg'` is evaluated to `lg`, and a `gap ?? 4` of `0` to `4`. -/
theorem logical_default_misread :
    ((ofText? (sizeSubject.preamble.text ++
          operation sizeSubject.reference Logical.or.text (.quoted '\'' ['l', 'g']))).bind
        (·.eval? fun _ => none) = some "lg" ∧
      Logical.or.result (sizeSubject.value fun _ => none) "lg" = "md") ∧
    ((ofText? (gapSubject.preamble.text ++
          operation gapSubject.reference Logical.coalesce.text (.number false ['4'] none))).bind
        (·.eval? fun _ => some "0") = some "4" ∧
      Logical.coalesce.result (gapSubject.value fun _ => some "0") "4" = "0") := by
  rw [ofText?_logical sizeSubject rfl, ofText?_logical gapSubject rfl]
  refine ⟨⟨?_, ?_⟩, ?_, ?_⟩ <;> decide

end StaticStyles.Expression
