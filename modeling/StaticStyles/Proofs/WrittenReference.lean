import StaticStyles.Proofs.WrittenLiteral

/-!
References to props as they are written, with the parameter list in front of them. A parameter list opens the scope
that it says (`Expression.openScope_text`), and in it a reference that fits is resolved to its prop, with the default
that the list gives the prop (`Expression.Subject.resolve?_path`).
-/
namespace StaticStyles.Expression
open Text Source

/-! ## References -/

/-- A member of a value, behind a dot or behind `?.`. -/
structure Member where
  name : List Char
  optional : Bool
  named : isIdentifier name = true := by decide

/-- A name, and members of members of it. -/
structure Reference where
  name : List Char
  members : List Member
  named : isIdentifier name = true := by decide

namespace Member

def text (member : Member) : List Char := (if member.optional then ['?', '.'] else ['.']) ++ member.name

def path (member : Member) : List Char := '.' :: member.name

end Member

namespace Reference

def text (reference : Reference) : List Char := reference.name ++ reference.members.flatMap Member.text

/-- The reference with plain dots. -/
def path (reference : Reference) : List Char := reference.name ++ reference.members.flatMap Member.path

/-- What a reference to a value of the given name refers to below it. -/
def below? (reference : Reference) (name : List Char) : Option Reference :=
  match reference.members with
  | [] => none
  | member :: members => if reference.name = name then some ⟨member.name, members, member.named⟩ else none

end Reference

/-! ## Reading names and references -/

theorem isTrimmed_name {name : List Char} (named : isIdentifier name = true) : IsTrimmed name :=
  isTrimmed_of_all fun _ member => isBlank_of_isIdentifierPart (isIdentifierPart_of_mem named member)

theorem head?_name {name : List Char} (named : isIdentifier name = true) (rest : List Char) :
    ∃ first, (name ++ rest).head? = some first ∧ isNameStart first = true := by
  obtain ⟨first, parts, rfl, starts, _⟩ := exists_of_isIdentifier named
  exact ⟨first, rfl, starts⟩

theorem pathTail_part {c : Char} (part : isNamePart c = true) (rest : List Char) :
    pathTail (c :: rest) = (c :: (pathTail rest).1, (pathTail rest).2) := by
  have question : c ≠ '?' := by
    rintro rfl
    exact absurd part (by decide)
  have dot : c ≠ '.' := by
    rintro rfl
    exact absurd part (by decide)
  rw [pathTail.eq_3 _ _ (by simp [question]) (by simp [dot]), if_pos part]

theorem pathTail_parts {parts : List Char} (inside : ∀ c ∈ parts, isNamePart c = true) (rest : List Char) :
    pathTail (parts ++ rest) = (parts ++ (pathTail rest).1, (pathTail rest).2) := by
  induction parts with
  | nil => rfl
  | cons c parts ih =>
    obtain ⟨part, further⟩ := List.forall_mem_cons.mp inside
    rw [List.cons_append, pathTail_part part, ih further]
    rfl

theorem pathTail_member (member : Member) (rest : List Char) :
    pathTail (member.text ++ rest) = (member.path ++ (pathTail rest).1, (pathTail rest).2) := by
  obtain ⟨name, optional, named⟩ := member
  obtain ⟨first, parts, rfl, starts, further⟩ := exists_of_isIdentifier named
  have tail := pathTail_parts (fun c member => isNamePart_of_isIdentifierPart (further c member)) rest
  cases optional with
  | false =>
    rw [Member.text, if_neg Bool.false_ne_true, List.singleton_append, List.cons_append, List.cons_append, pathTail,
      if_pos starts, tail]
    rfl
  | true =>
    rw [Member.text, if_pos rfl, List.cons_append, List.singleton_append, List.cons_append, List.cons_append,
      List.cons_append, pathTail, if_pos starts, tail]
    rfl

theorem pathTail_members (members : List Member) (rest : List Char) :
    pathTail (members.flatMap Member.text ++ rest) =
      (members.flatMap Member.path ++ (pathTail rest).1, (pathTail rest).2) := by
  induction members with
  | nil => rfl
  | cons member members ih =>
    rw [List.flatMap_cons, List.append_assoc, pathTail_member, ih, List.flatMap_cons, List.append_assoc]

/-- A reference is read up to a place where none goes on. -/
theorem path?_text (reference : Reference) {rest : List Char} (ends : pathTail rest = ([], rest)) :
    path? (reference.text ++ rest) = some (reference.path, rest) := by
  obtain ⟨name, members, named⟩ := reference
  obtain ⟨first, parts, rfl, starts, further⟩ := exists_of_isIdentifier named
  have tail := pathTail_parts (fun c member => isNamePart_of_isIdentifierPart (further c member))
    (members.flatMap Member.text ++ rest)
  rw [Reference.text, List.append_assoc, List.cons_append, path?, if_pos starts, tail, pathTail_members, ends,
    Reference.path, List.append_nil, List.cons_append]

theorem pathTail_blank (rest : List Char) : pathTail (' ' :: rest) = ([], ' ' :: rest) := by
  simp [pathTail, show isNamePart ' ' = false from rfl]

namespace Reference

theorem head?_text (reference : Reference) (rest : List Char) :
    ∃ first, (reference.text ++ rest).head? = some first ∧ isNameStart first = true := by
  rw [text, List.append_assoc]
  exact head?_name reference.named _

theorem mem_text {reference : Reference} {c : Char} (member : c ∈ reference.text) :
    isIdentifierPart c = true ∨ c = '?' ∨ c = '.' := by
  rcases List.mem_append.mp member with member | member
  · exact .inl (isIdentifierPart_of_mem reference.named member)
  · obtain ⟨below, _, member⟩ := List.mem_flatMap.mp member
    rcases List.mem_append.mp member with sign | member
    · cases optional : below.optional <;> simp_all
    · exact .inl (isIdentifierPart_of_mem below.named member)

theorem isTrimmed_text (reference : Reference) : IsTrimmed reference.text := by
  refine isTrimmed_of_all fun c member => ?_
  rcases mem_text member with part | rfl | rfl
  · exact isBlank_of_isIdentifierPart part
  · rfl
  · rfl

/-- No question mark of a reference is alone. -/
theorem unmarked_text (reference : Reference) : Unmarked reference.text := by
  have unmarked {name : List Char} (named : isIdentifier name = true) : Unmarked name :=
    .of_all (List.all_eq_true.mpr fun c member =>
      isUnmarked_of rfl (isIdentifierPart_of_mem named member))
  obtain ⟨name, members, named⟩ := reference
  refine (unmarked named).append ?_
  induction members with
  | nil => exact .nil
  | cons member members ih =>
    obtain ⟨name, optional, named⟩ := member
    refine .append (.append ?_ (unmarked named)) ih
    cases optional with
    | false => exact .char rfl
    | true => exact .double (.inl rfl)

end Reference

/-! ## Parameter lists -/

/-- A prop that is taken out of the object of all props, with its default. -/
structure Field where
  name : List Char
  default : Option Literal
  named : isIdentifier name = true := by decide
  whole : ∀ literal ∈ default, ',' ∉ literal.text ∧ '}' ∉ literal.text := by decide

def Field.text (field : Field) : List Char :=
  field.name ++ (field.default.map fun literal => " = ".toList ++ literal.text).getD []

/-- What stands between the braces of a list of fields. -/
def fieldsText (fields : List Field) : List Char :=
  [','].intercalate (fields.map fun field => ' ' :: field.text) ++ [' ']

def arrow : List Char := " => ".toList

/-- How a type behind a parameter is written. -/
def typeText (type : Option (List Char)) : List Char := (type.map (":".toList ++ ' ' :: ·)).getD []

/-- What stands in front of an expression: nothing, `v => `, `(v) => `, perhaps with a type, or props by name in
braces and parentheses, each perhaps with a default. -/
inductive Preamble where
  | absent
  | bare (name : List Char) (named : isIdentifier name = true := by decide)
  | parenthesized (name : List Char) (type : Option (List Char)) (named : isIdentifier name = true := by decide)
      (typed : ∀ text ∈ type, ')' ∉ text := by decide)
  | object (fields : List Field) (type : Option (List Char)) (typed : ∀ text ∈ type, ')' ∉ text := by decide)

namespace Preamble

def text : Preamble → List Char
  | absent => []
  | bare name .. => name ++ arrow
  | parenthesized name type .. => '(' :: (name ++ (typeText type ++ ')' :: arrow))
  | object fields type .. => '(' :: '{' :: (fieldsText fields ++ '}' :: (typeText type ++ ')' :: arrow))

def scope : Preamble → Scope
  | absent => .bare
  | bare name .. => .param name
  | parenthesized name .. => .param name
  | object fields .. => .fields (fields.map fun field => (field.name, field.default.map Literal.value))

/-- The prop that a reference stands for: what it refers to below the parameter, or itself. -/
def prop? : Preamble → Reference → Option Reference
  | absent, reference => some reference
  | bare name .., reference => reference.below? name
  | parenthesized name .., reference => reference.below? name
  | object fields .., reference => if fields.any (·.name = reference.name) then some reference else none

/-- The default that a preamble gives to what a reference refers to. -/
def default? : Preamble → Reference → Option (List Char)
  | object fields .., reference =>
    (fields.find? (·.name = reference.name)).bind fun field => field.default.map Literal.value
  | _, _ => none

end Preamble

/-! ## Reading parameter lists -/

namespace Field

theorem isTrimmed_text (field : Field) : IsTrimmed field.text := by
  obtain ⟨name, default, named, whole⟩ := field
  cases default with
  | none =>
    rw [Field.text, Option.map_none, Option.getD_none, List.append_nil]
    exact isTrimmed_name named
  | some literal =>
    obtain ⟨first, begins, starts⟩ := head?_name named " = ".toList
    rw [Field.text, Option.map_some, Option.getD_some, ← List.append_assoc]
    refine literal.isTrimmed_text.prepend literal.text_ne_nil ?_
    rw [begins]
    rintro c ⟨⟩
    exact isBlank_of_isNameStart starts

/-- A field is read as its name and the value of its default, with white space around it. -/
theorem field?_text (field : Field) {before after : List Char} (lead : isBlankText before = true)
    (trail : isBlankText after = true) :
    field? (before ++ (field.text ++ after)) = some (field.name, field.default.map Literal.value) := by
  have trimmed := field.isTrimmed_text.trim_eq lead trail
  obtain ⟨name, default, named, whole⟩ := field
  cases default with
  | none =>
    have read : name? name = some (name, []) := by
      have read : name? (name ++ []) = some (name, []) := name?_identifier named (by rintro c ⟨⟩)
      rwa [List.append_nil] at read
    have text : (Field.mk name none named whole).text = name := List.append_nil name
    rw [field?, trimmed, text, read]
    rfl
  | some literal =>
    have read : name? (name ++ ' ' :: '=' :: ' ' :: literal.text) =
        some (name, ' ' :: '=' :: ' ' :: literal.text) := name?_identifier named (by rintro c ⟨⟩; rfl)
    have gap : skipBlanks (' ' :: '=' :: ' ' :: literal.text) = '=' :: ' ' :: literal.text :=
      skipBlanks_cons (c := '=') rfl _
    have text : (Field.mk name (some literal) named whole).text = name ++ ' ' :: '=' :: ' ' :: literal.text := rfl
    rw [field?, trimmed, text, read]
    simp [gap, literal.operand?_text, literal.literal?_self]

/-- A field holds no mark that separates fields or ends their list. -/
theorem not_mem_text {field : Field} {c : Char} (foreign : isIdentifierPart c = false)
    (sign : c ∉ " = ".toList) (absent : ∀ literal ∈ field.default, c ∉ literal.text) : c ∉ field.text := by
  have unnamed : c ∉ field.name := by
    intro member
    rw [isIdentifierPart_of_mem field.named member] at foreign
    contradiction
  rw [Field.text, List.mem_append, not_or]
  refine ⟨unnamed, ?_⟩
  cases default : field.default with
  | none => exact List.not_mem_nil
  | some literal =>
    rw [Option.map_some, Option.getD_some, List.mem_append, not_or]
    exact ⟨sign, absent literal default⟩

theorem comma_not_mem_text (field : Field) : ',' ∉ field.text :=
  not_mem_text rfl (by decide) fun literal given => (field.whole literal given).1

theorem brace_not_mem_text (field : Field) : '}' ∉ field.text :=
  not_mem_text rfl (by decide) fun literal given => (field.whole literal given).2

end Field

theorem brace_not_mem_fieldsText (fields : List Field) : '}' ∉ fieldsText fields := by
  have parts : '}' ∉ [','].intercalate (fields.map fun field => ' ' :: field.text) := by
    induction fields with
    | nil => exact List.not_mem_nil
    | cons field fields ih =>
      cases fields with
      | nil => simpa using field.brace_not_mem_text
      | cons next fields =>
        rw [List.map_cons, List.map_cons, List.intercalate_cons_cons, List.mem_append, not_or, List.mem_append, not_or]
        exact ⟨⟨by simpa using field.brace_not_mem_text, by decide⟩, ih⟩
  rw [fieldsText, List.mem_append, not_or]
  exact ⟨parts, by decide⟩

/-- A list of fields is read as the fields, in order. -/
theorem filterMap_split_fieldsText (fields : List Field) : (split ',' (fieldsText fields)).filterMap field? =
    fields.map fun field => (field.name, field.default.map Literal.value) := by
  have space : isBlankText [' '] = true := rfl
  induction fields with
  | nil => rfl
  | cons field fields ih =>
    have comma : ',' ∉ ' ' :: field.text := by simpa using field.comma_not_mem_text
    cases fields with
    | nil =>
      have whole : ',' ∉ ' ' :: field.text ++ [' '] := by simpa using field.comma_not_mem_text
      have read : field? (' ' :: field.text ++ [' ']) = some (field.name, field.default.map Literal.value) :=
        field.field?_text space space
      rw [fieldsText, List.map_singleton, List.intercalate_singleton, split_of_not_mem whole,
        List.filterMap_cons_some read, List.filterMap_nil, List.map_singleton]
    | cons next fields =>
      have text : fieldsText (field :: next :: fields) = ' ' :: field.text ++ ',' :: fieldsText (next :: fields) := by
        rw [fieldsText, List.map_cons, List.map_cons, List.intercalate_cons_cons]
        simp [fieldsText]
      have read : field? (' ' :: field.text) = some (field.name, field.default.map Literal.value) := by
        have none : isBlankText [] = true := rfl
        have read := field.field?_text space none
        rwa [List.append_nil] at read
      rw [text, split_append comma, List.filterMap_cons_some read, ih, List.map_cons (l := next :: fields)]

theorem afterParameter?_typeText {type : Option (List Char)} (typed : ∀ text ∈ type, ')' ∉ text) (rest : List Char) :
    afterParameter? (typeText type ++ ')' :: rest) = some rest := by
  cases type with
  | none => simp [typeText, afterParameter?, skipBlanks_cons (c := ')') rfl]
  | some text =>
    have inside : ∀ c ∈ ' ' :: text, (c != ')') = true := by
      intro c member
      rcases List.mem_cons.mp member with rfl | member
      · rfl
      · rw [bne_iff_ne]
        rintro rfl
        exact typed text rfl member
    have found : (' ' :: text ++ ')' :: rest).dropWhile (· != ')') = ')' :: rest :=
      dropWhile_append_cons (List.all_eq_true.mpr inside) rfl rest
    have colon : skipBlanks (typeText (some text) ++ ')' :: rest) = ':' :: (' ' :: text ++ ')' :: rest) :=
      skipBlanks_cons (c := ':') rfl _
    rw [afterParameter?, colon]
    simp only [found]

/-- A text that stands behind a preamble: it needs no trimming, no parentheses surround it, and it is no function. -/
structure IsBody (body : List Char) : Prop where
  trimmed : IsTrimmed body
  some_char : body ≠ []
  bare : body.head? ≠ some '('
  functionless : ∀ name rest, name? body = some (name, rest) → afterArrow? rest = none

namespace IsBody
variable {body : List Char}

theorem afterArrow?_eq (whole : IsBody body) : afterArrow? (arrow ++ body) = some body := by
  obtain ⟨first, rest, rfl⟩ := List.exists_cons_of_ne_nil whole.some_char
  have solid : isBlank first = false := whole.trimmed.first first rfl
  have sign : skipBlanks (arrow ++ first :: rest) = "=>".toList ++ ' ' :: first :: rest :=
    skipBlanks_cons (c := '=') rfl _
  have gap : skipBlanks (' ' :: first :: rest) = first :: rest := skipBlanks_cons solid rest
  rw [afterArrow?, sign, after?_append, Option.map_some, gap]

private theorem fieldsPreamble?_cons {first : Char} (other : first ≠ '(') (rest : List Char) :
    fieldsPreamble? (first :: rest) = none := by
  simp [fieldsPreamble?, after?, afterChars?, Ne.symm other]

theorem openScope_eq (whole : IsBody body) : openScope body = (.bare, body) := by
  obtain ⟨first, rest, rfl⟩ := List.exists_cons_of_ne_nil whole.some_char
  have other : first ≠ '(' := fun same => whole.bare (congrArg some same)
  have unnamed : paramPreamble? (first :: rest) = none := by
    -- a body may begin with a name, but no arrow follows it
    rw [paramPreamble?.eq_2 _ (by simp [other])]
    cases read : name? (first :: rest) with
    | none => rfl
    | some found => simp [whole.functionless found.1 found.2 read]
  rw [openScope, fieldsPreamble?_cons other, unnamed]
  rfl

theorem openScope_bare (whole : IsBody body) {name : List Char} (named : isIdentifier name = true) :
    openScope (name ++ (arrow ++ body)) = (.param name, body) := by
  have read : name? (name ++ (arrow ++ body)) = some (name, arrow ++ body) :=
    name?_identifier named (by rintro c ⟨⟩; rfl)
  obtain ⟨first, begins, starts⟩ := head?_name named (arrow ++ body)
  have other : first ≠ '(' := by
    rintro rfl
    contradiction
  obtain ⟨rest, split⟩ := List.head?_eq_some_iff.mp begins
  rw [split] at read ⊢
  have param : paramPreamble? (first :: rest) = some (.param name, body) := by
    rw [paramPreamble?.eq_2 _ (by simp [other]), read]
    simp [whole.afterArrow?_eq]
  rw [openScope, fieldsPreamble?_cons other, param]
  rfl

theorem openScope_parenthesized (whole : IsBody body) {name : List Char} (named : isIdentifier name = true)
    {type : Option (List Char)} (typed : ∀ text ∈ type, ')' ∉ text) :
    openScope ('(' :: (name ++ (typeText type ++ ')' :: (arrow ++ body)))) = (.param name, body) := by
  have close := afterParameter?_typeText typed (arrow ++ body)
  have read : name? (name ++ (typeText type ++ ')' :: (arrow ++ body))) =
      some (name, typeText type ++ ')' :: (arrow ++ body)) :=
    name?_identifier named (by cases type <;> (rintro c ⟨⟩; rfl))
  obtain ⟨first, begins, starts⟩ := head?_name named (typeText type ++ ')' :: (arrow ++ body))
  obtain ⟨rest, split⟩ := List.head?_eq_some_iff.mp begins
  have gap : skipBlanks (first :: rest) = first :: rest := skipBlanks_cons (isBlank_of_isNameStart starts) rest
  have other : first ≠ '\x7b' := by
    rintro rfl
    contradiction
  rw [split] at read ⊢
  -- a name stands where a brace would open the list of fields
  have unlisted : fieldsPreamble? ('(' :: first :: rest) = none := by
    simp [fieldsPreamble?, after?, afterChars?, gap, Ne.symm other]
  have param : paramPreamble? ('(' :: first :: rest) = some (.param name, body) := by
    simp [paramPreamble?, gap, read, close, whole.afterArrow?_eq]
  rw [openScope, unlisted, param]
  rfl

theorem openScope_object (whole : IsBody body) (fields : List Field) {type : Option (List Char)}
    (typed : ∀ text ∈ type, ')' ∉ text) :
    openScope ('(' :: '\x7b' :: (fieldsText fields ++ '}' :: (typeText type ++ ')' :: (arrow ++ body)))) =
      (.fields (fields.map fun field => (field.name, field.default.map Literal.value)), body) := by
  have close := afterParameter?_typeText typed (arrow ++ body)
  have inside : (fieldsText fields).all (· != '}') = true := by
    rw [List.all_eq_true]
    intro c member
    rw [bne_iff_ne]
    rintro rfl
    exact brace_not_mem_fieldsText fields member
  have outside : ('}' != '}') = false := rfl
  have taken := takeWhile_append_cons inside outside (typeText type ++ ')' :: (arrow ++ body))
  have dropped := dropWhile_append_cons inside outside (typeText type ++ ')' :: (arrow ++ body))
  have brace (rest : List Char) : skipBlanks ('\x7b' :: rest) = '\x7b' :: rest := skipBlanks_cons rfl rest
  have listed : fieldsPreamble? ('(' :: '\x7b' ::
      (fieldsText fields ++ '}' :: (typeText type ++ ')' :: (arrow ++ body)))) =
        some (.fields (fields.map fun field => (field.name, field.default.map Literal.value)), body) := by
    simp [fieldsPreamble?, after?, afterChars?, brace, taken, dropped, close, whole.afterArrow?_eq,
      filterMap_split_fieldsText]
  rw [openScope, listed]
  rfl

end IsBody

/-- A preamble in front of a body is read as the scope that it opens. -/
theorem openScope_text (preamble : Preamble) {body : List Char} (whole : IsBody body) :
    openScope (preamble.text ++ body) = (preamble.scope, body) := by
  cases preamble with
  | absent => exact whole.openScope_eq
  | bare name named =>
    rw [Preamble.text, List.append_assoc]
    exact whole.openScope_bare named
  | parenthesized name type named typed =>
    simp only [Preamble.text, List.cons_append, List.append_assoc]
    exact whole.openScope_parenthesized named typed
  | object fields type typed =>
    simp only [Preamble.text, List.cons_append, List.append_assoc]
    exact whole.openScope_object fields typed

theorem Preamble.isTrimmed_append (preamble : Preamble) {body : List Char} (whole : IsBody body) :
    IsTrimmed (preamble.text ++ body) := by
  refine whole.trimmed.prepend whole.some_char ?_
  cases preamble with
  | absent => exact fun c none => absurd none (by simp [text])
  | bare name named =>
    obtain ⟨first, begins, starts⟩ := head?_name named arrow
    rw [text, begins]
    rintro c ⟨⟩
    exact isBlank_of_isNameStart starts
  | parenthesized =>
    rintro c ⟨⟩
    rfl
  | object =>
    rintro c ⟨⟩
    rfl

/-- A reference, alone or with more behind a blank that is no arrow, is a body. -/
theorem Reference.isBody_append (reference : Reference) {rest : List Char}
    (trimmed : IsTrimmed (reference.text ++ rest)) (gap : ∀ c ∈ rest.head?, c = ' ')
    (sign : afterArrow? rest = none) : IsBody (reference.text ++ rest) := by
  obtain ⟨first, begins, starts⟩ := reference.head?_text rest
  refine ⟨trimmed, ?_, ?_, ?_⟩
  · intro none
    rw [none] at begins
    contradiction
  · rw [begins]
    rintro ⟨⟩
    contradiction
  · obtain ⟨name, members, named⟩ := reference
    intro found behind read
    have ends : ∀ c ∈ (members.flatMap Member.text ++ rest).head?, isNamePart c = false := by
      cases members with
      | nil =>
        intro c begins
        rw [gap c begins]
        rfl
      | cons member members =>
        obtain ⟨name, optional, named⟩ := member
        cases optional <;> (rintro c ⟨⟩; rfl)
    rw [text, List.append_assoc, name?_identifier named ends, Option.some.injEq, Prod.mk.injEq] at read
    obtain ⟨rfl, rfl⟩ := read
    cases members with
    | nil => exact sign
    | cons member members =>
      obtain ⟨name, optional, named⟩ := member
      cases optional <;> rfl

/-! ## What a reference stands for -/

/-- A reference to a prop, with the preamble in front of it. -/
structure Subject where
  preamble : Preamble
  reference : Reference
  prop : Reference
  fits : preamble.prop? reference = some prop := by rfl

theorem Reference.below?_path {reference prop : Reference} {name : List Char}
    (below : reference.below? name = some prop) : afterChars? name reference.path = some ('.' :: prop.path) := by
  obtain ⟨own, members, named⟩ := reference
  cases members with
  | nil => contradiction
  | cons member members =>
    simp only [below?, Option.ite_none_right_eq_some, Option.some.injEq] at below
    obtain ⟨rfl, rfl⟩ := below
    rw [afterChars?_eq_some_iff]
    simp [path, Member.path]

theorem Reference.takeWhile_path (reference : Reference) :
    reference.path.takeWhile (· != '.') = reference.name := by
  obtain ⟨name, members, named⟩ := reference
  have inside : name.all (· != '.') = true := by
    rw [List.all_eq_true]
    intro c member
    rw [bne_iff_ne]
    rintro rfl
    exact absurd (isIdentifierPart_of_mem named member) (by decide)
  cases members with
  | nil =>
    rw [path, List.flatMap_nil, List.append_nil, List.takeWhile_eq_self_iff]
    exact List.all_eq_true.mp inside
  | cons member members => exact takeWhile_append_cons inside rfl _

/-- A reference that fits is resolved to its prop, with the default that the preamble gives to the prop. -/
theorem Subject.resolve?_path (subject : Subject) : subject.preamble.scope.resolve? subject.reference.path =
    some (subject.prop.path, subject.preamble.default? subject.reference) := by
  obtain ⟨preamble, reference, prop, fits⟩ := subject
  cases preamble with
  | absent =>
    obtain rfl : reference = prop := Option.some.inj fits
    rfl
  | bare name named =>
    simp only [Preamble.scope, Scope.resolve?, Reference.below?_path fits]
    rfl
  | parenthesized name type named typed =>
    simp only [Preamble.scope, Scope.resolve?, Reference.below?_path fits]
    rfl
  | object fields type typed =>
    simp only [Preamble.prop?, Option.ite_none_right_eq_some, Option.some.injEq] at fits
    obtain ⟨listed, rfl⟩ := fits
    obtain ⟨field, member, named⟩ := List.any_eq_true.mp listed
    have found : (fields.find? (·.name = reference.name)).isSome := by
      rw [List.find?_isSome]
      exact ⟨field, member, named⟩
    obtain ⟨first, found⟩ := Option.isSome_iff_exists.mp found
    have given : (fields.map fun field => (field.name, field.default.map Literal.value)).find?
        (fun entry => entry.1 = reference.name) = some (first.name, first.default.map Literal.value) := by
      rw [List.find?_map]
      exact congrArg (Option.map _) found
    simp only [Preamble.scope, Scope.resolve?, reference.takeWhile_path, given, Preamble.default?, found]
    rfl

end StaticStyles.Expression
