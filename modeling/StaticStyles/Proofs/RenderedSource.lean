import StaticStyles.Proofs.TemplateGrammar
import StaticStyles.Proofs.TextSearch
import StaticStyles.Proofs.TrimmedText
import StaticStyles.Source.Scan

/-!
Sources that are written out. A statement binds a name to a style call with a template (`Source.Statement`); read
again, statements one after the other are the declarations that were written, and nothing inside their groups and
bodies is taken for one (`Source.read_render`).
-/
namespace StaticStyles.Source
open Text

/-! ## Names -/

/-- A further character of a name in ASCII. -/
def isIdentifierPart (c : Char) : Bool := c.isAlphanum || c = '_' || c = '$'

/-- A name in ASCII: letters, digits, underscores and dollar signs, and no digit first. -/
def isIdentifier : List Char → Bool
  | [] => false
  | first :: rest => isNameStart first && rest.all isIdentifierPart

/-- The name of an element in ASCII: a letter, then letters, digits, underscores and hyphens. -/
def isElementName : List Char → Bool
  | [] => false
  | first :: rest => first.isAlpha && rest.all fun c => c.isAlphanum || c = '_' || c = '-'

/-! ## Calls -/

/-- What a style call styles: an element by its name, a component by its name and further names behind dots, an
element by a text in quotes, or nothing that is named. -/
inductive Callee where
  | element (name : List Char)
  | component (name : List Char) (further : List (List Char))
  | quoted (text : List Char)
  | unnamed

namespace Callee

/-- A name and further names behind dots. -/
def dotted (name : List Char) (further : List (List Char)) : List Char := name ++ further.flatMap ('.' :: ·)

def text : Callee → List Char
  | element name => "styled".toList ++ '.' :: name
  | component name further => "styled".toList ++ '(' :: (dotted name further ++ [')'])
  | quoted text => "styled".toList ++ '(' :: '\'' :: (text ++ ['\'', ')'])
  | unnamed => "css".toList

/-- What a call says that it styles. -/
def base : Callee → Option (List Char)
  | element name => some name
  | component name further => some (dotted name further)
  | quoted text => some text
  | unnamed => none

/-- Names are names, and a text in quotes has no quote. -/
def isValid : Callee → Bool
  | element name => isElementName name
  | component name further => isIdentifier name && further.all isIdentifier
  | quoted text => !text.contains '\''
  | unnamed => true

end Callee

/-! ## Groups -/

/-- How much one character adds to the number of open brackets; the `>` of an arrow adds nothing. -/
def weight (opening closing : Char) (afterEquals : Bool) (c : Char) : Int :=
  if c = '>' && afterEquals then 0 else if c = opening then 1 else if c = closing then -1 else 0

/-- How many more brackets of a text open than close. -/
def balance (opening closing : Char) : (afterEquals : Bool) → List Char → Int
  | _, [] => 0
  | afterEquals, c :: rest => weight opening closing afterEquals c + balance opening closing (c = '=') rest

/-- A group in brackets, without a backtick: its first bracket is closed by its last character. -/
structure IsGroup (opening closing : Char) (text : List Char) : Prop where
  opens : text.head? = some opening
  bare : '\x60' ∉ text
  closed : balance opening closing false text = 0
  open_before : ∀ n < text.length, 0 < n → 0 < balance opening closing false (text.take n)

/-! ## Statements -/

/-- A binding of a name to a style call, perhaps with attributes and type arguments, and its template. -/
structure Statement where
  keyword : String
  name : List Char
  callee : Callee
  attributes : Option (List Char)
  types : Option (List Char)
  body : List Char
  binds : keyword ∈ ["const", "let", "var"]
  named : isIdentifier name = true
  called : callee.isValid = true
  grouped : ∀ group ∈ attributes, IsGroup '(' ')' group
  angled : ∀ group ∈ types, IsGroup '<' '>' group
  whole : Template.IsBody body
  accepted : Css.checkBody body = .ok ()

namespace Statement

/-- How the template is written, with what stands before it. -/
def template (statement : Statement) : List Char :=
  (statement.attributes.map (".attrs".toList ++ ·)).getD [] ++ (statement.types.getD [] ++
    '\x60' :: (statement.body ++ ['\x60']))

def text (statement : Statement) : List Char :=
  statement.keyword.toList ++ ' ' :: (statement.name ++ " = ".toList ++ statement.callee.text ++ statement.template)

/-- How statements are written, one in a line. -/
def render (statements : List Statement) : List Char := [';', '\n'].intercalate (statements.map text)

end Statement

/-! ## Reading runs of characters -/

theorem skipLayout_cons {c : Char} (solid : isBlank c = false) (rest : List Char) :
    skipLayout (c :: rest) = c :: rest := by
  have solid : isLayout c = false := by
    rw [Bool.eq_false_iff] at solid ⊢
    exact fun layout => solid (isBlank_of_isLayout layout)
  simp [skipLayout, solid]

theorem after?_append (word : String) (rest : List Char) : after? word (word.toList ++ rest) = some rest :=
  afterChars?_eq_some_iff.mpr rfl

theorem isBlank_of_isNameStart {c : Char} (starts : isNameStart c = true) : isBlank c = false := by
  simp only [isNameStart, Bool.or_eq_true, decide_eq_true_eq] at starts
  rcases starts with (letter | rfl) | rfl
  · exact isBlank_of_isAlphanum (by rw [Char.isAlphanum, letter, Bool.true_or])
  · decide
  · decide

theorem isNamePart_of_isIdentifierPart {c : Char} (part : isIdentifierPart c = true) : isNamePart c = true := by
  simp only [isIdentifierPart, isNamePart, isWord, Bool.or_eq_true, decide_eq_true_eq] at part ⊢
  rcases part with (letter | low) | dollar
  · exact .inl (.inl (.inl letter))
  · exact .inl (.inl (.inr low))
  · exact .inr dollar

theorem isIdentifierPart_of_isNameStart {c : Char} (starts : isNameStart c = true) : isIdentifierPart c = true := by
  simp only [isNameStart, isIdentifierPart, Char.isAlphanum, Bool.or_eq_true] at starts ⊢
  rcases starts with (letter | low) | dollar
  · exact .inl (.inl (.inl letter))
  · exact .inl (.inr low)
  · exact .inr dollar

theorem isNamePart_of_isNameStart {c : Char} (starts : isNameStart c = true) : isNamePart c = true :=
  isNamePart_of_isIdentifierPart (isIdentifierPart_of_isNameStart starts)

/-! ## Reading a binding -/

theorem exists_of_isIdentifier {name : List Char} (named : isIdentifier name = true) :
    ∃ first parts, name = first :: parts ∧ isNameStart first = true ∧ ∀ c ∈ parts, isIdentifierPart c = true := by
  cases name with
  | nil => contradiction
  | cons first parts =>
    rw [isIdentifier, Bool.and_eq_true, List.all_eq_true] at named
    exact ⟨first, parts, rfl, named⟩

theorem isIdentifierPart_of_mem {name : List Char} (named : isIdentifier name = true) {c : Char} (member : c ∈ name) :
    isIdentifierPart c = true := by
  obtain ⟨first, parts, rfl, starts, further⟩ := exists_of_isIdentifier named
  rcases List.mem_cons.mp member with rfl | member
  · exact isIdentifierPart_of_isNameStart starts
  · exact further c member

theorem isBlank_of_isIdentifierPart {c : Char} (part : isIdentifierPart c = true) : isBlank c = false := by
  simp only [isIdentifierPart, Char.isAlphanum, Bool.or_eq_true, decide_eq_true_eq] at part
  rcases part with ((letter | digit) | rfl) | rfl
  · exact isBlank_of_isNameStart (by simp [isNameStart, letter])
  · exact isBlank_of_isDecimal (by simp [isDecimal, digit])
  · decide
  · decide

/-- A name is read up to a character that is none of its own. -/
theorem name?_identifier {name rest : List Char} (named : isIdentifier name = true)
    (ends : ∀ c ∈ rest.head?, isNamePart c = false) : name? (name ++ rest) = some (name, rest) := by
  obtain ⟨first, parts, rfl, starts, further⟩ := exists_of_isIdentifier named
  have inside : ∀ c ∈ parts, isNamePart c = true := fun c member => isNamePart_of_isIdentifierPart (further c member)
  have taken : rest.takeWhile isNamePart = [] ∧ rest.dropWhile isNamePart = rest := by
    cases rest with
    | nil => exact ⟨rfl, rfl⟩
    | cons c rest => simp [ends c rfl]
  rw [List.cons_append, name?, if_pos starts, List.takeWhile_append_of_pos inside,
    List.dropWhile_append_of_pos inside, taken.1, taken.2, List.append_nil]

theorem afterKeyword?_append {keyword : String} (binds : keyword ∈ ["const", "let", "var"]) {c : Char}
    (solid : isBlank c = false) (rest : List Char) :
    afterKeyword? (keyword.toList ++ ' ' :: c :: rest) = some (c :: rest) := by
  have blanks : skipBlanks (' ' :: c :: rest) = c :: rest := skipBlanks_cons solid rest
  have gap : isBlank ' ' = true := rfl
  simp only [List.mem_cons, List.not_mem_nil, or_false] at binds
  rcases binds with rfl | rfl | rfl <;>
    simp [afterKeyword?, after?, afterChars?, blanks, gap]

/-- A character that can follow a style call: of its attributes, its type arguments or its template. -/
def endsCall (c : Char) : Bool := c = '.' || c = '<' || c = '\x60'

theorem eq_of_endsCall {c : Char} (ends : endsCall c = true) : c = '.' ∨ c = '<' ∨ c = '\x60' := by
  simpa [endsCall, or_assoc] using ends

theorem dotted_eq_cons {name : List Char} {further : List (List Char)} (named : isIdentifier name = true)
    (others : further.all isIdentifier = true) :
    ∃ first parts, Callee.dotted name further = first :: parts ∧ isNameStart first = true ∧
      parts.all isDottedPart = true := by
  have part {c : Char} (part : isIdentifierPart c = true) : isDottedPart c = true := by
    rw [isDottedPart, isNamePart_of_isIdentifierPart part, Bool.true_or]
  cases name with
  | nil => exact absurd named Bool.false_ne_true
  | cons first parts =>
    rw [isIdentifier, Bool.and_eq_true, List.all_eq_true] at named
    obtain ⟨starts, inside⟩ := named
    refine ⟨first, _, rfl, starts, List.all_eq_true.mpr ?_⟩
    intro c member
    rcases List.mem_append.mp member with member | member
    · exact part (inside c member)
    · obtain ⟨other, listed, member⟩ := List.mem_flatMap.mp member
      have other_named := List.all_eq_true.mp others other listed
      rcases List.mem_cons.mp member with rfl | member
      · rfl
      · cases other with
        | nil => exact absurd other_named Bool.false_ne_true
        | cons start more =>
          rw [isIdentifier, Bool.and_eq_true, List.all_eq_true] at other_named
          rcases List.mem_cons.mp member with rfl | member
          · rw [isDottedPart, isNamePart_of_isNameStart other_named.1, Bool.true_or]
          · exact part (other_named.2 c member)

theorem argument?_dotted {name : List Char} {further : List (List Char)} (named : isIdentifier name = true)
    (others : further.all isIdentifier = true) (rest : List Char) :
    argument? (skipBlanks (Callee.dotted name further ++ ')' :: rest)) =
      some (Callee.dotted name further, ')' :: rest) := by
  obtain ⟨first, parts, split, starts, inside⟩ := dotted_eq_cons named others
  have unquoted : first ≠ '\'' ∧ first ≠ '"' := by
    constructor <;>
    · rintro rfl
      contradiction
  rw [split, List.cons_append, skipBlanks_cons (isBlank_of_isNameStart starts), argument?, if_pos starts,
    takeWhile_append_cons inside rfl, dropWhile_append_cons inside rfl]
  · exact unquoted.1
  · exact unquoted.2

theorem argument?_quoted {text : List Char} (unquoted : '\'' ∉ text) (rest : List Char) :
    argument? (skipBlanks ('\'' :: (text ++ '\'' :: rest))) = some (text, rest) := by
  have inside : text.all (· != '\'') = true := by
    rw [List.all_eq_true]
    intro c member
    have other : c ≠ '\'' := by
      rintro rfl
      exact unquoted member
    simpa using other
  rw [skipBlanks_cons rfl, argument?, string?, dropWhile_append_cons inside rfl, takeWhile_append_cons inside rfl]

theorem tag?_append {name : List Char} (named : isElementName name = true) {c : Char} (ends : isTagPart c = false)
    (rest : List Char) : tag? (skipBlanks (name ++ c :: rest)) = some (name, c :: rest) := by
  cases name with
  | nil => contradiction
  | cons first parts =>
    rw [isElementName, Bool.and_eq_true, List.all_eq_true] at named
    obtain ⟨letter, inside⟩ := named
    have starts : isNameStart first = true := by rw [isNameStart, letter, Bool.true_or, Bool.true_or]
    have inside : parts.all isTagPart = true := by
      rw [List.all_eq_true]
      intro d member
      have part := inside d member
      simp only [Bool.or_eq_true] at part
      simp only [isTagPart, isWord, Bool.or_eq_true]
      rcases part with (part | low) | hyphen
      · exact .inl (.inl (.inl part))
      · exact .inl (.inl (.inr low))
      · exact .inr hyphen
    rw [List.cons_append, skipBlanks_cons (isBlank_of_isNameStart starts), tag?, if_pos letter,
      takeWhile_append_cons inside ends, dropWhile_append_cons inside ends]

/-- A call is read up to where its attributes, its type arguments or its template begin. -/
theorem call?_append {callee : Callee} (valid : callee.isValid = true) {c : Char} (ends : endsCall c = true)
    (rest : List Char) : call? (callee.text ++ c :: rest) = some (callee.base, c :: rest) := by
  have behind : after? ")" (skipBlanks (')' :: c :: rest)) = some (c :: rest) := by
    rw [skipBlanks_cons rfl]
    exact after?_append ")" _
  cases callee with
  | element name =>
    have outside : isTagPart c = false := by
      rcases eq_of_endsCall ends with rfl | rfl | rfl <;> rfl
    have dot : skipBlanks ('.' :: (name ++ c :: rest)) = '.' :: (name ++ c :: rest) := skipBlanks_cons rfl _
    have text : (Callee.element name).text = "styled".toList ++ '.' :: name := rfl
    rw [text, List.append_assoc, call?, after?_append "styled"]
    simp only [List.cons_append, dot, tag?_append valid outside, Option.map_some, Callee.base]
  | component name further =>
    rw [Callee.isValid, Bool.and_eq_true] at valid
    have argument := argument?_dotted valid.1 valid.2 (c :: rest)
    have bracket (more : List Char) : skipBlanks ('(' :: more) = '(' :: more := skipBlanks_cons rfl _
    have text : (Callee.component name further).text =
        "styled".toList ++ '(' :: (Callee.dotted name further ++ [')']) := rfl
    rw [text, List.append_assoc, call?, after?_append "styled"]
    simp only [List.cons_append, List.append_assoc, List.nil_append, bracket, argument, behind, bind, Option.bind,
      pure, Callee.base]
  | quoted name =>
    have unquoted : '\'' ∉ name := by simpa [Callee.isValid] using valid
    have argument := argument?_quoted unquoted (')' :: c :: rest)
    have bracket (more : List Char) : skipBlanks ('(' :: more) = '(' :: more := skipBlanks_cons rfl _
    have text : (Callee.quoted name).text = "styled".toList ++ '(' :: '\'' :: (name ++ ['\'', ')']) := rfl
    rw [text, List.append_assoc, call?, after?_append "styled"]
    simp only [List.cons_append, List.append_assoc, List.nil_append, bracket, argument, behind, bind, Option.bind,
      pure, Callee.base]
  | unnamed =>
    have missing : after? "styled" ("css".toList ++ c :: rest) = none := rfl
    have ends : isWord c = false := by
      rcases eq_of_endsCall ends with rfl | rfl | rfl <;> rfl
    have text : Callee.unnamed.text = "css".toList := rfl
    rw [text, call?, missing, after?_append "css"]
    simp [ends, Callee.base]

theorem exists_text_eq_cons (callee : Callee) : ∃ first rest, callee.text = first :: rest ∧ isBlank first = false := by
  cases callee with
  | element | component | quoted => exact ⟨'s', _, rfl, rfl⟩
  | unnamed => exact ⟨'c', _, rfl, rfl⟩

/-- The binding of a statement is read up to its template and what stands before that. -/
theorem binding?_append {before : Option Char} (boundary : before.any isWord = false) (statement : Statement)
    {c : Char} (ends : endsCall c = true) (rest : List Char) :
    binding? before (statement.keyword.toList ++ ' ' :: (statement.name ++ " = ".toList ++
        statement.callee.text ++ c :: rest)) =
      some (⟨statement.name, statement.callee.base⟩, c :: rest) := by
  have named := statement.named
  have call := call?_append statement.called ends rest
  obtain ⟨first, parts, split, solid⟩ := exists_text_eq_cons statement.callee
  obtain ⟨start, more, name, starts⟩ : ∃ start more, statement.name = start :: more ∧ isNameStart start = true := by
    cases name : statement.name with
    | nil =>
      rw [name] at named
      contradiction
    | cons start more =>
      rw [name, isIdentifier, Bool.and_eq_true] at named
      exact ⟨start, more, rfl, named.1⟩
  have keyword (after : List Char) :
      afterKeyword? (statement.keyword.toList ++ ' ' :: (statement.name ++ after)) = some (statement.name ++ after) := by
    rw [name]
    exact afterKeyword?_append statement.binds (isBlank_of_isNameStart starts) _
  have gap (after : List Char) : skipBlanks (' ' :: '=' :: after) = '=' :: after := skipBlanks_cons (c := '=') rfl after
  have sign (after : List Char) : after? "=" ('=' :: after) = some after := after?_append "=" after
  have behind : skipBlanks (' ' :: (statement.callee.text ++ c :: rest)) = statement.callee.text ++ c :: rest := by
    rw [split]
    exact skipBlanks_cons solid _
  have text : statement.name ++ " = ".toList ++ statement.callee.text ++ c :: rest =
      statement.name ++ ' ' :: '=' :: ' ' :: (statement.callee.text ++ c :: rest) := by
    simp
  have bound (after : List Char) : name? (statement.name ++ ' ' :: after) = some (statement.name, ' ' :: after) :=
    name?_identifier named (by rintro c ⟨⟩; rfl)
  rw [text]
  simp only [binding?, boundary, keyword, bind, Option.bind, bound, gap, sign, behind, call, pure,
    Bool.false_eq_true, if_false]

/-! ## Reading groups -/

/-- While brackets are open behind a character, the search goes on with as many as there are then. -/
theorem groupEnd?_cons {opening closing c : Char} {depth next : Nat} {afterEquals : Bool} (bare : c ≠ '\x60')
    (moves : (next : Int) = depth + weight opening closing afterEquals c) (deep : 0 < next) (rest : List Char) :
    groupEnd? opening closing depth afterEquals (c :: rest) = groupEnd? opening closing next (c = '=') rest := by
  rw [groupEnd?]
  rw [weight] at moves
  split at moves
  · next arrow =>
    obtain rfl : next = depth := by omega
    have plain : decide (c = '=') = false := by
      rw [Bool.and_eq_true, decide_eq_true_eq] at arrow
      rw [arrow.1]
      rfl
    rw [if_pos arrow, plain]
  · next other =>
    rw [if_neg other]
    split at moves
    · next opens =>
      obtain rfl : next = depth + 1 := by omega
      rw [if_pos opens]
    · next further =>
      rw [if_neg further]
      split at moves
      · next closes =>
        obtain rfl : next = depth - 1 := by omega
        rw [if_pos closes, if_neg (by omega)]
      · next inside =>
        obtain rfl : next = depth := by omega
        rw [if_neg inside, if_neg bare]

/-- The search stops behind the character that closes the last bracket. -/
theorem groupEnd?_last {opening closing c : Char} {depth : Nat} {afterEquals : Bool} (deep : 0 < depth)
    (closed : depth + weight opening closing afterEquals c = 0) (rest : List Char) :
    groupEnd? opening closing depth afterEquals (c :: rest) = some rest := by
  rw [weight] at closed
  split at closed
  · omega
  · next other =>
    split at closed
    · omega
    · next further =>
      split at closed
      · next closes => rw [groupEnd?, if_neg other, if_neg further, if_pos closes, if_pos (by omega)]
      · omega

/-- With brackets open, the text is passed up to where the last of them closes. -/
theorem groupEnd?_append {opening closing : Char} {depth : Nat} {afterEquals : Bool} {text : List Char}
    (bare : '\x60' ∉ text) (deep : 0 < depth) (closed : depth + balance opening closing afterEquals text = 0)
    (open_before : ∀ n < text.length, 0 < depth + balance opening closing afterEquals (text.take n))
    (rest : List Char) : groupEnd? opening closing depth afterEquals (text ++ rest) = some rest := by
  induction text generalizing depth afterEquals with
  | nil =>
    rw [balance] at closed
    omega
  | cons c text ih =>
    rw [List.mem_cons, not_or] at bare
    rw [balance] at closed
    rw [List.cons_append]
    cases text with
    | nil =>
      rw [balance] at closed
      exact groupEnd?_last deep (by omega) rest
    | cons d text =>
      have positive := open_before 1 (by simp)
      rw [List.take_succ_cons, List.take_zero, balance, balance] at positive
      obtain ⟨next, moves⟩ : ∃ next : Nat, (next : Int) = depth + weight opening closing afterEquals c :=
        ⟨(depth + weight opening closing afterEquals c).toNat, by omega⟩
      rw [groupEnd?_cons (Ne.symm bare.1) moves (by omega)]
      refine ih bare.2 (by omega) (by omega) ?_
      intro n inside
      have further := open_before (n + 1) (Nat.succ_lt_succ inside)
      rw [List.take_succ_cons, balance] at further
      omega

theorem afterGroup?_append {opening closing : Char} {text : List Char} (group : IsGroup opening closing text)
    (rest : List Char) : afterGroup? opening closing (text ++ rest) = some rest := by
  obtain ⟨opens, bare, closed, open_before⟩ := group
  obtain ⟨inner, rfl⟩ := List.head?_eq_some_iff.mp opens
  rw [List.mem_cons, not_or] at bare
  have first : weight opening closing false opening = 1 := by simp [weight]
  rw [balance, first] at closed
  have inside : groupEnd? opening closing 1 (opening = '=') (inner ++ rest) = some rest := by
    refine groupEnd?_append bare.2 Nat.one_pos (by omega) ?_ rest
    intro n inside
    have positive := open_before (n + 1) (Nat.succ_lt_succ inside) (Nat.succ_pos n)
    rw [List.take_succ_cons, balance, first] at positive
    omega
  rw [afterGroup?, List.cons_append, List.head?_cons, if_pos rfl, groupEnd?]
  simpa using inside

/-! ## Reading templates -/

theorem IsGroup.eq_cons {opening closing : Char} {text : List Char} (group : IsGroup opening closing text) :
    ∃ inner, text = opening :: inner :=
  List.head?_eq_some_iff.mp group.opens

theorem afterTypes?_append {types : Option (List Char)} (angled : ∀ group ∈ types, IsGroup '<' '>' group)
    (rest : List Char) : afterTypes? (types.getD [] ++ '\x60' :: rest) = some ('\x60' :: rest) := by
  have tick : skipLayout ('\x60' :: rest) = '\x60' :: rest := skipLayout_cons rfl rest
  cases types with
  | none => rfl
  | some text =>
    have group := angled text rfl
    obtain ⟨inner, rfl⟩ := group.eq_cons
    rw [Option.getD_some, afterTypes?, List.cons_append, List.head?_cons, if_pos rfl, ← List.cons_append,
      afterGroup?_append group, Option.map_some, tick]

theorem afterAttributes?_append {attributes : Option (List Char)}
    (grouped : ∀ group ∈ attributes, IsGroup '(' ')' group) {c : Char} (follows : c = '<' ∨ c = '\x60')
    (rest : List Char) :
    afterAttributes? ((attributes.map (".attrs".toList ++ ·)).getD [] ++ c :: rest) = some (c :: rest) := by
  have kept : skipLayout (c :: rest) = c :: rest := by
    rcases follows with rfl | rfl <;> exact skipLayout_cons rfl rest
  cases attributes with
  | none =>
    have missing : after? ".attrs" (c :: rest) = none := by
      rcases follows with rfl | rfl <;> rfl
    simp [afterAttributes?, missing]
  | some text =>
    have group := grouped text rfl
    obtain ⟨inner, rfl⟩ := group.eq_cons
    have bracket : skipLayout ('(' :: inner ++ c :: rest) = '(' :: inner ++ c :: rest := skipLayout_cons rfl _
    rw [Option.map_some, Option.getD_some, List.append_assoc, afterAttributes?,
      after?_append ".attrs"]
    simp only [bracket, afterGroup?_append group, Option.map_some, kept]

/-- Behind the attributes stand the type arguments or the template. -/
theorem Statement.exists_template_append (statement : Statement) (rest : List Char) :
    ∃ c more, (c = '<' ∨ c = '\x60') ∧
      statement.types.getD [] ++ '\x60' :: (statement.body ++ '\x60' :: rest) = c :: more ∧
      statement.template ++ rest = (statement.attributes.map (".attrs".toList ++ ·)).getD [] ++ c :: more := by
  have text : statement.template ++ rest = (statement.attributes.map (".attrs".toList ++ ·)).getD [] ++
      (statement.types.getD [] ++ '\x60' :: (statement.body ++ '\x60' :: rest)) := by
    simp [template]
  have angled := statement.angled
  cases types : statement.types with
  | none => exact ⟨'\x60', _, .inr rfl, rfl, by rw [text, types]; rfl⟩
  | some group =>
    rw [types] at angled
    obtain ⟨inner, rfl⟩ := (angled group rfl).eq_cons
    exact ⟨'<', _, .inl rfl, rfl, by rw [text, types]; rfl⟩

theorem Statement.exists_template_eq_cons (statement : Statement) (rest : List Char) :
    ∃ c more, statement.template ++ rest = c :: more ∧ endsCall c = true := by
  obtain ⟨c, more, follows, _, text⟩ := statement.exists_template_append rest
  rw [text]
  cases statement.attributes with
  | none =>
    refine ⟨c, more, rfl, ?_⟩
    rcases follows with rfl | rfl <;> rfl
  | some group => exact ⟨'.', _, rfl, rfl⟩

/-- The template of a statement is found behind its attributes and its type arguments. -/
theorem afterBacktick?_append (statement : Statement) (rest : List Char) :
    afterBacktick? (statement.template ++ rest) = some (statement.body ++ '\x60' :: rest) := by
  have kept : skipLayout (statement.template ++ rest) = statement.template ++ rest := by
    obtain ⟨first, further, begins, ends⟩ := statement.exists_template_eq_cons rest
    rw [begins]
    exact skipLayout_cons (by rcases eq_of_endsCall ends with rfl | rfl | rfl <;> rfl) further
  obtain ⟨c, more, follows, split, text⟩ := statement.exists_template_append rest
  have types := afterTypes?_append statement.angled (statement.body ++ '\x60' :: rest)
  rw [split] at types
  rw [afterBacktick?, kept, text, afterAttributes?_append statement.grouped follows]
  simp only [bind, Option.bind, types]
  exact after?_append "\x60" _

/-! ## Reading statements -/

/-- What a declaration is of, apart from whether it moves. -/
structure Statement.Declares (statement : Statement) (declaration : Declaration) : Prop where
  component : declaration.component = String.ofList statement.name
  base : declaration.base = statement.callee.base.map String.ofList
  body : declaration.body = String.ofList statement.body
  hash : declaration.hash = contentHash (String.ofList statement.body)

theorem declare_template (statement : Statement) (rest : List Char) :
    ∃ declaration, statement.Declares declaration ∧
      declare ⟨statement.name, statement.callee.base⟩ (statement.template ++ rest) = (.ok declaration, rest) := by
  have body : Template.body? (statement.body ++ '\x60' :: rest) = some (statement.body, rest) :=
    Template.body?_eq_some_iff.mpr ⟨rfl, statement.whole⟩
  let declared := Declaration.ofBody (String.ofList statement.name) (statement.callee.base.map String.ofList)
    (String.ofList statement.body)
  refine ⟨{ declared with animated := declared.animated || isDriven statement.name rest },
    ⟨rfl, rfl, rfl, rfl⟩, ?_⟩
  simp only [declare, afterBacktick?_append, body, statement.accepted, declared]

theorem declareHere_append {before : Option Char} (boundary : before.any isWord = false) (statement : Statement)
    (rest : List Char) : ∃ declaration, statement.Declares declaration ∧
      declareHere before (statement.text ++ rest) = some (.ok declaration, rest) := by
  obtain ⟨declaration, declares, declared⟩ := declare_template statement rest
  obtain ⟨c, more, split, ends⟩ := statement.exists_template_eq_cons rest
  have text : statement.text ++ rest = statement.keyword.toList ++ ' ' :: (statement.name ++ " = ".toList ++
      statement.callee.text ++ c :: more) := by
    rw [← split, Statement.text]
    simp
  refine ⟨declaration, declares, ?_⟩
  rw [text, declareHere, binding?_append boundary statement ends, Option.map_some, ← split]
  exact congrArg some declared

theorem outcomes_statement {before : Option Char} (boundary : before.any isWord = false) (statement : Statement)
    (rest : List Char) : ∃ declaration, statement.Declares declaration ∧
      searchAll declareHere 0 before (statement.text ++ rest) =
        .ok declaration :: searchAll declareHere 0 (some '\x60') rest := by
  obtain ⟨declaration, declares, answer⟩ := declareHere_append boundary statement rest
  have last : statement.text.getLast? = some '\x60' := by
    simp [Statement.text, Statement.template, List.getLast?_append, List.getLast?_cons]
  have some_text : statement.text ≠ [] := by
    intro empty
    rw [empty] at last
    contradiction
  refine ⟨declaration, declares, ?_⟩
  rw [searchAll_of_answer some_text answer, last]

/-- Between two statements nothing is found. -/
theorem searchAll_separator (text : List Char) : searchAll declareHere 0 (some '\x60') (';' :: '\n' :: text) =
    searchAll declareHere 0 (some '\n') text := by
  have first : declareHere (some '\x60') (';' :: '\n' :: text) = none := rfl
  have second : declareHere (some ';') ('\n' :: text) = none := rfl
  simp only [searchAll, first, second]

theorem outcomes_render_from {before : Option Char} (boundary : before.any isWord = false)
    (statements : List Statement) : ∃ declarations, List.Forall₂ Statement.Declares statements declarations ∧
      searchAll declareHere 0 before (Statement.render statements) = declarations.map .ok := by
  induction statements generalizing before with
  | nil => exact ⟨[], .nil, rfl⟩
  | cons statement others ih =>
    obtain ⟨declarations, declare, found⟩ := @ih (some '\n') rfl
    cases others with
    | nil =>
      obtain ⟨declaration, declares, answer⟩ := outcomes_statement boundary statement []
      cases declare
      refine ⟨[declaration], .cons declares .nil, ?_⟩
      rw [List.append_nil] at answer
      rw [Statement.render, List.map_singleton, List.intercalate_singleton, answer]
      rfl
    | cons next others =>
      obtain ⟨declaration, declares, answer⟩ := outcomes_statement boundary statement
        (';' :: '\n' :: Statement.render (next :: others))
      refine ⟨declaration :: declarations, .cons declares declare, ?_⟩
      have split : Statement.render (statement :: next :: others) =
          statement.text ++ ';' :: '\n' :: Statement.render (next :: others) := by
        rw [Statement.render, List.map_cons, List.map_cons, List.intercalate_cons_cons]
        simp [Statement.render]
      rw [split, answer, searchAll_separator, found, List.map_cons]

theorem map_of_declares {statements : List Statement} {read : List Declaration}
    (declares : List.Forall₂ Statement.Declares statements read) :
    (read.map fun declaration => (declaration.component, declaration.base, declaration.body, declaration.hash)) =
      statements.map fun statement =>
        (String.ofList statement.name, statement.callee.base.map String.ofList, String.ofList statement.body,
          contentHash (String.ofList statement.body)) := by
  induction declares with
  | nil => rfl
  | cons declares _ ih =>
    obtain ⟨component, base, body, hash⟩ := declares
    rw [List.map_cons, List.map_cons, ih, component, base, body, hash]

/-- Statements written one in a line are read as the declarations that were written, in order and without a
diagnostic. -/
theorem read_render (statements : List Statement) :
    diagnostics (Statement.render statements) = [] ∧
      (declarations (Statement.render statements)).map (fun declaration =>
          (declaration.component, declaration.base, declaration.body, declaration.hash)) =
        statements.map fun statement =>
          (String.ofList statement.name, statement.callee.base.map String.ofList, String.ofList statement.body,
            contentHash (String.ofList statement.body)) := by
  obtain ⟨read, declares, found⟩ := @outcomes_render_from none rfl statements
  have found : outcomes (Statement.render statements) = read.map .ok := found
  have accepted : declarations (Statement.render statements) = read := by
    rw [declarations, found, List.filterMap_map]
    exact List.filterMap_some
  constructor
  · rw [diagnostics, found]
    simp [diagnostic?]
  · rw [accepted]
    exact map_of_declares declares

/-- Bindings in attributes, in type arguments, in quotes and in a body are none of the source. -/
theorem read_render_lookalikes :
    let first : Statement :=
      { keyword := "const", name := ['T'], callee := .element "a-1".toList
        attributes := some "(\x7bx: 'const A = css'\x7d)".toList, types := some "<A, () => css>".toList
        body := "top: $\x7b'var B = css\x60'\x7d;".toList
        binds := by decide, named := by decide, called := by decide
        grouped := by rintro group ⟨⟩; exact ⟨by decide, by decide, by decide, by decide⟩
        angled := by rintro group ⟨⟩; exact ⟨by decide, by decide, by decide, by decide⟩
        whole := by decide, accepted := by decide }
    let second : Statement :=
      { keyword := "let", name := ['U'], callee := .quoted "let C = css\x60".toList, attributes := none, types := none
        body := "top: 0;".toList
        binds := by decide, named := by decide, called := by decide
        grouped := by rintro group ⟨⟩, angled := by rintro group ⟨⟩
        whole := by decide, accepted := by decide }
    diagnostics (Statement.render [first, second]) = [] ∧
      (declarations (Statement.render [first, second])).map (fun declaration =>
          (declaration.component, declaration.base, declaration.body, declaration.hash)) =
        [("T", some "a-1", "top: $\x7b'var B = css\x60'\x7d;", contentHash "top: $\x7b'var B = css\x60'\x7d;"),
          ("U", some "let C = css\x60", "top: 0;", contentHash "top: 0;")] := by
  intro first second
  obtain ⟨none, read⟩ := read_render [first, second]
  exact ⟨none, read⟩

end StaticStyles.Source
