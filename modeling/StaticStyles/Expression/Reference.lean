import StaticStyles.Expression.Literal

/-!
References to props. What an expression may refer to depends on the parameter list in front of it: one
object of all props, some props by name, or nothing, in which case every name is a prop.
-/
namespace StaticStyles.Expression
open Text

/-- The rest of a reference after its first character, as a path with plain dots, and what follows it.
A dot, or `?.`, belongs to it if a name begins after it. -/
def pathTail : List Char → List Char × List Char
  | '?' :: '.' :: c :: rest =>
    if isNameStart c then
      let (path, after) := pathTail rest
      ('.' :: c :: path, after)
    else ([], '?' :: '.' :: c :: rest)
  | '.' :: c :: rest =>
    if isNameStart c then
      let (path, after) := pathTail rest
      ('.' :: c :: path, after)
    else ([], '.' :: c :: rest)
  | c :: rest =>
    if isNamePart c then
      let (path, after) := pathTail rest
      (c :: path, after)
    else ([], c :: rest)
  | [] => ([], [])

/-- The longest reference at the beginning, as a path with plain dots, and what follows it. -/
def path? : List Char → Option (List Char × List Char)
  | [] => none
  | c :: rest =>
    if isNameStart c then
      let (path, after) := pathTail rest
      some (c :: path, after)
    else none

/-- What the names of an expression stand for: one parameter holds all props, parameters are props themselves, each
with its default, or there is no parameter list. -/
inductive Scope where
  | param (name : List Char)
  | fields (names : List (List Char × Option (List Char)))
  | bare
deriving DecidableEq, Repr

/-- The prop path of a reference, and the default of a prop that has one in the parameter list. -/
def Scope.resolve? (scope : Scope) (reference : List Char) :
    Option (List Char × Option (List Char)) :=
  match scope with
  | .param name =>
    match afterChars? name reference with
    | some ('.' :: path) => some (path, none)
    | _ => none
  | .fields names =>
    let head := reference.takeWhile (· != '.')
    (names.find? fun entry => entry.1 = head).map fun entry => (reference, entry.2)
  | .bare => some (reference, none)

/-! ## Parameter lists -/

/-- What follows the arrow of a function and the white space around it. -/
def afterArrow? (text : List Char) : Option (List Char) :=
  (after? "=>" (skipBlanks text)).map skipBlanks

/-- What follows the parenthesis that closes a parameter, with an optional type before it. -/
def afterParameter? (text : List Char) : Option (List Char) :=
  match skipBlanks text with
  | ')' :: rest => some rest
  | ':' :: rest =>
    match rest.dropWhile (· != ')') with
    | ')' :: rest => some rest
    | _ => none
  | _ => none

/-- An operand takes the rest of its text, at least one character on one line. -/
def operand? (text : List Char) : Option (List Char) :=
  let operand := skipBlanks text
  if operand.isEmpty || operand.contains '\n' then none else some operand

/-- One entry of a list of props: a name with an optional default. A default that is no literal
counts as none. -/
def field? (entry : List Char) : Option (List Char × Option (List Char)) := do
  let (name, rest) ← name? (trim entry)
  match skipBlanks rest with
  | [] => some (name, none)
  | '=' :: rest => (operand? rest).map fun value => (name, literal? value)
  | _ => none

/-- A parameter list that takes the props apart, and what follows its arrow. -/
def fieldsPreamble? (text : List Char) : Option (Scope × List Char) := do
  let rest ← after? "(" text
  let rest ← after? "\x7b" (skipBlanks rest)
  let inside := rest.takeWhile (· != '}')
  let rest ← after? "\x7d" (rest.dropWhile (· != '}'))
  let rest ← afterParameter? rest
  let rest ← afterArrow? rest
  return (.fields ((split ',' inside).filterMap field?), rest)

/-- One parameter, in parentheses or not, and what follows its arrow. -/
def paramPreamble? (text : List Char) : Option (Scope × List Char) :=
  match text with
  | '(' :: rest => do
    let (name, rest) ← name? (skipBlanks rest)
    let rest ← afterParameter? rest
    let rest ← afterArrow? rest
    return (.param name, rest)
  | text => do
    let (name, rest) ← name? text
    let rest ← afterArrow? rest
    return (.param name, rest)

/-- The scope that the parameter list of an expression opens, and its body. -/
def openScope (text : List Char) : Scope × List Char :=
  ((fieldsPreamble? text).orElse fun _ => paramPreamble? text).getD (.bare, text)

example : path? ['p', '?', '.', 'a', '.', 'b', ' ', '='] = some (['p', '.', 'a', '.', 'b'], [' ', '=']) := by
  decide
example : openScope ['(', '{', 'a', '=', '1', '}', ')', '=', '>', 'a'] = (.fields [(['a'], some ['1'])], ['a']) := by
  decide

end StaticStyles.Expression
