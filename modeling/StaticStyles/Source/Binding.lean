import StaticStyles.Text.Search

/-!
Bindings of a name to a style call, up to the place where the template is due:
`const Button = styled.button`, `let Card = styled(Box)`, `var base = css`.
-/
namespace StaticStyles.Source
open Text

/-- A name bound to a style call. -/
structure Binding where
  component : List Char
  base : Option (List Char)
deriving DecidableEq, Repr

/-- What follows a `const`, `let` or `var` and the white space after it. -/
def afterKeyword? (text : List Char) : Option (List Char) :=
  ["const", "let", "var"].findSome? fun word =>
    (after? word text).bind fun rest =>
      if rest.head?.any isBlank then some (skipBlanks rest) else none

/-- A further character of an element's name. -/
def isTagPart (c : Char) : Bool := isWord c || c = '-'

/-- The name of an element, and what follows. -/
def tag? : List Char → Option (List Char × List Char)
  | [] => none
  | c :: rest =>
    if c.isAlpha then some (c :: rest.takeWhile isTagPart, rest.dropWhile isTagPart) else none

/-- A further character of a dotted name. -/
def isDottedPart (c : Char) : Bool := isNamePart c || c = '.'

/-- What stands in quotes after the opening one, and what follows the closing one. -/
def string? (mark : Char) (text : List Char) : Option (List Char × List Char) :=
  match text.dropWhile (· != mark) with
  | [] => none
  | _ :: rest => some (text.takeWhile (· != mark), rest)

/-- The argument of a style call: an element's name in quotes, or a dotted name. -/
def argument? : List Char → Option (List Char × List Char)
  | '\'' :: rest => string? '\'' rest
  | '"' :: rest => string? '"' rest
  | c :: rest =>
    if isNameStart c then some (c :: rest.takeWhile isDottedPart, rest.dropWhile isDottedPart) else none
  | [] => none

/-- What a style call styles, if it says so, and what follows the call. -/
def call? (text : List Char) : Option (Option (List Char) × List Char) :=
  match after? "styled" text with
  | some rest =>
    match skipBlanks rest with
    | '.' :: rest => (tag? (skipBlanks rest)).map fun (tag, rest) => (some tag, rest)
    | '(' :: rest => do
      let (base, rest) ← argument? (skipBlanks rest)
      let rest ← after? ")" (skipBlanks rest)
      return (some base, rest)
    | _ => none
  | none => (after? "css" text).bind fun rest => if rest.head?.any isWord then none else some (none, rest)

/-- The binding at a place, and what follows it. -/
def binding? (before : Option Char) (text : List Char) : Option (Binding × List Char) := do
  if before.any isWord then none
  let rest ← afterKeyword? text
  let (component, rest) ← name? rest
  let rest ← after? "=" (skipBlanks rest)
  let (base, rest) ← call? (skipBlanks rest)
  return (⟨component, base⟩, rest)

end StaticStyles.Source
