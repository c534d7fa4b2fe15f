import StaticStyles.Text.Search

/-!
Literals of the script language: quoted strings, decimal numbers and booleans. A literal's value is
its text without quotes.
-/
namespace StaticStyles.Expression
open Text

/-- A quote that can enclose a string: single, double or back. -/
def isQuote (c : Char) : Bool := c = '\'' || c = '"' || c = '\x60'

/-- Whether an interpolation opens somewhere. -/
def opensHole : List Char → Bool
  | '$' :: '{' :: _ => true
  | _ :: rest => opensHole rest
  | [] => false

/-- What stands between two equal quotes, the first of which is taken already; none if the text does
not end with it. -/
def enclosed? (mark : Char) (text : List Char) : Option (List Char) :=
  if text.getLast? = some mark then some text.dropLast else none

/-- Whether the inside of a string needs no interpretation: its quote does not stand in it, and no
interpolation opens in a template. -/
def isPlainInside (mark : Char) (inside : List Char) : Bool :=
  !inside.contains mark && !(mark = '\x60' && opensHole inside)

/-- Digits of any script, with an optional minus and an optional fraction. -/
def isNumber (text : List Char) : Bool :=
  let digits := match text with
    | '-' :: rest => rest
    | text => text
  let fraction := digits.dropWhile isDecimal
  digits.head?.any isDecimal &&
    match fraction with
    | [] => true
    | '.' :: rest => !rest.isEmpty && rest.all isDecimal
    | _ => false

/-- The value of a number or boolean, which is its own text. -/
def bareLiteral? (text : List Char) : Option (List Char) :=
  if isNumber text || text = ['t', 'r', 'u', 'e'] || text = ['f', 'a', 'l', 's', 'e'] then some text
  else none

/-- The value of a literal, with white space around it. -/
def literal? (text : List Char) : Option (List Char) :=
  match trim text with
  | [] => none
  | c :: rest =>
    match if isQuote c then enclosed? c rest else none with
    | some inside => if isPlainInside c inside then some inside else none
    | none => bareLiteral? (c :: rest)

/-- Whether a value counts as true once it is text. -/
def isTruthy (value : String) : Bool :=
  !(["", "false", "0", "null", "undefined", "NaN"].contains value)

example : literal? [' ', '\'', 'a', '"', '\''] = some ['a', '"'] := by decide
example : literal? ['-', '1', '.', '5'] = some ['-', '1', '.', '5'] := by decide
example : literal? ['\'', '\'', '\''] = none := by decide

end StaticStyles.Expression
