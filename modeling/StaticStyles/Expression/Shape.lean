import StaticStyles.Expression.Reference
import StaticStyles.Expression.Ternary

/-!
The few shapes of expressions that can be evaluated before the program runs. An expression of no such
shape is declined; nothing here evaluates script in general.
-/
namespace StaticStyles
open Text

/-- What an expression does with the value of its prop. A branch is absent if it is no literal; a member of a member
is never evaluated. -/
inductive Shape where
  | equality (compared : String) (negated : Bool) (yes no : Option String)
  | truthy (yes no : Option String)
  | fallback (value : String)
  | member
  | direct
deriving DecidableEq, Repr

/-- An expression that depends on one prop, or on the member that a path with dots leads to; the default stands in if
there is none. -/
structure Expression where
  prop : String
  shape : Shape
  default : Option String
deriving DecidableEq, Repr

namespace Expression

/-- An expression on a prop path: with a dot in the path it is a member, whatever its shape. -/
def onPath (path : List Char) (default : Option (List Char)) (shape : Shape) : Expression where
  prop := String.ofList path
  shape := if path.contains '.' then .member else shape
  default := default.map String.ofList

def branchValue (branch : List Char) : Option String := (literal? branch).map String.ofList

/-- A comparison operator, whether it asks for difference, and what follows it. -/
def comparison? (text : List Char) : Option (Bool × List Char) :=
  let equal (word : String) (negated : Bool) := (after? word text).map (negated, ·)
  (equal "===" false).orElse fun _ => (equal "==" false).orElse fun _ =>
    (equal "!==" true).orElse fun _ => equal "!=" true

/-- `prop === 'a' ? x : y`, also with `==`, `!==` and `!=`. -/
def equality? (scope : Scope) (body : List Char) : Option Expression := do
  let (condition, yes, no) ← ternary? body
  let (reference, rest) ← path? (trim condition)
  let (negated, rest) ← comparison? (skipBlanks rest)
  let compared ← (operand? rest).bind literal?
  let (path, default) ← scope.resolve? reference
  return onPath path default
    (.equality (String.ofList compared) negated (branchValue yes) (branchValue no))

/-- `prop ? x : y`, also with `!` before the prop. -/
def truthy? (scope : Scope) (body : List Char) : Option Expression := do
  let (condition, yes, no) ← ternary? body
  let (negated, condition) := match trim condition with
    | '!' :: rest => (true, skipBlanks rest)
    | condition => (false, condition)
  let (reference, rest) ← path? condition
  if !rest.isEmpty then none
  let (path, default) ← scope.resolve? reference
  let (yes, no) := if negated then (no, yes) else (yes, no)
  return onPath path default (.truthy (branchValue yes) (branchValue no))

/-- `prop || 'x'` or `prop ?? 'x'`; the literal is the default. -/
def fallback? (scope : Scope) (body : List Char) : Option Expression := do
  let (reference, rest) ← path? body
  let rest := skipBlanks rest
  let rest ← (after? "||" rest).orElse fun _ => after? "??" rest
  let value ← (operand? rest).bind literal?
  let (path, _) ← scope.resolve? reference
  return onPath path (some value) (.fallback (String.ofList value))

def direct? (scope : Scope) (body : List Char) : Option Expression := do
  let (reference, rest) ← path? body
  if !rest.isEmpty then none
  let (path, default) ← scope.resolve? reference
  return onPath path default .direct

/-- Whether every parenthesis has its partner, with so many open at the beginning. -/
def parenthesesMatch : (depth : Nat) → List Char → Bool
  | depth, [] => depth = 0
  | depth, '(' :: rest => parenthesesMatch (depth + 1) rest
  | 0, ')' :: _ => false
  | depth + 1, ')' :: rest => parenthesesMatch depth rest
  | depth, _ :: rest => parenthesesMatch depth rest

/-- The text without one pair of parentheses around all of it. -/
def unwrap (body : List Char) : List Char :=
  match body with
  | '(' :: rest =>
    match enclosed? ')' rest with
    | some inside => if parenthesesMatch 0 inside then trim inside else body
    | none => body
  | body => body

/-- The expression of an interpolation, if it has one of the shapes; the first that fits is taken. -/
def ofText? (text : List Char) : Option Expression :=
  let (scope, body) := openScope (trim text)
  let body := unwrap (trim body)
  (equality? scope body).orElse fun _ => (truthy? scope body).orElse fun _ =>
    (fallback? scope body).orElse fun _ => direct? scope body

/-- The values that the shape itself tells of the prop. An equality that gives its own literal where it
holds maps the prop to its own values, so its other branch is one of them too. -/
def candidates (e : Expression) : List String :=
  match e.shape with
  | .equality compared negated yes no =>
    let (onEqual, onOther) := if negated then (no, yes) else (yes, no)
    if onEqual = some compared then compared :: (onOther.filter (· ≠ compared)).toList else [compared]
  | .truthy (some _) (some _) => ["true", "false"]
  | .truthy _ _ => []
  | .fallback value => [value]
  | .member => []
  | .direct => []

/-- Whether the prop can have values that the shape does not tell. -/
def isOpen (e : Expression) : Bool :=
  match e.shape with
  | .equality .. => true
  | .fallback _ => true
  | .direct => true
  | .truthy _ _ => false
  | .member => false

/-- The value under given props; none if only the running program knows it. -/
def eval? (e : Expression) (lookup : String → Option String) : Option String :=
  let value := (lookup e.prop).or e.default
  match e.shape with
  | .equality compared negated yes no => if (value = some compared) != negated then yes else no
  | .truthy yes no => if value.any isTruthy then yes else no
  | .fallback other => some ((value.filter isTruthy).getD other)
  | .member => none
  | .direct => value

end Expression
end StaticStyles
