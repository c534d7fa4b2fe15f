import StaticStyles.Diagnostic
import StaticStyles.Props.Pattern
import StaticStyles.Rule.Record
import StaticStyles.Source.Declaration

/-!
From a declaration and the patterns of its props to one record for each combination. A component is
covered as a whole or, beyond a limit of combinations, not at all.
-/
namespace StaticStyles
open Text

namespace Pattern

/-- Greatest number of combinations that is told apart from greater ones. -/
def greatestCount : Nat := 1 <<< 128 - 1

/-- The number of choices of one value for each pattern; a pattern without values counts once. -/
def choiceCount : List Pattern → Nat
  | [] => 1
  | pattern :: rest =>
    if pattern.values.isEmpty then choiceCount rest else pattern.values.length * choiceCount rest

/-- The number of combinations of patterns, as far as it is told. -/
def combinationCount (patterns : List Pattern) : Nat :=
  if choiceCount patterns < greatestCount then choiceCount patterns else greatestCount

/-- All choices of one value for each pattern, the last pattern varying fastest. -/
def choices : List Pattern → List (List (String × String))
  | [] => [[]]
  | pattern :: rest =>
    pattern.values.flatMap fun value => (choices rest).map ((pattern.prop, value) :: ·)

/-- The combinations of the patterns that have values. -/
def combinations (patterns : List Pattern) : List Combination :=
  (choices (patterns.filter (!·.values.isEmpty))).map SortedMap.ofList

/-- The defaults of the patterns without values, which are held at them. -/
def heldDefaults (patterns : List Pattern) : Combination :=
  .ofList ((patterns.filter (·.values.isEmpty)).filterMap fun pattern =>
    pattern.default.map (pattern.prop, ·))

end Pattern

namespace Rule

/-- The value of an expression under given props, if it can be told. -/
def holeValue? (props : Combination) (expression : List Char) : Option (List Char) :=
  ((Expression.ofText? expression).bind (·.eval? props.get?)).map String.toList

/-- The fault of the value that an expression has under given props. -/
def holeFault? (props : Combination) (expression : List Char) : Option Css.Fault :=
  (holeValue? props expression).bind fun value =>
    match Css.checkValue value with
    | .ok () => none
    | .error fault => some fault

/-- A body under given props: every hole whose value can be told is filled, unless one of the values
would leave its declaration. -/
def interpolate (body : String) (props : Combination) : Except Css.Fault String :=
  match (Template.expressions body.toList).findSome? (holeFault? props) with
  | some fault => .error fault
  | none => .ok (String.ofList (trim (Template.replace (holeValue? props) body.toList)))

/-- The body for one combination, checked as CSS; other props have the given values. -/
def bodyFor (body : String) (held combination : Combination) : Except Css.Fault String := do
  let css ← interpolate body (held.insertAll combination.entries)
  Css.check css.toList
  return css

/-- What one combination yields. -/
def outcome (component body : String) (held combination : Combination) : Except Diagnostic Record :=
  match bodyFor body held combination with
  | .ok css => .ok (.ofBody component combination css)
  | .error fault => .error (.rejectedFor component fault combination)

/-- The records of a declaration and the diagnostics of what is left out. -/
structure Generated where
  records : List Record
  diagnostics : List Diagnostic

/-- The records and the diagnostics among outcomes, each in their order. -/
def Generated.ofOutcomes (outcomes : List (Except Diagnostic Record)) : Generated where
  records := outcomes.filterMap fun outcome =>
    match outcome with
    | .ok record => some record
    | .error _ => none
  diagnostics := outcomes.filterMap fun outcome =>
    match outcome with
    | .ok _ => none
    | .error diagnostic => some diagnostic

/-- The records of a declaration, for at most `limit` combinations. -/
def generate (limit : Nat) (declaration : Declaration) (patterns : List Pattern) : Generated :=
  if declaration.animated then ⟨[], []⟩
  else match Css.checkBody declaration.body.toList with
    | .error fault => ⟨[], [.rejected declaration.component fault]⟩
    | .ok () =>
      let count := Pattern.combinationCount patterns
      if count > limit then ⟨[], [.tooMany declaration.component count limit]⟩
      else
        .ofOutcomes ((Pattern.combinations patterns).map
          (outcome declaration.component declaration.body (Pattern.heldDefaults patterns)))

/-- Combinations of a declaration unless a limit is given. -/
def defaultLimit : Nat := 64

end Rule
end StaticStyles
