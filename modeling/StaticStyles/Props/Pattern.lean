import StaticStyles.Expression.Shape
import StaticStyles.Props.Discovery
import StaticStyles.Template.Segment

/-!
The props that a style body depends on, each with the values it can take. Expressions that are not
understood give no pattern: a missed prop costs speed only, a wrong value would cost correctness.
-/
namespace StaticStyles

/-- A prop and the values it can take, in the order they were found, with the value that stands in for an absent one.
-/
structure Pattern where
  prop : String
  values : List String
  default : Option String
deriving DecidableEq, Repr

namespace Pattern

/-- Values with further ones that are not among them yet. -/
def addValues (values more : List String) : List String :=
  more.foldl (fun seen value => if seen.contains value then seen else seen ++ [value]) values

/-- The pattern of a prop with the given values, without the repeated ones. -/
def ofValues (prop : String) (values : List String) (default : Option String) : Pattern :=
  ⟨prop, addValues [] values, default⟩

/-- A pattern with what one more expression tells of its prop; its own default goes first. -/
def merge (pattern : Pattern) (values : List String) (default : Option String) : Pattern where
  prop := pattern.prop
  values := addValues pattern.values values
  default := pattern.default.or default

/-- Patterns with what one expression tells: its prop's pattern grows, or is new at the end. -/
def add (prop : String) (values : List String) (default : Option String) : List Pattern → List Pattern
  | [] => [ofValues prop values default]
  | pattern :: rest =>
    if pattern.prop = prop then pattern.merge values default :: rest
    else pattern :: add prop values default rest

/-- What an expression tells of its prop's values. An open shape has those that the source tells too,
if the source is to be searched. -/
def valuesOf (searching : Bool) (source : List Char) (e : Expression) : List String :=
  if searching && e.isOpen then
    e.candidates ++ ((Discovery.values? e.prop.toList source).map (·.2)).getD []
  else e.candidates

/-- The expressions of a body that are understood and are no members. -/
def readable (body : List Char) : List Expression :=
  ((Template.expressions body).filterMap Expression.ofText?).filter (·.shape ≠ .member)

/-- The patterns of a body, in order of their first expression; a prop without values is left out. -/
def extract (searching : Bool) (body source : List Char) : List Pattern :=
  let all := (readable body).foldl
    (fun patterns e => add e.prop (valuesOf searching source e) e.default patterns) []
  all.filter (!·.values.isEmpty)

end Pattern
end StaticStyles
