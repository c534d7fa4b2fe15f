import StaticStyles.Rule.ClassName

/-!
Precompiled rules: one record for each combination, and rules that classes of one body share.
-/
namespace StaticStyles

/-- A component's style for one combination of its props: the body with every hole filled, the rule of it under the
class, and its hash. -/
structure Record where
  combination : Combination
  className : String
  body : String
  rule : String
  hash : String
deriving DecidableEq

namespace Record

/-- The record of a combination whose body is known. -/
def ofBody (component : String) (combination : Combination) (body : String) : Record :=
  let name := StaticStyles.className component combination
  ⟨combination, name, body, "." ++ name ++ " \x7b " ++ body ++ " \x7d", contentHash body⟩

/-- The key under which the class of the record is found. -/
def key (record : Record) : String := record.combination.key

end Record

/-- A rule of all the classes that have one body. -/
structure SharedRule where
  classes : List String
  body : String
deriving DecidableEq, Repr

namespace SharedRule

/-- The selector: every class with its dot. -/
def selector (rule : SharedRule) : String := ", ".intercalate (rule.classes.map ("." ++ ·))

def css (rule : SharedRule) : String := rule.selector ++ " \x7b " ++ rule.body ++ " \x7d"

/-- The rule with one more class, if it is not among its classes. -/
def addClass (rule : SharedRule) (name : String) : SharedRule :=
  if rule.classes.contains name then rule else { rule with classes := rule.classes ++ [name] }

/-- Rules with one more class for a body: the body's rule gets it, or is new at the end. -/
def add (body className : String) : List SharedRule → List SharedRule
  | [] => [⟨[className], body⟩]
  | rule :: rest =>
    if rule.body = body then rule.addClass className :: rest else rule :: add body className rest

/-- The rules of records: bodies and classes in the order they are first seen. -/
def ofRecords (records : List Record) : List SharedRule :=
  records.foldl (fun rules record => add record.body record.className rules) []

/-- The rules one below the other. -/
def sheet (rules : List SharedRule) : String := "\n".intercalate (rules.map css)

end SharedRule
end StaticStyles
