import StaticStyles.Json.Decode
import StaticStyles.Props.Pattern
import StaticStyles.Rule.Record

/-!
Patterns and records as they are kept in JSON: an object with their fields, or a list of all the fields
in order.
-/
namespace StaticStyles
open Json.Raw

namespace Pattern

def fieldNames : List String := ["prop_name", "candidate_values", "default_value"]

/-- A pattern of a raw tree. In an object the default may be absent. -/
def ofRaw? (raw : Json.Raw) : Option Pattern := do
  let fields ← fields? fieldNames raw
  let prop ← field? fields "prop_name" text? none
  let values ← field? fields "candidate_values" (list? text?) none
  let absent := if raw.isArray then none else some none
  let default ← field? fields "default_value" optionalText? absent
  return ⟨prop, values, default⟩

def listOfJson? (text : String) : Option (List Pattern) := (Json.Raw.ofText? text).bind (list? ofRaw?)

end Pattern

namespace Record

def fieldNames : List String := ["prop_combination", "class_name", "css_body", "css_rule", "css_hash"]

def ofRaw? (raw : Json.Raw) : Option Record := do
  let fields ← fields? fieldNames raw
  let combination ← field? fields "prop_combination" textMap? none
  let className ← field? fields "class_name" text? none
  let body ← field? fields "css_body" text? none
  let rule ← field? fields "css_rule" text? none
  let hash ← field? fields "css_hash" text? none
  return ⟨combination, className, body, rule, hash⟩

def listOfJson? (text : String) : Option (List Record) := (Json.Raw.ofText? text).bind (list? ofRaw?)

end Record
end StaticStyles
