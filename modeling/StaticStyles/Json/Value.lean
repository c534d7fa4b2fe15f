import StaticStyles.Json.Literal
import StaticStyles.SortedMap

/-!
Values of JSON. The members of an object are in increasing order of their names, and each name stands
once.
-/
namespace StaticStyles.Json

inductive Value where
  | null
  | bool (value : Bool)
  | number (value : Number)
  | text (value : String)
  | array (items : List Value)
  | object (members : List (String × Value))
deriving BEq, Repr, Inhabited

namespace Value

def members? : Value → Option (List (String × Value))
  | .object members => some members
  | _ => none

def items? : Value → Option (List Value)
  | .array items => some items
  | _ => none

def text? : Value → Option String
  | .text value => some value
  | _ => none

def member? (value : Value) (name : String) : Option Value :=
  value.members?.bind fun members => (members.find? fun member => member.1 = name).map (·.2)

def isNull : Value → Bool
  | .null => true
  | _ => false

end Value
end StaticStyles.Json
