import StaticStyles.Json.Writer
import StaticStyles.Text.Blank

/-!
Custom properties on the inline style of an element. Names and values that could end a declaration are
dropped or cleaned, so that one value cannot become another property.
-/
namespace StaticStyles
open Text

/-- The properties of an inline style in the order they were first set. -/
structure InlineStyle where
  properties : List (String × String)
deriving DecidableEq, Repr

namespace CustomProperty

/-- A character that a name may hold after its two hyphens. -/
def isNameChar (c : Char) : Bool := c.isAlphanum || c = '-'

/-- Whether a text is the name of a custom property: two hyphens, and at least one letter, digit or
hyphen of ASCII. -/
def isName (name : String) : Bool :=
  match name.toList with
  | '-' :: '-' :: rest => !rest.isEmpty && rest.all isNameChar
  | _ => false

def isControl (c : Char) : Bool := c < ' ' || ('\x7F' ≤ c && c ≤ '\u009F')

/-- A character that a value may hold: no control, and none that ends a declaration or a block. -/
def isValueChar (c : Char) : Bool := !isControl c && c != ';' && c != '{' && c != '}'

/-- A value with only the characters it may hold, and no white space around it. -/
def sanitize (value : String) : String := String.ofList (trim (value.toList.filter isValueChar))

/-- The text of a value that is one: a text, a number or a truth value. -/
def scalarText? : Json.Value → Option String
  | .text value => some value
  | .number n => some (String.ofList n.text)
  | .bool value => some (if value then "true" else "false")
  | .null => none
  | .array _ => none
  | .object _ => none

/-- The properties of a component's props: a component's key and a prop's name make a name. -/
def ofProps (key : String) (props : List (String × Json.Value)) : SortedMap String :=
  .ofList (props.filterMap fun (name, value) =>
    (scalarText? value).map ("--" ++ key ++ "-" ++ name, ·))

/-- The name of the property of a path. -/
def pathName (path : List String) : String := "--" ++ "-".intercalate path

mutual

/-- The texts and numbers below a value, each with the name of its path, in the order of the keys. -/
def leaves (path : List String) : Json.Value → List (String × Json.Value)
  | .object members => memberLeaves path members
  | .text value => if path.isEmpty then [] else [(pathName path, .text value)]
  | .number value => if path.isEmpty then [] else [(pathName path, .number value)]
  | .null => []
  | .bool _ => []
  | .array _ => []

/-- The leaves below the members of an object. -/
def memberLeaves (path : List String) : List (String × Json.Value) → List (String × Json.Value)
  | [] => []
  | (name, value) :: rest => leaves (path ++ [name]) value ++ memberLeaves path rest

end

end CustomProperty

namespace InlineStyle
open CustomProperty

def empty : InlineStyle := ⟨[]⟩

instance : Inhabited InlineStyle := ⟨empty⟩

/-- Properties with one set: it keeps its place, or is new at the end. -/
def setIn (name value : String) : List (String × String) → List (String × String)
  | [] => [(name, value)]
  | (n, v) :: rest => if n = name then (n, value) :: rest else (n, v) :: setIn name value rest

def set (style : InlineStyle) (name value : String) : InlineStyle := ⟨setIn name value style.properties⟩

def get? (style : InlineStyle) (name : String) : Option String :=
  (style.properties.find? fun property => property.1 = name).map (·.2)

/-- The style as the text of an attribute. -/
def text (style : InlineStyle) : String :=
  "; ".intercalate (style.properties.map fun (name, value) => name ++ ": " ++ value)

/-- What an assignment is written as, if its name and its cleaned value are fit. -/
def written? (assigned : String × Json.Value) : Option (String × String) :=
  if isName assigned.1 then
    match scalarText? assigned.2 with
    | some value => if sanitize value = "" then none else some (assigned.1, sanitize value)
    | none => none
  else none

/-- The style with the assignments that are fit, and their number. -/
def apply (style : InlineStyle) (assigned : List (String × Json.Value)) : InlineStyle × Nat :=
  let fit := assigned.filterMap written?
  (fit.foldl (fun style property => style.set property.1 property.2) style, fit.length)

/-- The style with the leaves of a theme, and their number; a name begins with the theme's prefix
unless that is empty. -/
def applyTheme (style : InlineStyle) (theme : Json.Value) (themePrefix : Option String) :
    InlineStyle × Nat :=
  style.apply (leaves ((themePrefix.filter (· ≠ "")).toList) theme)

end InlineStyle
end StaticStyles
