import StaticStyles.Json.Reader

/-!
Reading structures from raw trees of JSON: a field is read in the one way its type allows.
-/
namespace StaticStyles.Json.Raw

def isArray : Raw → Bool
  | .array _ => true
  | _ => false

def bool? : Raw → Option Bool
  | .bool value => some value
  | _ => none

def text? : Raw → Option String
  | .text value => value
  | _ => none

/-- A whole number from zero on that fits a word. -/
def nat? : Raw → Option Nat
  | .number literal =>
    match literal.number? with
    | some (.whole value) => if value < 0 then none else some value.toNat
    | _ => none
  | _ => none

/-- The items of an array, each read in one way. -/
def list? {α : Type} (read : Raw → Option α) : Raw → Option (List α)
  | .array items => items.mapM read
  | _ => none

/-- The members of a structure by the names of its fields. An object may have other members, which are
skipped, but no field twice; an array holds the fields in order, from the first on. -/
def fields? (names : List String) : Raw → Option (List (String × Raw))
  | .array items => if items.length ≤ names.length then some (names.zip items) else none
  | .object members => do
    let named ← members.mapM fun (name, raw) => name.map (·, raw)
    let known := named.filter fun (name, _) => names.contains name
    if (known.map (·.1)).Nodup then some known else none
  | _ => none

/-- A field of a structure, or a default if it is absent. -/
def field? {α : Type} (fields : List (String × Raw)) (name : String) (read : Raw → Option α)
    (default : Option α) : Option α :=
  match fields.find? fun field => field.1 = name with
  | some (_, raw) => read raw
  | none => default

/-- A text, or null for none. -/
def optionalText? : Raw → Option (Option String)
  | .null => some none
  | .text (some value) => some (some value)
  | _ => none

/-- A member whose value is a text. -/
def textMember? : Option String × Raw → Option (String × String)
  | (some name, .text (some value)) => some (name, value)
  | _ => none

/-- An object of texts; the last of a repeated name stays. -/
def textMap? : Raw → Option (SortedMap String)
  | .object members => (members.mapM textMember?).map .ofList
  | _ => none

end StaticStyles.Json.Raw
