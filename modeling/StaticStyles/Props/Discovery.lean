import StaticStyles.Expression.Literal
import StaticStyles.Text.Classes

/-!
The values that a source text gives a prop: in the type it declares for the prop, else where the prop
is written, else by the conventional meaning of its name.
-/
namespace StaticStyles.Discovery
open Text Expression

/-- Where the values of a prop were found: in a type declaration, where the prop is given a value, or among the
conventional values of its name. -/
inductive Origin where
  | type
  | usage
  | vocabulary
deriving DecidableEq, Repr

/-- Values that a few names conventionally have. -/
def vocabulary : List (String × List String) :=
  [("size", ["small", "medium", "large"]), ("variant", ["primary", "secondary"]),
    ("align", ["left", "center", "right"]), ("orientation", ["horizontal", "vertical"])]

/-- Values without the repeated ones; the first of equals stays. -/
def distinct (values : List (List Char)) : List (List Char) :=
  values.foldl (fun seen value => if seen.contains value then seen else seen ++ [value]) []

/-! ## Places in a source -/

/-- What follows a prop's name at a word boundary. -/
def afterProp? (prop : List Char) (before : Option Char) (text : List Char) : Option (List Char) :=
  if isBoundary before text then afterChars? prop text else none

/-- What follows a mark after white space. -/
def afterMark? (mark : Char) (text : List Char) : Option (List Char) :=
  match skipBlanks text with
  | c :: rest => if c = mark then some rest else none
  | [] => none

/-- The longest run of characters that are not among the stops, at least one, after white space. If
the white space runs into a stop, its last character that is none is the run. -/
def run? (stops : List Char) (text : List Char) : Option (List Char × List Char) :=
  let isInside (c : Char) : Bool := !stops.contains c
  let rest := skipBlanks text
  match rest.takeWhile isInside with
  | c :: run => some (c :: run, rest.dropWhile isInside)
  | [] =>
    let blanks := text.takeWhile isBlank
    let passed := blanks.reverse.dropWhile (!isInside ·)
    match passed with
    | [] => none
    | c :: _ => some ([c], text.drop passed.length)

/-! ## Declared types -/

/-- The type that a prop is declared with here: `name: …` or `name?: …` up to the end of the entry or
line. -/
def typeHere (prop : List Char) (before : Option Char) (text : List Char) :
    Option (List Char × List Char) := do
  let rest ← afterProp? prop before text
  let rest := match rest with
    | '?' :: rest => rest
    | rest => rest
  let rest ← afterMark? ':' rest
  run? [';', ',', '\n', '}'] rest

/-- The literals of a union type; none if it has another member or no member. -/
def union? (type : List Char) : Option (List (List Char)) :=
  let members := ((split '|' type).map trim).filter (!·.isEmpty)
  (members.mapM literal?).filter (!·.isEmpty)

/-- The literals of the type that stands for the two truth values. -/
def boolean? (type : List Char) : Option (List (List Char)) :=
  if type = "boolean".toList then some ["true".toList, "false".toList] else none

/-- A character of the name of a type. -/
def isTypeNamePart (c : Char) : Bool := isAlphanumeric c || c = '_' || c = '$'

/-- What a named type is declared to be here, up to the end of the statement or line. -/
def aliasHere (name : List Char) (before : Option Char) (text : List Char) : Option (List Char) := do
  if before.any isWord then none
  let rest ← after? "type" text
  if !(rest.head?.any isBlank) then none
  let rest ← afterChars? name (skipBlanks rest)
  let rest ← afterMark? '=' rest
  let (type, _) ← run? [';', '\n'] rest
  return type

/-- The literals of a named type, by its first declaration. -/
def alias? (name source : List Char) : Option (List (List Char)) :=
  if name.all isTypeNamePart then
    (search (aliasHere name) none source).bind fun type =>
      (union? (trim type)).orElse fun _ => boolean? (trim type)
  else none

/-- The values of a declared type: a union of two literals or more, a truth value, or the literals of
a named type. -/
def typeValues? (source type : List Char) : Option (List (List Char)) :=
  ((union? type).filter (1 < ·.length)).orElse fun _ =>
    (boolean? type).orElse fun _ => alias? type source

/-- The values that all types declared for a prop tell. -/
def declared (prop source : List Char) : List (List Char) :=
  let types := (findAll (typeHere prop) source).map trim
  distinct (types.flatMap fun type => (typeValues? source type).getD [])

/-! ## Places where a prop is given a value -/

/-- A string in single or double quotes, and what follows it. -/
def string? : List Char → Option (List Char × List Char)
  | c :: rest =>
    if c = '\'' || c = '"' then
      match rest.dropWhile (· != c) with
      | _ :: after => some (rest.takeWhile (· != c), after)
      | [] => none
    else none
  | [] => none

/-- The string that an attribute is given here, in a brace or not. -/
def attributeHere (prop : List Char) (before : Option Char) (text : List Char) :
    Option (List Char × List Char) := do
  let rest ← afterProp? prop before text
  let rest ← afterMark? '=' rest
  let rest := match skipBlanks rest with
    | '{' :: rest => rest
    | rest => rest
  string? (skipBlanks rest)

/-- What follows the end of an entry: a comma, a brace, or the last line break before other text. -/
def afterEntry? (text : List Char) : Option (List Char) :=
  match skipBlanks text with
  | ',' :: rest => some rest
  | '}' :: rest => some rest
  | _ =>
    let passed := (text.takeWhile isBlank).reverse.dropWhile (· != '\n')
    if passed.isEmpty then none else some (text.drop passed.length)

/-- The string that an entry of an object has here. -/
def entryHere (prop : List Char) (before : Option Char) (text : List Char) :
    Option (List Char × List Char) := do
  let rest ← afterProp? prop before text
  let rest ← afterMark? ':' rest
  let (value, rest) ← string? (skipBlanks rest)
  let rest ← afterEntry? rest
  return (value, rest)

/-- The strings that a prop is given, as an attribute and then as an entry. -/
def used (prop source : List Char) : List (List Char) :=
  distinct (findAll (attributeHere prop) source ++ findAll (entryHere prop) source)

def found? (origin : Origin) (values : List (List Char)) : Option (Origin × List String) :=
  if values.isEmpty then none else some (origin, values.map String.ofList)

/-- The values of a prop, from the first kind of place that tells any. -/
def values? (prop source : List Char) : Option (Origin × List String) :=
  (found? .type (declared prop source)).orElse fun _ =>
    (found? .usage (used prop source)).orElse fun _ =>
      (vocabulary.find? fun entry => entry.1.toList = prop).map fun entry => (.vocabulary, entry.2)

end StaticStyles.Discovery
