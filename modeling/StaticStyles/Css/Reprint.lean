import StaticStyles.Css.Optimize

/-!
A plain transform: rules with class selectors are printed again in their order, in one layout or the
other. Rules without a declaration leave nothing, nor do declarations outside rules.
-/
namespace StaticStyles.Css
open Text

/-- A rule of a flat stylesheet. -/
structure FlatRule where
  selectors : List (List Char)
  declarations : List (List Char × List Char)
deriving DecidableEq, Repr

/-- A block up to the brace that closes it, with so many blocks open, and what follows. -/
def block? : (depth : Nat) → List Char → Option (List Char × List Char)
  | _, [] => none
  | depth, '{' :: rest => (block? (depth + 1) rest).map fun (inside, rest) => ('{' :: inside, rest)
  | 0, '}' :: rest => some ([], rest)
  | depth + 1, '}' :: rest => (block? depth rest).map fun (inside, rest) => ('}' :: inside, rest)
  | depth, c :: rest => (block? depth rest).map fun (inside, rest) => (c :: inside, rest)

/-- The property and the value of a declaration, if both are there. -/
def declaration? (text : List Char) : Option (List Char × List Char) :=
  match text.dropWhile (· != ':') with
  | _ :: rest =>
    let property := trim (text.takeWhile (· != ':'))
    let value := trim rest
    if property.isEmpty || value.isEmpty then none else some (property, value)
  | [] => none

/-- The rules of a sheet without comments; `fuel` bounds their number. -/
def flatRules : (fuel : Nat) → List Char → List FlatRule
  | 0, _ => []
  | fuel + 1, css =>
    match css.dropWhile (· != '{') with
    | [] => []
    | _ :: rest =>
      match block? 0 rest with
      | none => []
      | some (inside, rest) =>
        ⟨(split ',' (css.takeWhile (· != '{'))).map trim, (split ';' inside).filterMap declaration?⟩ ::
          flatRules fuel rest

/-- Whether the transform keeps a rule: all its selectors are classes, and it declares something. -/
def FlatRule.isKept (rule : FlatRule) : Bool :=
  rule.selectors.all (fun selector => selector.head? = some '.') && !rule.declarations.isEmpty

/-- The rules of a sheet that the transform keeps. -/
def FlatRule.ofSheet (css : List Char) : List FlatRule :=
  let bare := dropComments css
  (flatRules bare.length bare).filter FlatRule.isKept

/-- A rule without any white space of its own. -/
def FlatRule.compact (rule : FlatRule) : List Char :=
  let declarations := rule.declarations.map fun (property, value) => property ++ ':' :: value
  [','].intercalate rule.selectors ++ '{' :: [';'].intercalate declarations ++ ['}']

/-- A rule over several lines. -/
def FlatRule.spread (rule : FlatRule) : List Char :=
  let declarations := rule.declarations.map fun (property, value) =>
    [' ', ' '] ++ property ++ [':', ' '] ++ value ++ [';', '\n']
  [',', ' '].intercalate rule.selectors ++ [' ', '{', '\n'] ++ declarations.flatten ++ ['}', '\n']

/-- The sheet that the transform prints. -/
def reprinted (minifying : Bool) (css : List Char) : List Char :=
  let rules := FlatRule.ofSheet css
  if minifying then rules.flatMap FlatRule.compact else ['\n'].intercalate (rules.map FlatRule.spread)

/-- The text of a source map without mappings. -/
def emptyMap : String := "\x7b\"version\":3,\"sources\":[],\"names\":[],\"mappings\":\"\"\x7d"

/-- The plain transform, with a source map or without. -/
def reprint (minifying sourceMaps : Bool) (css : String) : Outcome :=
  .produced (String.ofList (reprinted minifying css.toList)) (if sourceMaps then some emptyMap else none)

end StaticStyles.Css
