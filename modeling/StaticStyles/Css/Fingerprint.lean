import StaticStyles.Text.Search

/-!
Signs that tell script text from CSS. Both are lists of local patterns: a text looks like script if
one of seven fingerprints shows, and can be CSS if one of four constructs does.
-/
namespace StaticStyles.Css
open Text

/-! ## Script -/

/-- Whether a word ends where this text begins, its last character being a word character. -/
def endsWord (rest : List Char) : Bool := !(rest.head?.any isWord)

/-- Whether a text begins with one of the words, and the word ends there. -/
def beginsWithWord (words : List String) (text : List Char) : Bool :=
  words.any fun word => (after? word text).any endsWord

/-- An `import` or `export` statement. -/
def beginsModule (text : List Char) : Bool := beginsWithWord ["import", "export"] text

/-- A `const`, `let` or `var` and the name it binds. -/
def beginsBinding (text : List Char) : Bool :=
  ["const", "let", "var"].any fun word =>
    (after? word text).any fun rest =>
      rest.head?.any isBlank && (skipBlanks rest).head?.any isNameStart

/-- A `function`, which may be `async`. -/
def beginsFunction (text : List Char) : Bool :=
  beginsWithWord ["function"] text ||
    (after? "async" text).any fun rest =>
      rest.head?.any isBlank && beginsWithWord ["function"] (skipBlanks rest)

/-- A name and `=`, with a character after it that is no second `=`. -/
def beginsAssignment (text : List Char) : Bool :=
  (name? text).any fun (_, rest) =>
    match skipBlanks rest with
    | '=' :: c :: _ => c != '='
    | _ => false

/-- An arrow or an open interpolation here, or the whole word `throw` or `return`. -/
def scriptHere (before : Option Char) (text : List Char) : Bool :=
  (after? "=>" text).isSome || (after? "$\x7b" text).isSome ||
    (!(before.any isWord) && beginsWithWord ["throw", "return"] text)

/-- Whether a text shows a fingerprint of script: a statement at its beginning, or an arrow, an
interpolation, `throw` or `return` anywhere. -/
def looksLikeScript (text : List Char) : Bool :=
  let start := skipBlanks text
  beginsModule start || beginsBinding start || beginsFunction start || beginsAssignment start ||
    occurs scriptHere none text

/-! ## CSS -/

/-- A letter of ASCII or a hyphen. -/
def isPropertyChar (c : Char) : Bool := c.isAlpha || c = '-'

/-- A property's last character, a colon, and the first character of a value. -/
def declarationHere : List Char → Bool
  | [] => false
  | c :: rest =>
    isPropertyChar c &&
      match skipBlanks rest with
      | ':' :: value => (skipBlanks value).head?.any fun v => v != ';' && v != '{' && v != '}'
      | _ => false

/-- A block, an at-rule, a parent reference or a declaration here. -/
def constructHere (_ : Option Char) (text : List Char) : Bool :=
  declarationHere text ||
    match text with
    | '{' :: _ => true
    | '&' :: _ => true
    | '@' :: c :: _ => isPropertyChar c
    | _ => false

/-- Whether a text has anything in it that CSS is made of. -/
def hasConstruct (text : List Char) : Bool := occurs constructHere none text

end StaticStyles.Css
