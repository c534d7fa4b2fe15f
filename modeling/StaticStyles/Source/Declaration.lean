import StaticStyles.Text.Hex
import StaticStyles.Text.Offset
import StaticStyles.Text.Search

/-!
Style declarations: a component's name bound to a template of CSS. A component moves if there are animation properties
in its body, or an animation wrapper or hook shortly after its declaration; its styles are left to the running program.
-/
namespace StaticStyles.Source
open Text

/-- A small letter of ASCII or a hyphen. -/
def isSuffixChar (c : Char) : Bool := ('a' ≤ c && c ≤ 'z') || c = '-'

/-- What follows the rest of a property name, such as `-delay`, if there is more of it. -/
def skipSuffix : List Char → List Char
  | '-' :: c :: rest => if isSuffixChar c then rest.dropWhile isSuffixChar else '-' :: c :: rest
  | text => text

/-- Whether one of the words begins a text and leaves a rest that passes the test. -/
def beginsWith (words : List String) (test : List Char → Bool) (text : List Char) : Bool :=
  words.any fun word => (after? word text).any test

/-- Whether a character follows the white space, which may be none. -/
def meets (c : Char) (text : List Char) : Bool := (skipBlanks text).head? = some c

/-- An animation property with its colon, or the at-rule that defines key frames. -/
def animationHere (before : Option Char) (text : List Char) : Bool :=
  (before.all (fun c => isBlank c || c = ';' || c = '{') &&
    beginsWith ["animation", "transition", "transform"] (fun rest => meets ':' (skipSuffix rest)) text) ||
  beginsWith ["@keyframes"] (fun rest => !(rest.head?.any isWord)) text

/-- Whether a body uses animation properties itself. -/
def animates (body : List Char) : Bool := occurs animationHere none body

/-- A call of a hook that drives an animation. -/
def hookHere (before : Option Char) (text : List Char) : Bool :=
  !(before.any isWord) &&
    beginsWith ["useSpring", "useSprings", "useTransition", "useTrail", "useChain"] (meets '(') text

/-- A call of a wrapper for animation with the given name as its first argument. -/
def wrapperHere (name : List Char) (before : Option Char) (text : List Char) : Bool :=
  !(before.any isWord) &&
    beginsWith ["animated", "withSpring"] (fun rest =>
      match skipBlanks rest with
      | '(' :: rest =>
        (afterChars? name (skipBlanks rest)).any fun rest => meets ',' rest || meets ')' rest
      | _ => false) text

/-- Bytes after a declaration in which a wrapper or hook counts for it. -/
def lookahead : Nat := 500

/-- Whether a wrapper of the component or a hook follows shortly. -/
def isDriven (name following : List Char) : Bool :=
  let window := takeBytes lookahead following
  occurs hookHere none window || occurs (wrapperHere name) none window

end StaticStyles.Source

/-! ## Declarations -/

namespace StaticStyles

/-- A component's style as it is declared: the element or component that is styled, if one is named, the body of the
template as written, whether it moves, and the hash of the body. -/
structure Declaration where
  component : String
  base : Option String
  body : String
  animated : Bool
  hash : String
deriving DecidableEq, Repr

/-- The declaration of a body; it is animated if the body says so. -/
def Declaration.ofBody (component : String) (base : Option String) (body : String) : Declaration where
  component := component
  base := base
  body := body
  animated := Source.animates body.toList
  hash := contentHash body

end StaticStyles
