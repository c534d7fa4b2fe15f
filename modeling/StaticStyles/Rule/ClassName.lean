import StaticStyles.Props.Combination
import StaticStyles.Text.Hex
import StaticStyles.Text.Lowercase

/-!
Class names: the component in lower case, then one token `name-value` for each prop, in the order of
the tokens, all joined by `_`.
-/
namespace StaticStyles.ClassName

/-- A character that a class name may hold. -/
def isNameChar (c : Char) : Bool := c.isAlphanum || c = '-' || c = '_'

/-- The last four digits of the hash of a text. -/
def hashSuffix (raw : List Char) : List Char := (Text.hexPadded 8 (rollingHash raw).toNat).drop 4

/-- A text as part of a class name, with hyphens for characters it may not hold. A part that differs
from its text, or holds the separator `_`, carries a hash of the text. -/
def token (raw : List Char) : List Char :=
  let plain := raw.map fun c => if isNameChar c then c else '-'
  if plain = raw && !raw.contains '_' then plain else plain ++ hashSuffix raw

def pairToken (pair : String × String) : List Char :=
  token pair.1.toList ++ '-' :: token pair.2.toList

/-- The tokens of a combination in increasing order. -/
def pairTokens (combination : Combination) : List (List Char) :=
  (combination.entries.map pairToken).mergeSort fun a b => String.ofList a ≤ String.ofList b

/-- The characters of the class name of a combination of a component. -/
def chars (component : String) (combination : Combination) : List Char :=
  token (Text.lower component.toList) ++ (pairTokens combination).flatMap ('_' :: ·)

end StaticStyles.ClassName

namespace StaticStyles

def className (component : String) (combination : Combination) : String :=
  String.ofList (ClassName.chars component combination)

example : className "Button" (.ofList [("size", "lg"), ("$on", "a_b")]) =
    "button_-on9503-a_b7804_size-lg" := by cbv

end StaticStyles
