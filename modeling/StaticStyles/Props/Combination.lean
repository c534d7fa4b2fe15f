import StaticStyles.SortedMap
import StaticStyles.Text.Hex

/-!
Combinations: one chosen value for each of some props, and the one text for them that is their key. Its pairs are
sorted by name and written `name:value|name:value`; a backslash protects the two separators and itself inside names
and values.
-/
namespace StaticStyles.CanonicalKey

/-- A name or a value with its separators and backslashes protected. -/
def escape (part : List Char) : List Char :=
  part.flatMap fun c => if c = '\\' || c = '|' || c = ':' then ['\\', c] else [c]

def encodePair (pair : String × String) : List Char :=
  escape pair.1.toList ++ ':' :: escape pair.2.toList

def encode (pairs : List (String × String)) : List Char :=
  ['|'].intercalate (pairs.map encodePair)

/-- The pairs by name; pairs of one name keep their order. -/
def sortByName (pairs : List (String × String)) : List (String × String) :=
  pairs.mergeSort fun a b => a.1 ≤ b.1

end StaticStyles.CanonicalKey

namespace StaticStyles

/-- The key of a list of names and values, whatever their order. -/
def canonicalKey (pairs : List (String × String)) : String :=
  String.ofList (CanonicalKey.encode (CanonicalKey.sortByName pairs))

example : canonicalKey [("b", "y"), ("a", "x|b:y")] = "a:x\\|b\\:y|b:y" := by cbv

/-! ## Combinations -/

/-- A value for each of some props, by name. -/
abbrev Combination := SortedMap String

namespace Combination

/-- The text under which the class of a combination is found. -/
def key (combination : Combination) : String := canonicalKey combination.entries

/-- A combination in a message: names and values in quotes, in braces. -/
def describe (combination : Combination) : String :=
  let pairs := combination.entries.map fun (name, value) =>
    Text.quoted name ++ ": " ++ Text.quoted value
  "\x7b" ++ ", ".intercalate pairs ++ "\x7d"

end Combination
end StaticStyles
