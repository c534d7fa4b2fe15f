/-!
The structure of CSS text: what stands outside quoted strings and comments, and whether its braces
match.
-/
namespace StaticStyles.Css

/-- Where a reader of CSS stands: outside strings and comments, in a string opened by `mark`, or in a comment, `star`
if the character before was `*`. -/
inductive Context where
  | plain
  | quote (mark : Char)
  | comment (star : Bool)
deriving DecidableEq, Repr

/-- The rest of a text, read from a context on, without its strings and comments; none if one of them
never ends. A backslash inside a string takes the next character with it. -/
def stripFrom : Context → List Char → Option (List Char)
  | .plain, [] => some []
  | .quote _, [] => none
  | .comment _, [] => none
  | .plain, '\'' :: rest => stripFrom (.quote '\'') rest
  | .plain, '"' :: rest => stripFrom (.quote '"') rest
  | .plain, '/' :: '*' :: rest => stripFrom (.comment false) rest
  | .plain, c :: rest => (stripFrom .plain rest).map (c :: ·)
  | .quote _, ['\\'] => none
  | .quote mark, '\\' :: _ :: rest => stripFrom (.quote mark) rest
  | .quote mark, c :: rest => stripFrom (if c = mark then .plain else .quote mark) rest
  | .comment star, c :: rest =>
    stripFrom (if star && c = '/' then .plain else .comment (c = '*')) rest

/-- The text without its strings and comments; none if one of them never ends. -/
def strip (text : List Char) : Option (List Char) := stripFrom .plain text

/-- Whether every brace has its partner, with so many blocks open at the beginning. -/
def balancedFrom : Nat → List Char → Bool
  | depth, [] => depth = 0
  | depth, '{' :: rest => balancedFrom (depth + 1) rest
  | 0, '}' :: _ => false
  | depth + 1, '}' :: rest => balancedFrom depth rest
  | depth, _ :: rest => balancedFrom depth rest

def balanced (text : List Char) : Bool := balancedFrom 0 text

example : strip ['a', '\'', '}', '\'', '/', '*', '/', '*', '/', 'b'] = some ['a', 'b'] := by decide
example : strip ['/', '*', '/'] = none := by decide

end StaticStyles.Css
