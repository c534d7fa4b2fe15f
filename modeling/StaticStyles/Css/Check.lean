import StaticStyles.Css.Fingerprint
import StaticStyles.Css.Structure
import StaticStyles.Template.Segment

/-!
What text is taken for CSS: finished text, template bodies with holes, and values that are about to
fill a hole.
-/
namespace StaticStyles.Css
open Text

/-- Why a text is not taken for CSS; the last two are faults of a value that is about to fill a hole. -/
inductive Fault where
  | empty
  | script
  | unterminated
  | unbalanced
  | noConstruct
  | valueUnterminated
  | valueEscapes
deriving DecidableEq, Repr

def Fault.message : Fault → String
  | .empty => "empty CSS"
  | .script => "looks like host-language code"
  | .unterminated => "unterminated string or comment"
  | .unbalanced => "unbalanced braces"
  | .noConstruct => "no recognizable CSS construct"
  | .valueUnterminated => "unterminated string or comment in value"
  | .valueEscapes => "value escapes its declaration"

/-- The first fault of finished CSS text, if it has one. -/
def check (css : List Char) : Except Fault Unit :=
  if isBlankText css then .error .empty
  else if looksLikeScript css then .error .script
  else match strip css with
    | none => .error .unterminated
    | some outside =>
      if !balanced outside then .error .unbalanced
      else if !hasConstruct css then .error .noConstruct
      else .ok ()

/-- A template body with a neutral value in every hole. -/
def neutral (body : List Char) : List Char := Template.replace (fun _ => some ['0']) body

/-- The first fault of a template body, whatever its holes hold. -/
def checkBody (body : List Char) : Except Fault Unit := check (neutral body)

/-- A character that ends a declaration, or opens or closes a block. -/
def isDelimiter (c : Char) : Bool := c = '{' || c = '}' || c = ';'

/-- The fault of a value for a hole: it must end its strings and comments and stay inside its
declaration. -/
def checkValue (value : List Char) : Except Fault Unit :=
  match strip value with
  | none => .error .valueUnterminated
  | some outside => if outside.any isDelimiter then .error .valueEscapes else .ok ()

end StaticStyles.Css
