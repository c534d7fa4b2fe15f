import StaticStyles.Css.Check
import StaticStyles.Props.Combination

/-!
What a build reports of the parts of a source that it leaves to the running program. No diagnostic
stops a build.
-/
namespace StaticStyles

/-- Why a declaration is passed over. A name is taken if another body has it, and clashes if it differs from a taken
one only in upper and lower case. -/
inductive SkipReason where
  | noTemplate
  | unterminatedTemplate
  | nameTaken
  | nameClash
deriving DecidableEq, Repr

def SkipReason.message : SkipReason → String
  | .noTemplate => "no template literal after the style call"
  | .unterminatedTemplate => "unterminated template literal"
  | .nameTaken => "component name already registered with a different body"
  | .nameClash => "component name differs from a registered one only in case"

/-- Something that has been left out: a declaration, a body that is no CSS, one combination of it that is none, or all
combinations if there are more than the limit. -/
inductive Diagnostic where
  | skipped (component : String) (reason : SkipReason)
  | rejected (component : String) (fault : Css.Fault)
  | rejectedFor (component : String) (fault : Css.Fault) (combination : Combination)
  | tooMany (component : String) (count limit : Nat)
deriving DecidableEq

def Diagnostic.message : Diagnostic → String
  | .skipped component reason => "Skipped declaration " ++ component ++ ": " ++ reason.message
  | .rejected component fault => "Rejected CSS for " ++ component ++ ": " ++ fault.message
  | .rejectedFor component fault combination =>
    "Rejected CSS for " ++ component ++ ": " ++ fault.message ++ " for " ++ combination.describe
  | .tooMany component count limit =>
    component ++ " needs " ++ toString count ++ " combinations (limit " ++ toString limit ++ ")"

end StaticStyles
