import StaticStyles.Css.Check
import StaticStyles.Css.Minify
import StaticStyles.Number.Binary64

/-!
Optimizing a stylesheet with a transform from outside. Whatever the transform does, a stylesheet comes
out: its own result if there is one, else the minified text, else the text as it is. What that saves is told in bytes
and in percent.
-/
namespace StaticStyles.Css
open Text

/-- How a run of the transform ended: with a text and perhaps a source map, without one, or not in time. -/
inductive Outcome where
  | produced (code : String) (map : Option String)
  | failed
  | timedOut
deriving DecidableEq, Repr

structure Optimized where
  code : String
  map : Option String
deriving DecidableEq, Repr

def Optimized.empty : Optimized := ⟨"", none⟩

/-- What stands in for a result of the transform: the minified text if that is asked for and not
empty, else the text itself. -/
def fallback (minifying : Bool) (css : String) : Optimized :=
  let small := minify css.toList
  if minifying && !small.isEmpty then ⟨String.ofList small, none⟩ else ⟨css, none⟩

/-- What comes of an outcome: a text that is not blank is taken. -/
def settle (minifying : Bool) (css : String) : Outcome → Optimized
  | .produced code map => if isBlankText code.toList then fallback minifying css else ⟨code, map⟩
  | .failed => fallback minifying css
  | .timedOut => fallback minifying css

/-- The optimized stylesheet; a text that is no CSS stays as it is. -/
def optimize (transform : String → Outcome) (minifying : Bool) (css : String) : Optimized :=
  match check css.toList with
  | .error _ => ⟨css, none⟩
  | .ok () => settle minifying css (transform css)

/-- The optimized stylesheet when the transform may take only so long: if it is not done in time, its
outcome is not waited for. -/
def optimizeWithin (inTime : Bool) (transform : String → Outcome) (minifying : Bool) (css : String) :
    Optimized :=
  optimize (fun css => if inTime then transform css else .timedOut) minifying css

/-! ## Sizes -/

/-- The bytes of a stylesheet before and after. -/
structure Size where
  before : Nat
  after : Nat
deriving DecidableEq, Repr

def Size.ofTexts (before after : String) : Size := ⟨before.utf8ByteSize, after.utf8ByteSize⟩

/-- The bytes saved; negative if the text grew. -/
def Size.reduction (size : Size) : Int := (size.before : Int) - size.after

/-- The bytes saved in percent of those before, as a stored double. -/
def Size.percentage (size : Size) : UInt64 := Binary64.percentRounded size.reduction size.before

end StaticStyles.Css
