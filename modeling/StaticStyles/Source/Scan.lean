import StaticStyles.Diagnostic
import StaticStyles.Source.Binding
import StaticStyles.Source.Declaration

/-!
The style declarations of a source text. The text is searched for bindings; each one that is found
yields a declaration or a diagnostic, and the search goes on behind it.
-/
namespace StaticStyles.Source
open Text

/-- What follows layout white space. -/
def skipLayout (text : List Char) : List Char := text.dropWhile isLayout

/-- What follows the bracket that closes the ones that are open. The `>` of an arrow is no bracket, and
a backtick means that the group has no end. -/
def groupEnd? (opening closing : Char) :
    (depth : Nat) → (afterEquals : Bool) → List Char → Option (List Char)
  | _, _, [] => none
  | depth, afterEquals, c :: rest =>
    if c = '>' && afterEquals then groupEnd? opening closing depth false rest
    else if c = opening then groupEnd? opening closing (depth + 1) (c = '=') rest
    else if c = closing then
      if depth ≤ 1 then some rest else groupEnd? opening closing (depth - 1) (c = '=') rest
    else if c = '\x60' then none
    else groupEnd? opening closing depth (c = '=') rest

/-- What follows a group in brackets that begins here. -/
def afterGroup? (opening closing : Char) (text : List Char) : Option (List Char) :=
  if text.head? = some opening then groupEnd? opening closing 0 false text else none

/-- What follows the attributes of a style call, if there are any. -/
def afterAttributes? (text : List Char) : Option (List Char) :=
  match after? ".attrs" text with
  | some rest => (afterGroup? '(' ')' (skipLayout rest)).map skipLayout
  | none => some text

/-- What follows the type arguments of a style call, if there are any. -/
def afterTypes? (text : List Char) : Option (List Char) :=
  if text.head? = some '<' then (afterGroup? '<' '>' text).map skipLayout else some text

/-- What follows the backtick that opens the template of a style call. -/
def afterBacktick? (text : List Char) : Option (List Char) := do
  let rest ← afterAttributes? (skipLayout text)
  let rest ← afterTypes? rest
  after? "\x60" rest

/-! ## Declarations -/

/-- What a binding yields, read from the text after it, and where the search goes on: behind the
template of a declaration, and behind the binding itself otherwise. -/
def declare (binding : Binding) (text : List Char) : Except Diagnostic Declaration × List Char :=
  let component := String.ofList binding.component
  match afterBacktick? text with
  | none => (.error (.skipped component .noTemplate), text)
  | some rest =>
    match Template.body? rest with
    | none => (.error (.skipped component .unterminatedTemplate), text)
    | some (body, following) =>
      match Css.checkBody body with
      | .error fault => (.error (.rejected component fault), text)
      | .ok () =>
        let declaration :=
          Declaration.ofBody component (binding.base.map String.ofList) (String.ofList body)
        let animated := declaration.animated || isDriven binding.component following
        (.ok { declaration with animated }, following)

/-- What the binding at a place yields, and where the search goes on. -/
def declareHere (before : Option Char) (text : List Char) :
    Option (Except Diagnostic Declaration × List Char) :=
  (binding? before text).map fun (binding, rest) => declare binding rest

/-- What the bindings of a source yield, in order. -/
def outcomes (source : List Char) : List (Except Diagnostic Declaration) := findAll declareHere source

def accepted? : Except Diagnostic Declaration → Option Declaration
  | .ok declaration => some declaration
  | .error _ => none

def diagnostic? : Except Diagnostic Declaration → Option Diagnostic
  | .ok _ => none
  | .error diagnostic => some diagnostic

def declarations (source : List Char) : List Declaration := (outcomes source).filterMap accepted?

def diagnostics (source : List Char) : List Diagnostic := (outcomes source).filterMap diagnostic?

end StaticStyles.Source
