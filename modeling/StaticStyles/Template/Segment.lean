import StaticStyles.Template.Scan
import StaticStyles.Text.Offset

/-!
Template bodies as text with holes. The segments of a body, written out again, are the body; its
interpolations are the holes with their byte positions, and replacing fills some of them.
-/
namespace StaticStyles.Template

/-- A piece of a template body: text that is kept as it is, or an interpolation. -/
inductive Segment where
  | raw (text : List Char)
  | hole (expression : List Char)
deriving DecidableEq, Repr

/-- How a segment is written in a body. -/
def Segment.text : Segment → List Char
  | .raw text => text
  | .hole expression => '$' :: '{' :: expression ++ ['}']

/-- The segments of a body after `passed` characters that a hole has taken already. An interpolation
that never ends, and all after it, is raw. -/
def segmentsFrom : (passed : Nat) → List Char → List Segment
  | _, [] => []
  | n + 1, _ :: rest => segmentsFrom n rest
  | 0, '\\' :: c :: rest => .raw ['\\', c] :: segmentsFrom 0 rest
  | 0, '$' :: '{' :: rest =>
    match script? rest with
    | some (expression, _) => .hole expression :: segmentsFrom (expression.length + 1) rest
    | none => [.raw ('$' :: '{' :: rest)]
  | 0, c :: rest => .raw [c] :: segmentsFrom 0 rest

def segments (body : List Char) : List Segment := segmentsFrom 0 body

/-- An interpolation of a body: its expression, untrimmed, and the bytes of the body it takes, braces
included. -/
structure Interpolation where
  start : Nat
  stop : Nat
  expression : List Char
deriving DecidableEq, Repr

/-- The holes among segments that begin at a byte position. -/
def holesFrom : (start : Nat) → List Segment → List Interpolation
  | _, [] => []
  | start, .raw text :: rest => holesFrom (start + Text.byteSize text) rest
  | start, .hole expression :: rest =>
    let stop := start + Text.byteSize (Segment.hole expression).text
    ⟨start, stop, expression⟩ :: holesFrom stop rest

/-- The interpolations of a body at its top level, in order. -/
def interpolations (body : List Char) : List Interpolation := holesFrom 0 (segments body)

def expressions (body : List Char) : List (List Char) := (interpolations body).map (·.expression)

/-- The text of a segment, or what a hole is filled with. -/
def Segment.fill (value? : List Char → Option (List Char)) : Segment → List Char
  | .raw text => text
  | .hole expression => (value? expression).getD (Segment.hole expression).text

/-- A body with every hole filled for which there is a value; the others stay as they are written. -/
def replace (value? : List Char → Option (List Char)) (body : List Char) : List Char :=
  (segments body).flatMap (Segment.fill value?)

/-- The byte position of the backtick that closes a template whose body begins at `start`. -/
def endOffset? (text : List Char) (start : Nat) : Option Nat :=
  (close [.text] (Text.dropBytes start text)).map fun rest => Text.byteSize text - Text.byteSize rest - 1

example : interpolations ['a', '$', '{', '{', '}', '}', '\\', '$', '{', 'b'] =
    [⟨1, 6, ['{', '}']⟩] := by decide

end StaticStyles.Template
