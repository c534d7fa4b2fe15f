import StaticStyles.Expression.Literal

/-!
The three parts of `condition ? a : b`. Only marks at top level split, that is outside quotes and
brackets, and a nested question takes the next colon for itself.
-/
namespace StaticStyles.Expression

/-- What a piece of an expression means for splitting it: a lone `?` or a `:` at top level, or nothing. -/
inductive Mark where
  | question
  | colon
  | other
deriving DecidableEq, Repr

/-- A piece of an expression that is taken as one. -/
structure Piece where
  text : List Char
  mark : Mark
deriving DecidableEq, Repr

def depthChange (c : Char) : Int :=
  if c = '(' || c = '[' || c = '{' then 1 else if c = ')' || c = ']' || c = '}' then -1 else 0

/-- The pieces of an expression, from inside a quote, if there is one, and at a bracket depth. An
escape inside quotes, and `?.` and `??` at top level, are one piece. -/
def piecesFrom : (quote : Option Char) → (depth : Int) → List Char → List Piece
  | _, _, [] => []
  | some mark, depth, '\\' :: c :: rest => ⟨['\\', c], .other⟩ :: piecesFrom (some mark) depth rest
  | some mark, depth, c :: rest =>
    ⟨[c], .other⟩ :: piecesFrom (if c = mark then none else some mark) depth rest
  | none, depth, '?' :: c :: rest =>
    if depth = 0 && (c = '.' || c = '?') then ⟨['?', c], .other⟩ :: piecesFrom none depth rest
    else ⟨['?'], if depth = 0 then .question else .other⟩ :: piecesFrom none depth (c :: rest)
  | none, depth, c :: rest =>
    if isQuote c then ⟨[c], .other⟩ :: piecesFrom (some c) depth rest
    else
      let mark := if depth = 0 && c = '?' then .question else if depth = 0 && c = ':' then .colon else .other
      ⟨[c], mark⟩ :: piecesFrom none (depth + depthChange c) rest

def pieces (text : List Char) : List Piece := piecesFrom none 0 text

def piecesText (pieces : List Piece) : List Char := pieces.flatMap Piece.text

/-- The pieces before the colon that closes a question, and the pieces after it; so many other
questions are open. -/
def branch? : (pending : Nat) → List Piece → Option (List Piece × List Piece)
  | _, [] => none
  | pending, ⟨text, .question⟩ :: rest =>
    (branch? (pending + 1) rest).map fun (a, b) => (⟨text, .question⟩ :: a, b)
  | 0, ⟨_, .colon⟩ :: rest => some ([], rest)
  | pending + 1, ⟨text, .colon⟩ :: rest =>
    (branch? pending rest).map fun (a, b) => (⟨text, .colon⟩ :: a, b)
  | pending, ⟨text, .other⟩ :: rest =>
    (branch? pending rest).map fun (a, b) => (⟨text, .other⟩ :: a, b)

/-- The condition and the two branches of an expression. -/
def ternary? (text : List Char) : Option (List Char × List Char × List Char) :=
  let all := pieces text
  match all.dropWhile (·.mark != .question) with
  | [] => none
  | _ :: rest =>
    (branch? 0 rest).map fun (a, b) =>
      (piecesText (all.takeWhile (·.mark != .question)), piecesText a, piecesText b)

theorem piecesText_piecesFrom (quote : Option Char) (depth : Int) (text : List Char) :
    piecesText (piecesFrom quote depth text) = text := by
  fun_induction piecesFrom quote depth text <;> simp_all [piecesText]

example : ternary? ['a', '?', '.', 'b', '?', 'c', '?', '1', ':', '2', ':', '3'] =
    some (['a', '?', '.', 'b'], ['c', '?', '1', ':', '2'], ['3']) := by decide

end StaticStyles.Expression
