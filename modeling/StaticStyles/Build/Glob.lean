/-!
Glob patterns over paths. `*` and `?` also match separators and leading dots; `**` stands for folders
and is a whole part of its pattern.
-/
namespace StaticStyles.Glob

/-- What a class of characters in brackets lists. -/
inductive Item where
  | single (c : Char)
  | range (low high : Char)
deriving DecidableEq, Repr

def Item.matches (c : Char) : Item → Bool
  | .single d => c = d
  | .range low high => low ≤ c && c ≤ high

/-- A part of a pattern: one character, a run of characters or of folders, or a character that a class in brackets
lists or leaves out. -/
inductive Token where
  | char (c : Char)
  | any
  | anyRun
  | anyFolders
  | within (items : List Item)
  | except (items : List Item)
deriving DecidableEq, Repr

/-! ## Malformed patterns -/

/-- What is wrong with a pattern: three stars or more, two stars that are no whole part, or a bracket that opens no
class. -/
inductive Flaw where
  | wildcards
  | recursive
  | range
deriving DecidableEq, Repr

/-- A flaw, and the number of characters before it. -/
structure PatternError where
  position : Nat
  flaw : Flaw
deriving DecidableEq, Repr

def Flaw.message : Flaw → String
  | .wildcards => "wildcards are either regular `*` or recursive `**`"
  | .recursive => "recursive wildcards must form a single path component"
  | .range => "invalid range pattern"

def PatternError.message (error : PatternError) : String :=
  "Pattern syntax error near position " ++ toString error.position ++ ": " ++ error.flaw.message

/-! ## Reading patterns -/

/-- The items of a class: `a-z` is a range, any other character itself. -/
def items : List Char → List Item
  | low :: '-' :: high :: rest => .range low high :: items rest
  | c :: rest => .single c :: items rest
  | [] => []

/-- The characters of a class after its first one, up to the closing bracket. -/
def classRest? (text : List Char) : Option (List Char) :=
  if text.contains ']' then some (text.takeWhile (· != ']')) else none

/-- The class after an opening bracket, and the number of characters it takes. A bracket that closes
nothing yet is an item. -/
def class? : List Char → Option (Token × Nat)
  | '!' :: c :: rest => (classRest? rest).map fun more => (.except (items (c :: more)), more.length + 3)
  | ['!'] => none
  | c :: rest => (classRest? rest).map fun more => (.within (items (c :: more)), more.length + 2)
  | [] => none

/-- What two stars mean after the character before them, and the number of characters that go with
them: they stand between separators or at an end of the pattern. -/
def folders? (position : Nat) (before : Option Char) (rest : List Char) : Except PatternError Nat :=
  if before.all (· = '/') then
    match rest with
    | [] => .ok 0
    | '/' :: _ => .ok 1
    | _ => .error ⟨position + 2, .recursive⟩
  else .error ⟨position - 1, .recursive⟩

/-- The tokens of a pattern from a position on, after `passed` characters that a token has taken. -/
def tokensFrom : (passed position : Nat) → (before : Option Char) → List Char →
    Except PatternError (List Token)
  | _, _, _, [] => .ok []
  | n + 1, position, _, c :: rest => tokensFrom n (position + 1) (some c) rest
  | 0, position, before, c :: rest =>
    if c = '?' then do return .any :: (← tokensFrom 0 (position + 1) (some c) rest)
    else if c = '*' then
      match (rest.takeWhile (· = '*')).length with
      | 0 => do return .anyRun :: (← tokensFrom 0 (position + 1) (some c) rest)
      | 1 => do
        let separators ← folders? position before (rest.drop 1)
        return .anyFolders :: (← tokensFrom (1 + separators) (position + 1) (some c) rest)
      | _ => .error ⟨position + 2, .wildcards⟩
    else if c = '[' then
      match class? rest with
      | some (token, taken) => do return token :: (← tokensFrom taken (position + 1) (some c) rest)
      | none => .error ⟨position, .range⟩
    else do return .char c :: (← tokensFrom 0 (position + 1) (some c) rest)

def tokens (pattern : String) : Except PatternError (List Token) := tokensFrom 0 0 none pattern.toList

/-! ## Matching paths -/

/-- A text and what is left of it after each of its characters. -/
def suffixes : List Char → List (List Char)
  | [] => [[]]
  | c :: rest => (c :: rest) :: suffixes rest

/-- A text, what is left of it after each of its separators, and the end. -/
def folderSuffixes (text : List Char) : List (List Char) := text :: afterSeparators text
where
  afterSeparators : List Char → List (List Char)
    | [] => [[]]
    | c :: rest => if c = '/' then rest :: afterSeparators rest else afterSeparators rest

/-- Whether a token that stands for one character stands for this one. -/
def Token.takes (c : Char) : Token → Bool
  | .char d => c = d
  | .any => true
  | .within items => items.any (Item.matches c)
  | .except items => !items.any (Item.matches c)
  | .anyRun => false
  | .anyFolders => false

/-- Whether tokens match a whole path. -/
def tokensMatch : List Token → List Char → Bool
  | [], path => path.isEmpty
  | .anyRun :: rest, path => (suffixes path).any (tokensMatch rest)
  | .anyFolders :: rest, path => (folderSuffixes path).any (tokensMatch rest)
  | token :: rest, path =>
    match path with
    | [] => false
    | c :: path => token.takes c && tokensMatch rest path

example : (tokens "a/**/[!b-d]?").map (tokensMatch · "a/x/ez".toList) = .ok true := by cbv
example : tokens "a**" = .error ⟨0, .recursive⟩ := by cbv

end StaticStyles.Glob
