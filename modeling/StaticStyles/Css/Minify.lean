import StaticStyles.Text.Search

/-!
A conservative minifier in five passes: comments go, white space shrinks to single blanks, blanks beside
punctuation and after colons go, and so does the last semicolon of a block.
-/
namespace StaticStyles.Css
open Text

/-- What follows the first `*/`. -/
def afterComment? : List Char → Option (List Char)
  | '*' :: '/' :: rest => some rest
  | _ :: rest => afterComment? rest
  | [] => none

/-- The text without its comments, after `passed` characters of one. A comment that never ends stays,
with all that follows. -/
def dropCommentsFrom : (passed : Nat) → List Char → List Char
  | _, [] => []
  | n + 1, _ :: rest => dropCommentsFrom n rest
  | 0, '/' :: '*' :: rest =>
    match afterComment? rest with
    | some after => dropCommentsFrom (rest.length + 1 - after.length) ('*' :: rest)
    | none => '/' :: '*' :: rest
  | 0, c :: rest => c :: dropCommentsFrom 0 rest

def dropComments (css : List Char) : List Char := dropCommentsFrom 0 css

/-- Every run of white space as one blank; `inRun` says that the character before was one. -/
def collapseFrom : (inRun : Bool) → List Char → List Char
  | _, [] => []
  | inRun, c :: rest =>
    if isBlank c then (if inRun then [] else [' ']) ++ collapseFrom true rest
    else c :: collapseFrom false rest

def collapse (css : List Char) : List Char := collapseFrom false css

/-- A character that needs no white space beside it. -/
def isTight (c : Char) : Bool := c = '{' || c = '}' || c = ';' || c = ',' || c = '>'

/-- The text without the white space beside tight characters; `afterTight` says that the last
character kept is one. -/
def tightenFrom : (afterTight : Bool) → List Char → List Char
  | _, [] => []
  | afterTight, c :: rest =>
    if isBlank c && (afterTight || (skipBlanks rest).head?.any isTight) then tightenFrom afterTight rest
    else c :: tightenFrom (isTight c) rest

def tighten (css : List Char) : List Char := tightenFrom false css

/-- The text without the white space after colons; `afterColon` says that the last character kept is
one. -/
def dropAfterColonFrom : (afterColon : Bool) → List Char → List Char
  | _, [] => []
  | afterColon, c :: rest =>
    if isBlank c && afterColon then dropAfterColonFrom true rest
    else c :: dropAfterColonFrom (c = ':') rest

def dropAfterColon (css : List Char) : List Char := dropAfterColonFrom false css

/-- The text without the semicolons right before a closing brace. -/
def dropLastSemicolon : List Char → List Char
  | ';' :: '}' :: rest => '}' :: dropLastSemicolon rest
  | c :: rest => c :: dropLastSemicolon rest
  | [] => []

def minify (css : List Char) : List Char :=
  trim (dropLastSemicolon (dropAfterColon (tighten (collapse (dropComments css)))))

example : minify "/* a */ .a , .b \x7b\n  color : red ;\n\x7d\n".toList =
    ".a,.b\x7bcolor :red\x7d".toList := by cbv

end StaticStyles.Css
