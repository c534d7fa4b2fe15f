import StaticStyles.Text.Search

/-!
Paths as texts. Empty parts, and single dots other than the first part, say nothing.
-/
namespace StaticStyles.Path
open Text

/-- The text between separators, empty parts included. -/
def rawParts (path : List Char) : List (List Char) := split '/' path

/-- The parts that say something; a single dot does so at the beginning only. -/
def parts (path : List Char) : List (List Char) :=
  match rawParts path with
  | [] => []
  | first :: rest =>
    let kept := rest.filter fun part => part ≠ [] && part ≠ ['.']
    if first = [] then kept else first :: kept

/-- The last part, if it names a file or folder. -/
def fileName? (path : List Char) : Option (List Char) :=
  ((parts path).getLast?).filter fun part => part ≠ ['.'] && part ≠ ['.', '.']

/-- What follows the last dot of a file's name, unless the dot begins it. -/
def extension? (path : List Char) : Option (List Char) :=
  (fileName? path).bind fun name =>
    let after := name.reverse.takeWhile (· != '.')
    let before := name.reverse.drop after.length
    match before with
    | [] => none
    | [_] => none
    | _ => some after.reverse

/-- The parts of a path from its end, without those at the end that say nothing. -/
def trimParts : List (List Char) → List (List Char)
  | [] => []
  | part :: outer =>
    if part = [] || (part = ['.'] && outer ≠ []) then trimParts outer else part :: outer

/-- The path without its last part, as written; a path without parts has none. -/
def parent? (path : List Char) : Option (List Char) :=
  match trimParts (rawParts path).reverse with
  | [] => none
  | _ :: outer => some (['/'].intercalate (trimParts outer).reverse)

/-- A name below a path. -/
def join (path name : String) : String :=
  if path = "" || path.toList.getLast? = some '/' then path ++ name else path ++ "/" ++ name

example : parent? "a/./b/".toList = some "a".toList := by cbv
example : extension? "x/.d.ts/".toList = some "ts".toList := by cbv
example : extension? ".ts".toList = none := by cbv

end StaticStyles.Path
