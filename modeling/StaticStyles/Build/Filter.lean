import StaticStyles.Build.Glob
import StaticStyles.Build.Path

/-!
Which files of a build are sources. An exclusion wins; without inclusions, every file with the
extension of a script is taken.
-/
namespace StaticStyles

/-- Patterns of the files to take and of the files to leave out. -/
structure SourceFilter where
  included : List (List Glob.Token)
  excluded : List (List Glob.Token)
deriving DecidableEq

namespace SourceFilter

def extensions : List String := ["js", "jsx", "mjs", "cjs", "ts", "tsx", "mts", "cts"]

/-- The filter of patterns; the first bad one counts, inclusions before exclusions. -/
def ofPatterns (included excluded : List String) : Except Glob.PatternError SourceFilter := do
  let included ← included.mapM Glob.tokens
  let excluded ← excluded.mapM Glob.tokens
  return ⟨included, excluded⟩

/-- A path with forward slashes only. -/
def normalize (path : String) : List Char := path.toList.map fun c => if c = '\\' then '/' else c

def isScript (path : List Char) : Bool :=
  (Path.extension? path).any fun extension => extensions.contains (String.ofList extension)

/-- Whether a file is a source. -/
def accepts (filter : SourceFilter) (path : String) : Bool :=
  let path := normalize path
  if filter.excluded.any (Glob.tokensMatch · path) then false
  else if filter.included.isEmpty then isScript path
  else filter.included.any (Glob.tokensMatch · path)

end SourceFilter
end StaticStyles
