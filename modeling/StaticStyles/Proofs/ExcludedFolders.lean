import StaticStyles.Build.Filter
import StaticStyles.Proofs.TextSearch

/-!
Folders that are left out. A pattern of a folder's name between `**/` and `/**` matches a path exactly if a part of the
path that a separator follows is that name (`tokensMatch_folderTokens`), so what the folder holds is no source at any
depth, whatever is included (`folder_left_out`).
-/
namespace StaticStyles

namespace Glob
open Text

/-! ## Patterns of folders -/

/-- The pattern of what folders of a name hold, at any depth. -/
def folderPattern (name : String) : String := "**/" ++ name ++ "/**"

def folderTokens (name : List Char) : List Token := .anyFolders :: ((name ++ ['/']).map .char ++ [.anyFolders])

/-- Characters that begin no wildcard stand for themselves. -/
theorem tokensFrom_append {text : List Char} (plain : ∀ c ∈ text, c ≠ '?' ∧ c ≠ '*' ∧ c ≠ '[') (position : Nat)
    (before : Option Char) (rest : List Char) :
    tokensFrom 0 position before (text ++ rest) =
      (tokensFrom 0 (position + text.length) (text.getLast?.or before) rest).map (text.map .char ++ ·) := by
  induction text generalizing position before with
  | nil => cases h : tokensFrom 0 position before rest <;> simp [h, Except.map]
  | cons c text ih =>
    obtain ⟨⟨noAny, noRun, noClass⟩, plain⟩ := List.forall_mem_cons.mp plain
    have ends : position + (c :: text).length = position + 1 + text.length := by
      rw [List.length_cons]
      omega
    rw [List.cons_append, tokensFrom, if_neg noAny, if_neg noRun, if_neg noClass, ih plain, getLast?_cons_or, ends]
    cases tokensFrom 0 (position + 1 + text.length) (text.getLast?.or (some c)) rest <;> rfl

theorem tokens_folderPattern {name : String} (plain : ∀ c ∈ name.toList, c ≠ '?' ∧ c ≠ '*' ∧ c ≠ '[') :
    tokens (folderPattern name) = .ok (folderTokens name.toList) := by
  have text : (folderPattern name).toList = '*' :: '*' :: '/' :: ((name.toList ++ ['/']) ++ ['*', '*']) := by
    simp [folderPattern]
  have whole : ∀ c ∈ name.toList ++ ['/'], c ≠ '?' ∧ c ≠ '*' ∧ c ≠ '[' := by
    intro c member
    rcases List.mem_append.mp member with h | h
    · exact plain c h
    · rw [List.mem_singleton.mp h]
      decide
  have opening (rest : List Char) : tokensFrom 0 0 none ('*' :: '*' :: '/' :: rest) =
      (tokensFrom 0 3 (some '/') rest).map (.anyFolders :: ·) := by
    have taken : tokensFrom 0 0 none ('*' :: '*' :: '/' :: rest) =
        (do return .anyFolders :: (← tokensFrom 0 3 (some '/') rest)) := rfl
    rw [taken]
    cases tokensFrom 0 3 (some '/') rest <;> rfl
  have closing (position : Nat) : tokensFrom 0 position (some '/') ['*', '*'] = .ok [.anyFolders] := rfl
  rw [tokens, text, opening, tokensFrom_append whole, List.getLast?_concat, Option.some_or, closing]
  rfl

/-! ## Paths that match -/

theorem tokensMatch_chars {text : List Char} {rest : List Token} {path : List Char} :
    tokensMatch (text.map .char ++ rest) path = true ↔
      ∃ after, path = text ++ after ∧ tokensMatch rest after = true := by
  induction text generalizing path with
  | nil => simp
  | cons c text ih =>
    cases path with
    | nil => simp [tokensMatch]
    | cons d path =>
      simp only [List.map_cons, List.cons_append, tokensMatch, Token.takes, Bool.and_eq_true, decide_eq_true_eq, ih,
        List.cons.injEq]
      constructor
      · rintro ⟨rfl, after, same, matched⟩
        exact ⟨after, ⟨rfl, same⟩, matched⟩
      · rintro ⟨after, ⟨rfl, same⟩, matched⟩
        exact ⟨rfl, after, same, matched⟩

theorem nil_mem_folderSuffixes (path : List Char) : [] ∈ folderSuffixes path := by
  have behind : [] ∈ folderSuffixes.afterSeparators path := by
    induction path with
    | nil => exact List.mem_cons_self
    | cons c path ih =>
      rw [folderSuffixes.afterSeparators]
      split
      · exact List.mem_cons_of_mem _ ih
      · exact ih
  exact List.mem_cons_of_mem _ behind

/-- Any path is a run of folders. -/
theorem tokensMatch_anyFolders (path : List Char) : tokensMatch [.anyFolders] path = true := by
  rw [tokensMatch, List.any_eq_true]
  exact ⟨[], nil_mem_folderSuffixes path, rfl⟩

theorem folderSuffixes_whole {path : List Char} (whole : '/' ∉ path) : folderSuffixes path = [path, []] := by
  have none : folderSuffixes.afterSeparators path = [[]] := by
    induction path with
    | nil => rfl
    | cons c path ih =>
      rw [List.mem_cons, not_or] at whole
      obtain ⟨other, whole⟩ := whole
      rw [folderSuffixes.afterSeparators, if_neg (Ne.symm other), ih whole]
  rw [folderSuffixes, none]

theorem folderSuffixes_append {part : List Char} (whole : '/' ∉ part) (rest : List Char) :
    folderSuffixes (part ++ '/' :: rest) = (part ++ '/' :: rest) :: folderSuffixes rest := by
  have next : folderSuffixes.afterSeparators (part ++ '/' :: rest) = folderSuffixes rest := by
    induction part with
    | nil => rfl
    | cons c part ih =>
      rw [List.mem_cons, not_or] at whole
      obtain ⟨other, whole⟩ := whole
      rw [List.cons_append, folderSuffixes.afterSeparators, if_neg (Ne.symm other), ih whole]
  rw [folderSuffixes, next]

/-- A text that begins with a name and a separator: the name is its first part, and not the last one. -/
theorem tokensMatch_folder {name path : List Char} :
    tokensMatch ((name ++ ['/']).map .char ++ [.anyFolders]) path = true ↔ ∃ after, path = name ++ '/' :: after := by
  rw [tokensMatch_chars]
  simp [tokensMatch_anyFolders]

/-- The name is a part before a separator exactly if it stands, with the separator, where a folder begins. -/
theorem exists_folderSuffix_iff {name : List Char} (single : '/' ∉ name) (path : List Char) :
    (∃ suffix ∈ folderSuffixes path, ∃ after, suffix = name ++ '/' :: after) ↔ name ∈ (split '/' path).dropLast := by
  by_cases separated : '/' ∈ path
  · obtain ⟨part, rest, rfl, whole⟩ := List.eq_append_cons_of_mem separated
    have ih := exists_folderSuffix_iff single rest
    have first : (∃ after, part ++ '/' :: rest = name ++ '/' :: after) ↔ name = part := by
      constructor
      · rintro ⟨after, same⟩
        exact (eq_of_append_cons_eq whole single same).1.symm
      · rintro rfl
        exact ⟨rest, rfl⟩
    rw [folderSuffixes_append whole, split_append whole, List.dropLast_cons_of_ne_nil (split_ne_nil _ _)]
    simp only [List.mem_cons, exists_eq_or_imp, first, ih]
  · rw [folderSuffixes_whole separated, split_of_not_mem separated]
    constructor
    · rintro ⟨suffix, member, after, rfl⟩
      simp only [List.mem_cons, List.not_mem_nil, or_false] at member
      rcases member with rfl | none
      · exact absurd (by simp) separated
      · exact absurd none (by simp)
    · intro member
      contradiction
termination_by path.length

/-- The pattern of a folder's name matches the paths that have the name as a part before a separator. -/
theorem tokensMatch_folderTokens {name : List Char} (single : '/' ∉ name) (path : List Char) :
    tokensMatch (folderTokens name) path = true ↔ name ∈ (split '/' path).dropLast := by
  rw [folderTokens, tokensMatch, List.any_eq_true, ← exists_folderSuffix_iff single]
  simp only [tokensMatch_folder]

end Glob

namespace SourceFilter
open Glob

/-! ## Filters that leave folders out -/

/-- The parts of a path, written with forward slashes, that a separator follows. -/
def folders (path : String) : List (List Char) := (Text.split '/' (normalize path)).dropLast

theorem isScript_iff {path : List Char} :
    isScript path = true ↔ ∃ extension ∈ extensions, Path.extension? path = some extension.toList := by
  rw [isScript, Option.any_eq_true]
  constructor
  · rintro ⟨extension, found, listed⟩
    exact ⟨String.ofList extension, List.contains_iff_mem.mp listed, by rw [found, String.toList_ofList]⟩
  · rintro ⟨extension, listed, found⟩
    exact ⟨extension.toList, found, by simpa using listed⟩

/-- Patterns are read one by one. -/
private theorem exists_of_mapM_tokens {patterns : List String} {read : List (List Token)} {pattern : String}
    (all : patterns.mapM Glob.tokens = .ok read) (member : pattern ∈ patterns) :
    ∃ tokens ∈ read, Glob.tokens pattern = .ok tokens := by
  induction patterns generalizing read with
  | nil => contradiction
  | cons first patterns ih =>
    rw [List.mapM_cons] at all
    cases here : Glob.tokens first with
    | error => rw [here] at all; contradiction
    | ok tokens =>
      cases later : patterns.mapM Glob.tokens with
      | error => rw [here, later] at all; contradiction
      | ok others =>
        rw [here, later] at all
        obtain rfl := Except.ok.inj all
        rcases List.mem_cons.mp member with rfl | member
        · exact ⟨tokens, List.mem_cons_self, here⟩
        · obtain ⟨found, listed, read⟩ := ih later member
          exact ⟨found, List.mem_cons_of_mem _ listed, read⟩

/-- An exclusion that matches wins over everything else in a filter. -/
theorem accepts_eq_false {included excluded : List String} {filter : SourceFilter} {pattern path : String}
    {tokens : List Token} (made : ofPatterns included excluded = .ok filter) (member : pattern ∈ excluded)
    (read : Glob.tokens pattern = .ok tokens) (matched : tokensMatch tokens (normalize path) = true) :
    filter.accepts path = false := by
  rw [ofPatterns] at made
  cases left : included.mapM Glob.tokens with
  | error => rw [left] at made; contradiction
  | ok inclusions =>
    cases right : excluded.mapM Glob.tokens with
    | error => rw [left, right] at made; contradiction
    | ok exclusions =>
      rw [left, right] at made
      obtain rfl := Except.ok.inj made
      obtain ⟨_, listed, same⟩ := exists_of_mapM_tokens right member
      obtain rfl := Except.ok.inj (read.symm.trans same)
      have out : exclusions.any (tokensMatch · (normalize path)) = true := List.any_eq_true.mpr ⟨tokens, listed, matched⟩
      simp [accepts, out]

/-- A filter with one exclusion and without inclusions takes the scripts that the exclusion does not match. -/
theorem accepts_excluding {tokens : List Token} {path : String} :
    accepts ⟨[], [tokens]⟩ path = true ↔
      tokensMatch tokens (normalize path) = false ∧ isScript (normalize path) = true := by
  cases matched : tokensMatch tokens (normalize path) <;> simp [accepts, matched]

theorem ofPatterns_folder {name : String} (plain : ∀ c ∈ name.toList, c ≠ '?' ∧ c ≠ '*' ∧ c ≠ '[')
    (included : List String) :
    ofPatterns included [folderPattern name] =
      (included.mapM Glob.tokens).map fun patterns => ⟨patterns, [folderTokens name.toList]⟩ := by
  have excluded : [folderPattern name].mapM Glob.tokens = .ok [folderTokens name.toList] := by
    rw [List.mapM_cons, tokens_folderPattern plain]
    rfl
  rw [ofPatterns, excluded]
  cases included.mapM Glob.tokens <;> rfl

end SourceFilter

open SourceFilter

/-- For a name without separators and wildcards: a filter that excludes the name's folders accepts no path in which the
name is a part before a separator, whatever else it includes and excludes; the pattern of the name's folders is never
the reason that a filter cannot be made; and without inclusions the filter accepts all other paths that have the
extension of a script, and nothing else. Backslashes in a path count as separators. -/
theorem folder_left_out {name : String} (plain : ∀ c ∈ name.toList, c ≠ '/' ∧ c ≠ '?' ∧ c ≠ '*' ∧ c ≠ '[') :
    (∀ included excluded filter, ofPatterns included excluded = .ok filter → Glob.folderPattern name ∈ excluded →
        ∀ path, name.toList ∈ folders path → filter.accepts path = false) ∧
      (∀ included patterns, included.mapM Glob.tokens = .ok patterns →
        ∃ filter, ofPatterns included [Glob.folderPattern name] = .ok filter) ∧
      ∃ filter, ofPatterns [] [Glob.folderPattern name] = .ok filter ∧
        ∀ path, filter.accepts path = true ↔ name.toList ∉ folders path ∧
          ∃ extension ∈ extensions, Path.extension? (normalize path) = some extension.toList := by
  have tame : ∀ c ∈ name.toList, c ≠ '?' ∧ c ≠ '*' ∧ c ≠ '[' := fun c member => (plain c member).2
  have single : '/' ∉ name.toList := fun member => (plain '/' member).1 rfl
  refine ⟨?_, ?_, ⟨[], [Glob.folderTokens name.toList]⟩, ofPatterns_folder tame [], ?_⟩
  · intro included excluded filter made member path inside
    exact accepts_eq_false made member (Glob.tokens_folderPattern tame)
      ((Glob.tokensMatch_folderTokens single _).mpr inside)
  · intro included patterns read
    rw [ofPatterns_folder tame, read]
    exact ⟨_, rfl⟩
  · intro path
    rw [accepts_excluding, isScript_iff, ← Bool.not_eq_true, Glob.tokensMatch_folderTokens single]
    rfl

/-- Names that only begin or end with the excluded one stay in, and an inclusion does not bring the others back. -/
theorem folder_left_out_dist :
    (∀ c ∈ "dist".toList, c ≠ '/' ∧ c ≠ '?' ∧ c ≠ '*' ∧ c ≠ '[') ∧
      (∃ filter, ofPatterns [] ["**/dist/**"] = .ok filter ∧ filter.accepts "my_dist/dist2\\dist.ts" = true ∧
        filter.accepts "a\\dist\\.b\\c.ts" = false) ∧
      ∃ filter, ofPatterns ["**/*.ts"] ["**/dist/**"] = .ok filter ∧ filter.accepts "dist/a.ts" = false := by
  have plain : ∀ c ∈ "dist".toList, c ≠ '/' ∧ c ≠ '?' ∧ c ≠ '*' ∧ c ≠ '[' := by simp
  have pattern : Glob.folderPattern "dist" = "**/dist/**" := by decide
  obtain ⟨wins, makes, filter, made, exactly⟩ := folder_left_out plain
  have scripts : ["**/*.ts"].mapM Glob.tokens = .ok [[.anyFolders, .anyRun, .char '.', .char 't', .char 's']] := by cbv
  obtain ⟨including, made'⟩ := makes _ _ scripts
  rw [pattern] at wins made made'
  refine ⟨plain, ⟨filter, made, (exactly _).mpr ?_, ?_⟩, ⟨including, made', ?_⟩⟩
  · decide
  · exact wins _ _ _ made List.mem_cons_self _ (by decide)
  · exact wins _ _ _ made' List.mem_cons_self _ (by decide)

end StaticStyles
