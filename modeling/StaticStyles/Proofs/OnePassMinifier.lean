import StaticStyles.Css.Minify
import StaticStyles.Proofs.TrimmedText

/-!
The minifier in one pass. Each comment goes, each run of white space goes or shrinks to one blank by what stands on its
two sides, and each semicolon before a closing brace goes; the five passes come to the same (`minify_eq_onePass`).
-/
namespace StaticStyles.Css
open Text

/-! ## The one pass -/

/-- What stands before the first place of a mark, and what follows the mark. -/
def cut? (mark : List Char) : List Char → Option (List Char × List Char)
  | [] => none
  | c :: rest =>
    match afterChars? mark (c :: rest) with
    | some after => some ([], after)
    | none => (cut? mark rest).map fun (before, after) => (c :: before, after)

theorem eq_of_cut? {mark text before after : List Char} (cut : cut? mark text = some (before, after)) :
    text = before ++ (mark ++ after) := by
  induction text generalizing before with
  | nil => contradiction
  | cons c rest ih =>
    rw [cut?] at cut
    split at cut
    · next here =>
      obtain ⟨rfl, rfl⟩ := Prod.mk.inj (Option.some.inj cut)
      rw [afterChars?_eq_some_iff.mp here, List.nil_append]
    · obtain ⟨⟨start, rest'⟩, later, same⟩ := Option.map_eq_some_iff.mp cut
      obtain ⟨rfl, rfl⟩ := Prod.mk.inj same
      rw [ih later, List.cons_append]

/-- What stands before the first comment and what follows it: the first `/*` opens it, and the first `*/` behind that
ends it. -/
def aroundComment? (css : List Char) : Option (List Char × List Char) := do
  let (before, rest) ← cut? ['/', '*'] css
  let (_, after) ← cut? ['*', '/'] rest
  return (before, after)

theorem exists_of_aroundComment? {css before after : List Char} (found : aroundComment? css = some (before, after)) :
    ∃ rest inside, cut? ['/', '*'] css = some (before, rest) ∧ cut? ['*', '/'] rest = some (inside, after) := by
  simp only [aroundComment?, Option.bind_eq_bind, Option.bind_eq_some_iff] at found
  obtain ⟨⟨start, rest⟩, opening, ⟨inside, behind⟩, ending, same⟩ := found
  obtain ⟨rfl, rfl⟩ := Prod.mk.inj (Option.some.inj same)
  exact ⟨rest, inside, opening, ending⟩

/-- The text without its comments. One without an end stays. -/
def withoutComments (css : List Char) : List Char :=
  match _found : aroundComment? css with
  | none => css
  | some (before, after) => before ++ withoutComments after
termination_by css.length
decreasing_by
  obtain ⟨rest, inside, opening, ending⟩ := exists_of_aroundComment? _found
  rw [eq_of_cut? opening, eq_of_cut? ending]
  simp only [List.length_append, List.length_cons]
  omega

/-- Whether white space between two characters goes. At an end of the text there is no character. -/
def isDropped (before after : Option Char) : Bool :=
  before.all (fun c => isTight c || c = ':') || after.all isTight

/-- The text with each run of white space dropped or as one blank, by the characters on its two sides. -/
def spaced (before after : Option Char) : List Char → List Char
  | [] => []
  | c :: rest =>
    if isBlank c then
      (if isDropped before ((skipBlanks rest).head?.or after) then [] else [' ']) ++
        spaced (some c) after (skipBlanks rest)
    else c :: spaced (some c) after rest
termination_by text => text.length
decreasing_by
  · have := skipBlanks_length_le rest
    simp only [List.length_cons]
    omega
  · simp

/-- The text without the semicolons that a closing brace follows. -/
def dropBeforeBrace : List Char → List Char
  | [] => []
  | c :: rest =>
    if c = ';' && rest.head? = some '}' then dropBeforeBrace rest else c :: dropBeforeBrace rest

/-- The minified text in one pass. -/
def onePass (css : List Char) : List Char := dropBeforeBrace (spaced none none (withoutComments css))

/-! ## Comments -/

variable {before after : Option Char} {css text rest : List Char} {c : Char}

theorem dropCommentsFrom_eq_drop (passed : Nat) (text : List Char) :
    dropCommentsFrom passed text = dropComments (text.drop passed) := by
  induction text generalizing passed with
  | nil => cases passed <;> rfl
  | cons c rest ih =>
    cases passed with
    | zero => rfl
    | succ passed =>
      rw [dropCommentsFrom, List.drop_succ_cons]
      exact ih passed

theorem afterComment?_eq (text : List Char) : afterComment? text = (cut? ['*', '/'] text).map (·.2) := by
  fun_induction afterComment? text with
  | case1 rest => rfl
  | case2 c rest other ih =>
    have here : afterChars? ['*', '/'] (c :: rest) = none := by
      rw [Option.eq_none_iff_forall_ne_some]
      intro after found
      obtain ⟨rfl, rfl⟩ := List.cons.inj (afterChars?_eq_some_iff.mp found)
      exact other _ rfl rfl
    rw [cut?, here, ih, Option.map_map]
    rfl
  | case3 => rfl

theorem dropComments_cons (plain : afterChars? ['/', '*'] (c :: rest) = none) :
    dropComments (c :: rest) = c :: dropComments rest := by
  rw [dropComments, dropCommentsFrom.eq_4]
  · rfl
  · rintro later rfl rfl
    contradiction

/-- A comment goes if it has an end. -/
theorem dropComments_opening (rest : List Char) :
    dropComments ('/' :: '*' :: rest) =
      match cut? ['*', '/'] rest with
      | some (_, after) => dropComments after
      | none => '/' :: '*' :: rest := by
  rw [dropComments, dropCommentsFrom, afterComment?_eq]
  cases ending : cut? ['*', '/'] rest with
  | none => rfl
  | some parts =>
    obtain ⟨inside, after⟩ := parts
    have split := eq_of_cut? ending
    have passed : rest.length + 1 - after.length = ('*' :: (inside ++ ['*', '/'])).length := by
      rw [split]
      simp only [List.length_append, List.length_cons, List.length_nil]
      omega
    have whole : '*' :: rest = ('*' :: (inside ++ ['*', '/'])) ++ after := by
      rw [split]
      simp
    simp only [Option.map_some, passed, whole, dropCommentsFrom_eq_drop, List.drop_left']

theorem dropComments_of_cut? {start : List Char} (opening : cut? ['/', '*'] css = some (start, rest)) :
    dropComments css = start ++ dropComments ('/' :: '*' :: rest) := by
  induction css generalizing start with
  | nil => contradiction
  | cons c css ih =>
    rw [cut?] at opening
    split at opening
    · next here =>
      obtain ⟨rfl, rfl⟩ := Prod.mk.inj (Option.some.inj opening)
      rw [afterChars?_eq_some_iff.mp here]
      rfl
    · next plain =>
      obtain ⟨⟨later, rest'⟩, found, same⟩ := Option.map_eq_some_iff.mp opening
      obtain ⟨rfl, rfl⟩ := Prod.mk.inj same
      rw [dropComments_cons plain, ih found]
      rfl

theorem dropComments_of_cut?_eq_none (unopened : cut? ['/', '*'] css = none) : dropComments css = css := by
  induction css with
  | nil => rfl
  | cons c css ih =>
    rw [cut?] at unopened
    split at unopened
    · contradiction
    · next plain => rw [dropComments_cons plain, ih (Option.map_eq_none_iff.mp unopened)]

theorem dropComments_eq (css : List Char) : dropComments css = withoutComments css := by
  fun_induction withoutComments css with
  | case1 css absent =>
    cases opening : cut? ['/', '*'] css with
    | none => exact dropComments_of_cut?_eq_none opening
    | some parts =>
      obtain ⟨start, rest⟩ := parts
      have endless : cut? ['*', '/'] rest = none := by
        rw [Option.eq_none_iff_forall_ne_some]
        intro parts ending
        simp [aroundComment?, opening, ending] at absent
      rw [dropComments_of_cut? opening, dropComments_opening, endless, eq_of_cut? opening]
      rfl
  | case2 css start after found ih =>
    obtain ⟨rest, inside, opening, ending⟩ := exists_of_aroundComment? found
    rw [dropComments_of_cut? opening, dropComments_opening, ending]
    exact congrArg (start ++ ·) ih

/-! ## White space -/

theorem spaced_solid (solid : isBlank c = false) (rest : List Char) :
    spaced before after (c :: rest) = c :: spaced (some c) after rest := by
  rw [spaced, solid]
  rfl

theorem spaced_blank (blank : isBlank c = true) (rest : List Char) :
    spaced before after (c :: rest) =
      (if isDropped before ((skipBlanks rest).head?.or after) then [] else [' ']) ++
        spaced (some c) after (skipBlanks rest) := by
  rw [spaced, if_pos blank]

theorem spaced_nil : spaced before after [] = [] := by
  rw [spaced]

/-- Induction along a text as `spaced` reads it: past a run of white space at once, past any other character alone. -/
@[elab_as_elim]
theorem runs_induction {motive : Option Char → List Char → Prop} (nil : ∀ before, motive before [])
    (blank : ∀ before c rest, isBlank c = true → motive (some c) (skipBlanks rest) → motive before (c :: rest))
    (solid : ∀ before c rest, isBlank c = false → motive (some c) rest → motive before (c :: rest))
    (before : Option Char) (text : List Char) : motive before text :=
  match text with
  | [] => nil before
  | c :: rest =>
    match kind : isBlank c with
    | true => blank before c rest kind (runs_induction nil blank solid (some c) (skipBlanks rest))
    | false => solid before c rest kind (runs_induction nil blank solid (some c) rest)
termination_by text.length
decreasing_by
  · have := skipBlanks_length_le rest
    simp only [List.length_cons]
    omega
  · simp

/-- What stands on one side of a solid character is spaced alone, with that character beside it. -/
theorem spaced_append (solid : isBlank c = false) (text rest : List Char) :
    spaced before after (text ++ c :: rest) = spaced before (some c) text ++ c :: spaced (some c) after rest := by
  induction before, text using runs_induction with
  | nil before => rw [List.nil_append, spaced_nil, List.nil_append, spaced_solid solid]
  | blank before d text blank ih =>
    have next : ((skipBlanks text ++ c :: rest).head?.or after) = ((skipBlanks text).head?.or (some c)) := by
      cases skipBlanks text <;> rfl
    rw [List.cons_append, spaced_blank blank, spaced_blank blank, skipBlanks_append solid, ih, next,
      List.append_assoc]
  | solid before d text solid ih =>
    rw [List.cons_append, spaced_solid solid, spaced_solid solid, ih, List.cons_append]

/-- Only white space looks at the character before. -/
theorem spaced_head (solid : ∀ c ∈ text.head?, isBlank c = false) (before before' : Option Char) :
    spaced before after text = spaced before' after text := by
  cases text with
  | nil => rw [spaced_nil, spaced_nil]
  | cons c text => rw [spaced_solid (solid c rfl), spaced_solid (solid c rfl)]

/-! ## The passes over white space -/

theorem collapseFrom_skipBlanks (text : List Char) : collapseFrom true text = collapse (skipBlanks text) := by
  induction text with
  | nil => rfl
  | cons c text ih =>
    by_cases blank : isBlank c = true
    · rw [collapseFrom, if_pos blank, if_pos rfl, List.nil_append, ih, skipBlanks, skipBlanks,
        List.dropWhile_cons_of_pos blank]
    · rw [collapseFrom, if_neg blank, skipBlanks, List.dropWhile_cons_of_neg blank, collapse, collapseFrom,
        if_neg blank]

theorem collapse_blank (blank : isBlank c = true) (rest : List Char) :
    collapse (c :: rest) = ' ' :: collapse (skipBlanks rest) := by
  rw [collapse, collapseFrom, if_pos blank, ← collapseFrom_skipBlanks]
  rfl

theorem collapse_solid (solid : isBlank c = false) (rest : List Char) :
    collapse (c :: rest) = c :: collapse rest := by
  rw [collapse, collapseFrom, solid]
  rfl

theorem skipBlanks_collapse (solid : ∀ c ∈ text.head?, isBlank c = false) :
    skipBlanks (collapse text) = collapse text ∧ (collapse text).head? = text.head? := by
  cases text with
  | nil => exact ⟨rfl, rfl⟩
  | cons c text =>
    rw [collapse_solid (solid c rfl)]
    exact ⟨List.dropWhile_cons_of_neg (by simp [solid c rfl]), rfl⟩

/-- The passes after the first, from a place on where the last character kept is tight, or a colon. -/
def tightened (afterTight afterColon : Bool) (text : List Char) : List Char :=
  dropAfterColonFrom afterColon (tightenFrom afterTight (collapse text))

theorem tightened_solid (solid : isBlank c = false) (afterTight afterColon : Bool) (rest : List Char) :
    tightened afterTight afterColon (c :: rest) = c :: tightened (isTight c) (c = ':') rest := by
  rw [tightened, collapse_solid solid, tightenFrom, solid]
  simp [dropAfterColonFrom, solid, tightened]

/-- Only white space looks back. -/
theorem tightened_head (solid : ∀ c ∈ text.head?, isBlank c = false) (afterTight afterColon : Bool) :
    tightened afterTight afterColon text = tightened false false text := by
  cases text with
  | nil => rfl
  | cons c text => rw [tightened_solid (solid c rfl), tightened_solid (solid c rfl)]

theorem tightened_blank (blank : isBlank c = true) (afterTight afterColon : Bool) (rest : List Char) :
    tightened afterTight afterColon (c :: rest) =
      (if afterTight || afterColon || (skipBlanks rest).head?.any isTight then [] else [' ']) ++
        tightened false false (skipBlanks rest) := by
  have solid := head?_skipBlanks rest
  obtain ⟨kept, first⟩ := skipBlanks_collapse solid
  have blank_space : isBlank ' ' = true := by decide
  have back := tightened_head solid
  simp only [tightened] at back
  rw [tightened, collapse_blank blank, tightenFrom, kept, first, blank_space, Bool.true_and]
  cases tight : afterTight || (skipBlanks rest).head?.any isTight with
  | true =>
    have gone : (afterTight || afterColon || (skipBlanks rest).head?.any isTight) = true := by
      rw [Bool.or_right_comm, tight, Bool.true_or]
    rw [if_pos rfl, gone, if_pos rfl, back, List.nil_append, tightened]
  | false =>
    have same : (afterTight || afterColon || (skipBlanks rest).head?.any isTight) = afterColon := by
      rw [Bool.or_right_comm, tight, Bool.false_or]
    rw [if_neg (by simp), same, dropAfterColonFrom, blank_space, Bool.true_and]
    cases afterColon with
    | true => rw [if_pos rfl, if_pos rfl, back, List.nil_append, tightened]
    | false => rw [if_neg (by simp), if_neg (by simp), back, tightened]; rfl

/-- Inside a text the passes look once at each run, at the characters on its two sides. -/
theorem tightened_eq_spaced {after : Char} (loose : isTight after = false) (inside : before ≠ none)
    (text : List Char) :
    tightened (before.any isTight) (before = some ':') text = spaced before (some after) text := by
  induction before, text using runs_induction with
  | nil => rw [spaced_nil]; rfl
  | blank before c rest blank ih =>
    obtain ⟨p, rfl⟩ := Option.ne_none_iff_exists'.mp inside
    have next : ((skipBlanks rest).head?.or (some after)).all isTight = (skipBlanks rest).head?.any isTight := by
      cases (skipBlanks rest).head? with
      | none => simpa using loose
      | some d => rfl
    have back := tightened_head (head?_skipBlanks rest) ((some c).any isTight) (some c = some ':')
    rw [tightened_blank blank, spaced_blank blank, ← ih (Option.some_ne_none c), back, isDropped, next]
    simp
  | solid before c rest solid ih =>
    rw [tightened_solid solid, spaced_solid solid, ← ih (Option.some_ne_none c)]
    simp

/-! ## Semicolons -/

theorem dropLastSemicolon_eq (text : List Char) : dropLastSemicolon text = dropBeforeBrace text := by
  fun_induction dropLastSemicolon text with
  | case1 rest ih => simp [dropBeforeBrace, ih]
  | case2 c rest other ih =>
    rw [dropBeforeBrace, if_neg, ih]
    simp only [Bool.and_eq_true, decide_eq_true_eq, not_and]
    rintro rfl closes
    obtain ⟨later, rfl⟩ := List.head?_eq_some_iff.mp closes
    exact other later rfl rfl
  | case3 => rfl

theorem dropBeforeBrace_cons_cons (c d : Char) (rest : List Char) :
    dropBeforeBrace (c :: d :: rest) = (if c = ';' ∧ d = '}' then [] else [c]) ++ dropBeforeBrace (d :: rest) := by
  by_cases drops : c = ';' ∧ d = '}'
  · rw [dropBeforeBrace, if_pos drops, if_pos (by simpa using drops), List.nil_append]
  · rw [dropBeforeBrace, if_neg drops, if_neg (by simpa using drops), List.singleton_append]

theorem dropBeforeBrace_append {a b : List Char} (apart : a.getLast? = some ';' → b.head? ≠ some '}') :
    dropBeforeBrace (a ++ b) = dropBeforeBrace a ++ dropBeforeBrace b := by
  induction a with
  | nil => rfl
  | cons c a ih =>
    cases a with
    | nil =>
      have stays : ¬ (c = ';' ∧ b.head? = some '}') := fun ⟨semicolon, closes⟩ => apart (by rw [semicolon]; rfl) closes
      simp [dropBeforeBrace, stays]
    | cons d a =>
      have later := ih (by simpa [List.getLast?_cons] using apart)
      rw [List.cons_append] at later
      rw [List.cons_append, List.cons_append, dropBeforeBrace_cons_cons, later, dropBeforeBrace_cons_cons,
        List.append_assoc]

theorem getLast?_dropBeforeBrace (text : List Char) : (dropBeforeBrace text).getLast? = text.getLast? := by
  induction text with
  | nil => rfl
  | cons c text ih =>
    rw [dropBeforeBrace]
    split
    · next drops =>
      cases text with
      | nil => simp at drops
      | cons d text => rw [ih, List.getLast?_cons_cons]
    · rw [List.getLast?_cons, List.getLast?_cons, ih]

theorem dropBeforeBrace_blank (blank : isBlankText text = true) : dropBeforeBrace text = text := by
  induction text with
  | nil => rfl
  | cons c text ih =>
    simp only [isBlankText, List.all_cons, Bool.and_eq_true] at blank ih
    have other : c ≠ ';' := by
      rintro rfl
      exact absurd blank.1 (by decide)
    rw [dropBeforeBrace, if_neg (by simp [other]), ih blank.2]

/-- The first character of the text stays, or is a semicolon and a brace comes first. -/
theorem head_dropBeforeBrace (c : Char) (rest : List Char) :
    ∃ d later, dropBeforeBrace (c :: rest) = d :: later ∧ (d = c ∨ c = ';' ∧ d = '}') := by
  rw [dropBeforeBrace]
  split
  · next drops =>
    simp only [Bool.and_eq_true, decide_eq_true_eq] at drops
    obtain ⟨later, rfl⟩ := List.head?_eq_some_iff.mp drops.2
    exact ⟨'}', dropBeforeBrace later, by simp [dropBeforeBrace], .inr ⟨drops.1, rfl⟩⟩
  · exact ⟨c, dropBeforeBrace rest, rfl, .inl rfl⟩

/-! ## The ends of the text -/

theorem spaced_blankText (blank : isBlankText text = true) (dropped : isDropped before after = true) :
    spaced before after text = [] := by
  cases text with
  | nil => exact spaced_nil
  | cons c rest =>
    simp only [isBlankText, List.all_cons, Bool.and_eq_true] at blank
    have none : skipBlanks rest = [] := skipBlanks_eq_nil_iff.mpr blank.2
    rw [spaced_blank blank.1, none, spaced_nil, List.head?_nil, Option.none_or, if_pos dropped, List.append_nil]

theorem isBlankText_spaced (blank : isBlankText text = true) : isBlankText (spaced before after text) = true := by
  cases text with
  | nil =>
    rw [spaced_nil]
    rfl
  | cons c rest =>
    simp only [isBlankText, List.all_cons, Bool.and_eq_true] at blank
    have none : skipBlanks rest = [] := skipBlanks_eq_nil_iff.mpr blank.2
    rw [spaced_blank blank.1, none, spaced_nil]
    split <;> decide

/-- A text is white space, or its last solid character ends it but for white space. -/
theorem exists_last_solid (text : List Char) :
    isBlankText text = true ∨
      ∃ start c trail, text = start ++ c :: trail ∧ isBlank c = false ∧ isBlankText trail = true := by
  induction text with
  | nil => exact .inl rfl
  | cons d text ih =>
    rcases ih with blank | ⟨start, c, trail, rfl, solid, blank⟩
    · by_cases first : isBlank d = true
      · exact .inl (by simpa [isBlankText, first] using blank)
      · exact .inr ⟨[], d, text, rfl, by simpa using first, blank⟩
    · exact .inr ⟨d :: start, c, trail, rfl, solid, blank⟩

/-- Trimming takes the white space at the beginning that is kept inside a text. -/
theorem skipBlanks_dropBeforeBrace (text : List Char) :
    skipBlanks (dropBeforeBrace (spaced before after text)) = dropBeforeBrace (spaced none after text) := by
  cases remaining : skipBlanks text with
  | nil =>
    have blank : isBlankText text = true := skipBlanks_eq_nil_iff.mp remaining
    have gone : isDropped none after = true := rfl
    rw [dropBeforeBrace_blank (isBlankText_spaced blank), skipBlanks_eq_nil_iff.mpr (isBlankText_spaced blank),
      spaced_blankText blank gone]
    rfl
  | cons c rest =>
    have solid : isBlank c = false := head?_skipBlanks text c (by rw [remaining]; rfl)
    have split : text = text.takeWhile isBlank ++ c :: rest := by
      rw [← remaining, skipBlanks, List.takeWhile_append_dropWhile]
    have lead : isBlankText (text.takeWhile isBlank) = true := List.all_takeWhile
    have gone : isDropped none (some c) = true := rfl
    have kept : isBlankText (spaced before (some c) (text.takeWhile isBlank)) = true := isBlankText_spaced lead
    have apart : (spaced before (some c) (text.takeWhile isBlank)).getLast? = some ';' →
        (c :: spaced (some c) after rest).head? ≠ some '}' := by
      intro last
      exact absurd (List.all_eq_true.mp kept _ (List.mem_of_getLast? last)) (by decide)
    obtain ⟨d, later, first, stays⟩ := head_dropBeforeBrace c (spaced (some c) after rest)
    have solid_first : isBlank d = false := by
      rcases stays with rfl | ⟨_, rfl⟩
      · exact solid
      · decide
    rw [split, spaced_append solid, spaced_append solid, spaced_blankText lead gone, dropBeforeBrace_append apart,
      dropBeforeBrace_blank kept, skipBlanks_passed kept, List.nil_append, first]
    exact List.dropWhile_cons_of_neg (by simp [solid_first])

/-- Trimming takes the white space at the end that is kept inside a text. -/
theorem trimEnd_dropBeforeBrace (text : List Char) :
    trimEnd (dropBeforeBrace (spaced before after text)) = dropBeforeBrace (spaced before none text) := by
  have gone (before : Option Char) : isDropped before none = true := by simp [isDropped]
  rcases exists_last_solid text with blank | ⟨start, c, trail, rfl, solid, blank⟩
  · have kept : isBlankText (spaced before after text) = true := isBlankText_spaced blank
    rw [dropBeforeBrace_blank kept, spaced_blankText blank (gone before)]
    exact @trimEnd_append [] _ (by simp) kept
  · have kept : isBlankText (spaced (some c) after trail) = true := isBlankText_spaced blank
    have apart : (spaced before (some c) start ++ [c]).getLast? = some ';' →
        (spaced (some c) after trail).head? ≠ some '}' := by
      intro _ first
      exact absurd (List.all_eq_true.mp kept _ (List.mem_of_head? first)) (by decide)
    have last : ∀ d ∈ (dropBeforeBrace (spaced before (some c) start ++ [c])).getLast?, isBlank d = false := by
      rw [getLast?_dropBeforeBrace, List.getLast?_concat]
      rintro d ⟨⟩
      exact solid
    rw [spaced_append solid, spaced_append solid, spaced_blankText blank (gone (some c)), List.append_cons,
      dropBeforeBrace_append apart, dropBeforeBrace_blank kept, trimEnd_append last kept]

/-! ## The five passes -/

/-- All passes but the first look once at each run of white space and at each semicolon. -/
theorem minify_eq (css : List Char) : minify css = dropBeforeBrace (spaced none none (dropComments css)) := by
  have inside : dropAfterColon (tighten (collapse (dropComments css))) =
      spaced (some 'a') (some 'a') (dropComments css) :=
    @tightened_eq_spaced (some 'a') 'a' rfl (by simp) (dropComments css)
  rw [minify, inside, dropLastSemicolon_eq, trim, skipBlanks_dropBeforeBrace, trimEnd_dropBeforeBrace]

/-- The five passes come to one: comments go, then each run of white space by its two sides, then semicolons. -/
theorem minify_eq_onePass (css : List Char) : minify css = onePass css := by
  rw [minify_eq, dropComments_eq, onePass]

end StaticStyles.Css
