import StaticStyles.Css.Check
import StaticStyles.Proofs.CssTokens
import StaticStyles.Proofs.OnePassMinifier

/-!
What the minifier does to strings. It knows of no quotes: a comment mark inside a string begins a comment
(`minify_unterminated`), and white space and semicolons inside a string are treated like those outside. Without such
marks the minified text has the strings of the text, each minified alone, and its braces (`minify_strings`).
-/
namespace StaticStyles.Css
open Text Token

variable {before after : Option Char} {css text rest : List Char} {c : Char} {tokens : List Token}

def isBrace (c : Char) : Bool := c = '{' || c = '}'

/-- The braces of a text outside its strings and comments; none if one of them never ends. -/
def braces? (css : List Char) : Option (List Char) := (strip css).map (·.filter isBrace)

/-- The strings of a text with their quotes; none if a string or comment never ends. -/
def strings? (css : List Char) : Option (List (List Char)) := (tokens? css).map stringsOf

/-- The tokens that are no comments. -/
def bare (tokens : List Token) : List Token := tokens.filter (!·.isComment)

/-- The text with its strings and without its comments. -/
def bareText? (css : List Char) : Option (List Char) := (tokens? css).map fun tokens => written (bare tokens)

/-- A string that is minified as if it were all the text. -/
def squeezed (string : List Char) : List Char := dropBeforeBrace (spaced none none string)

/-! ## One string -/

theorem isStringMark_solid {mark : Char} (quote : isStringMark mark = true) :
    isBlank mark = false ∧ isTight mark = false ∧ mark ≠ '\\' ∧ mark ≠ ';' := by
  rcases isStringMark_iff.mp quote with rfl | rfl
  · decide
  · decide

/-- A character that is neither a backslash nor the mark ends nothing. -/
theorem closesString_other {mark : Char} (plain : c ≠ '\\') (inner : c ≠ mark) (escaped : Bool) (rest : List Char) :
    closesString mark escaped (c :: rest) = closesString mark false rest := by
  cases escaped with
  | true => rfl
  | false => rw [closesString, if_neg plain, if_neg inner]

theorem ne_of_isTight {mark : Char} (quote : isStringMark mark = true) (tight : isTight c = true) :
    c ≠ '\\' ∧ c ≠ mark := by
  constructor
  · rintro rfl
    exact absurd tight (by decide)
  · rintro rfl
    rw [(isStringMark_solid quote).2.1] at tight
    contradiction

theorem closesString_skipBlanks {mark : Char} (quote : isStringMark mark = true) (rest : List Char) :
    closesString mark false (skipBlanks rest) = closesString mark false rest := by
  induction rest with
  | nil => rfl
  | cons c rest ih =>
    rw [skipBlanks] at ih ⊢
    by_cases blank : isBlank c = true
    · have plain : c ≠ '\\' := ne_of_isBlank blank (by decide)
      rw [List.dropWhile_cons_of_pos blank, ih,
        closesString_other plain (ne_of_isBlank blank (isStringMark_solid quote).1)]
    · rw [List.dropWhile_cons_of_neg blank]

/-- The end of a string stays its end. White space behind a backslash goes only before a tight character, which then is
the escaped one. -/
theorem closesString_spaced {mark : Char} (quote : isStringMark mark = true) {escaped : Bool} {inside : List Char}
    (closes : closesString mark escaped inside = true) (behind : escaped = true → before = some '\\') :
    closesString mark escaped (spaced before none inside) = true := by
  have solid := (isStringMark_solid quote).1
  induction before, inside using runs_induction generalizing escaped with
  | nil => contradiction
  | blank before c rest blank ih =>
    have plain : c ≠ '\\' := ne_of_isBlank blank (by decide)
    have later : closesString mark false (skipBlanks rest) = true := by
      rw [closesString_skipBlanks quote]
      rwa [closesString_other plain (ne_of_isBlank blank solid)] at closes
    have kept := ih later (by simp)
    rw [spaced_blank blank]
    split
    · next dropped =>
      rw [List.nil_append]
      cases escaped with
      | false => exact kept
      | true =>
        obtain rfl := behind rfl
        cases next : skipBlanks rest with
        | nil =>
          rw [next] at later
          contradiction
        | cons d more =>
          have tight : isTight d = true := by simpa [isDropped, next, isTight] using dropped
          obtain ⟨plain, inner⟩ := ne_of_isTight quote tight
          have solid : isBlank d = false := head?_skipBlanks rest d (by rw [next]; rfl)
          rw [next, spaced_solid solid] at kept
          rw [spaced_solid solid]
          rw [closesString_other plain inner] at kept ⊢
          exact kept
    · rw [List.singleton_append, closesString_other (by decide)]
      · exact kept
      · rintro rfl
        contradiction
  | solid before c rest solid ih =>
    rw [spaced_solid solid]
    refine closesString_cons closes ?_ ?_
    · rintro rfl
      exact spaced_nil
    · intro taken behind later
      exact ih later fun escapes => congrArg some (behind escapes)

theorem closesString_dropBeforeBrace {mark : Char} (quote : isStringMark mark = true) {escaped : Bool}
    {inside : List Char} (closes : closesString mark escaped inside = true) :
    closesString mark escaped (dropBeforeBrace inside) = true := by
  induction inside generalizing escaped with
  | nil => contradiction
  | cons c rest ih =>
    rw [dropBeforeBrace]
    split
    · next drops =>
      simp only [Bool.and_eq_true, decide_eq_true_eq] at drops
      obtain ⟨rfl, brace⟩ := drops
      obtain ⟨later, rfl⟩ := List.head?_eq_some_iff.mp brace
      have semicolon := (isStringMark_solid quote).2.2.2.symm
      obtain ⟨plain, inner⟩ := ne_of_isTight quote (c := '}') rfl
      have kept := ih ((closesString_other (by decide) semicolon escaped _).symm.trans closes)
      have first : dropBeforeBrace ('}' :: later) = '}' :: dropBeforeBrace later := by simp [dropBeforeBrace]
      rw [first] at kept ⊢
      rw [closesString_other plain inner] at kept ⊢
      exact kept
    · refine closesString_cons closes ?_ fun _ later => ih later
      rintro rfl
      rfl

/-- What ends a string ends with its mark. -/
theorem exists_append_of_closesString {mark : Char} {escaped : Bool} {inside : List Char}
    (closes : closesString mark escaped inside = true) : ∃ start, inside = start ++ [mark] := by
  induction inside generalizing escaped with
  | nil => contradiction
  | cons c inside ih =>
    have longer {escaped : Bool} (later : closesString mark escaped inside = true) :
        ∃ start, c :: inside = start ++ [mark] := by
      obtain ⟨start, rfl⟩ := ih later
      exact ⟨c :: start, rfl⟩
    cases escaped with
    | true => exact longer closes
    | false =>
      rw [closesString] at closes
      split at closes
      · exact longer closes
      · split at closes
        · next ends => exact ⟨[], by rw [List.isEmpty_iff.mp closes, ends]; rfl⟩
        · exact longer closes

/-- A whole string begins and ends with its mark. -/
theorem exists_mark_of_whole {string : List Char} (whole : (Token.string string).isWhole = true) :
    ∃ mark inside start, string = mark :: inside ∧ inside = start ++ [mark] ∧ isStringMark mark = true := by
  obtain ⟨mark, inside, rfl, quote, closes⟩ := exists_of_whole_string whole
  obtain ⟨start, same⟩ := exists_append_of_closesString closes
  exact ⟨mark, inside, start, rfl, same, quote⟩

/-- A string is spaced alone, whatever stands beside it. -/
theorem spaced_string {string : List Char} (whole : (Token.string string).isWhole = true) (rest : List Char) :
    spaced before after (string ++ rest) = spaced none none string ++ spaced string.getLast? after rest := by
  obtain ⟨mark, inside, start, rfl, rfl, quote⟩ := exists_mark_of_whole whole
  have solid := (isStringMark_solid quote).1
  have last : (mark :: (start ++ [mark])).getLast? = some mark := by
    rw [← List.cons_append, List.getLast?_concat]
  have split : mark :: (start ++ [mark]) ++ rest = mark :: (start ++ mark :: rest) := by simp
  rw [last, split, spaced_solid solid, spaced_solid solid, spaced_append solid, spaced_append solid, spaced_nil]
  simp

theorem dropBeforeBrace_string {string : List Char} (whole : (Token.string string).isWhole = true)
    (rest : List Char) : dropBeforeBrace (string ++ rest) = dropBeforeBrace string ++ dropBeforeBrace rest := by
  refine dropBeforeBrace_append ?_
  obtain ⟨mark, inside, start, rfl, rfl, quote⟩ := exists_mark_of_whole whole
  intro last
  rw [← List.cons_append, List.getLast?_concat, Option.some.injEq] at last
  exact absurd last (isStringMark_solid quote).2.2.2

theorem isWhole_spaced {string : List Char} (whole : (Token.string string).isWhole = true) :
    (Token.string (spaced none none string)).isWhole = true := by
  obtain ⟨mark, inside, rfl, quote, closes⟩ := exists_of_whole_string whole
  rw [spaced_solid (isStringMark_solid quote).1, Token.isWhole, Bool.and_eq_true]
  exact ⟨quote, closesString_spaced quote closes (by simp)⟩

theorem isWhole_dropBeforeBrace {string : List Char} (whole : (Token.string string).isWhole = true) :
    (Token.string (dropBeforeBrace string)).isWhole = true := by
  obtain ⟨mark, inside, rfl, quote, closes⟩ := exists_of_whole_string whole
  have other : ¬ (mark = ';') := (isStringMark_solid quote).2.2.2
  rw [dropBeforeBrace, if_neg (by simp [other]), Token.isWhole, Bool.and_eq_true]
  exact ⟨quote, closesString_dropBeforeBrace quote closes⟩

/-! ## Tokens of the minified text -/

/-- Whole tokens without comments, with the same braces as others and with their strings changed by a function. -/
structure Rewrites (change : List Char → List Char) (tokens changed : List Token) : Prop where
  whole : ∀ token ∈ changed, token.isWhole = true
  uncommented : ∀ token ∈ changed, token.isComment = false
  strings : stringsOf changed = (stringsOf tokens).map change
  braces : (outsideOf changed).filter isBrace = (outsideOf tokens).filter isBrace

namespace Rewrites
variable {change : List Char → List Char} {changed : List Token}

theorem nil : Rewrites change [] [] := ⟨by simp, by simp, rfl, rfl⟩

theorem string {text : List Char} (rewrites : Rewrites change tokens changed)
    (whole : (Token.string (change text)).isWhole = true) :
    Rewrites change (.string text :: tokens) (.string (change text) :: changed) where
  whole := List.forall_mem_cons.mpr ⟨whole, rewrites.whole⟩
  uncommented := List.forall_mem_cons.mpr ⟨rfl, rewrites.uncommented⟩
  strings := congrArg (change text :: ·) rewrites.strings
  braces := rewrites.braces

theorem drop (rewrites : Rewrites change tokens changed) (other : isBrace c = false) :
    Rewrites change (.char c :: tokens) changed where
  whole := rewrites.whole
  uncommented := rewrites.uncommented
  strings := rewrites.strings
  braces := by
    have outside : outsideOf (.char c :: tokens) = c :: outsideOf tokens := rfl
    rw [outside, List.filter_cons_of_neg (by simp [other])]
    exact rewrites.braces

theorem char {d : Char} (rewrites : Rewrites change tokens changed) (whole : (Token.char d).isWhole = true)
    (same : d = c ∨ isBrace c = false ∧ isBrace d = false) :
    Rewrites change (.char c :: tokens) (.char d :: changed) where
  whole := List.forall_mem_cons.mpr ⟨whole, rewrites.whole⟩
  uncommented := List.forall_mem_cons.mpr ⟨rfl, rewrites.uncommented⟩
  strings := rewrites.strings
  braces := by
    have outside : outsideOf (.char c :: tokens) = c :: outsideOf tokens := rfl
    have outside' : outsideOf (.char d :: changed) = d :: outsideOf changed := rfl
    rw [outside, outside', List.filter_cons, List.filter_cons, rewrites.braces]
    rcases same with rfl | ⟨other, other'⟩
    · rfl
    · rw [other, other']
      rfl

end Rewrites

/-- The last of a run of white space decides. -/
theorem spaced_cons (blank : isBlank c = true) (rest : List Char) :
    spaced before after (c :: rest) =
      if rest.head?.any isBlank then spaced before after rest
      else (if isDropped before (rest.head?.or after) then [] else [' ']) ++ spaced (some c) after rest := by
  rw [spaced_blank blank]
  cases rest with
  | nil => rfl
  | cons d rest =>
    by_cases again : isBlank d = true
    · have skipped : skipBlanks (d :: rest) = skipBlanks rest := List.dropWhile_cons_of_pos again
      have first : (d :: rest).head?.any isBlank = true := again
      rw [if_pos first, spaced_blank again, skipped, spaced_head (head?_skipBlanks rest)]
    · have skipped : skipBlanks (d :: rest) = d :: rest := List.dropWhile_cons_of_neg again
      have first : ¬ (d :: rest).head?.any isBlank = true := again
      rw [if_neg first, skipped]

theorem isBrace_of_isBlank (blank : isBlank c = true) : isBrace c = false := by
  have opening : c ≠ '{' := ne_of_isBlank blank (by decide)
  have closing : c ≠ '}' := ne_of_isBlank blank (by decide)
  simp [isBrace, opening, closing]

theorem exists_rewrites_spaced (whole : ∀ token ∈ tokens, token.isWhole = true)
    (uncommented : ∀ token ∈ tokens, token.isComment = false) (before after : Option Char) :
    ∃ changed, written changed = spaced before after (written tokens) ∧
      Rewrites (spaced none none) tokens changed := by
  induction tokens generalizing before with
  | nil => exact ⟨[], by rw [written, List.flatMap_nil, spaced_nil], .nil⟩
  | cons token tokens ih =>
    obtain ⟨first, whole⟩ := List.forall_mem_cons.mp whole
    obtain ⟨kind, uncommented⟩ := List.forall_mem_cons.mp uncommented
    have ih := ih whole uncommented
    cases token with
    | comment => contradiction
    | string text =>
      obtain ⟨changed, text_eq, rewrites⟩ := ih text.getLast?
      refine ⟨.string (spaced none none text) :: changed, ?_, rewrites.string (isWhole_spaced first)⟩
      rw [written_cons, written_cons, Token.text, Token.text, spaced_string first, text_eq]
    | char c =>
      rw [written_cons, Token.text, List.singleton_append]
      by_cases blank : isBlank c = true
      · have other := isBrace_of_isBlank blank
        rw [spaced_cons blank]
        split
        · obtain ⟨changed, text_eq, rewrites⟩ := ih before
          exact ⟨changed, text_eq, rewrites.drop other⟩
        · obtain ⟨changed, text_eq, rewrites⟩ := ih (some c)
          split
          · exact ⟨changed, text_eq, rewrites.drop other⟩
          · exact ⟨.char ' ' :: changed, congrArg (' ' :: ·) text_eq, rewrites.char rfl (.inr ⟨other, rfl⟩)⟩
      · obtain ⟨changed, text_eq, rewrites⟩ := ih (some c)
        refine ⟨.char c :: changed, ?_, rewrites.char first (.inl rfl)⟩
        rw [spaced_solid (by simpa using blank), written_cons, text_eq]
        rfl

theorem exists_rewrites_dropBeforeBrace (whole : ∀ token ∈ tokens, token.isWhole = true)
    (uncommented : ∀ token ∈ tokens, token.isComment = false) :
    ∃ changed, written changed = dropBeforeBrace (written tokens) ∧ Rewrites dropBeforeBrace tokens changed := by
  induction tokens with
  | nil => exact ⟨[], rfl, .nil⟩
  | cons token tokens ih =>
    obtain ⟨first, whole⟩ := List.forall_mem_cons.mp whole
    obtain ⟨kind, uncommented⟩ := List.forall_mem_cons.mp uncommented
    obtain ⟨changed, text_eq, rewrites⟩ := ih whole uncommented
    cases token with
    | comment => contradiction
    | string text =>
      refine ⟨.string (dropBeforeBrace text) :: changed, ?_, rewrites.string (isWhole_dropBeforeBrace first)⟩
      rw [written_cons, written_cons, Token.text, Token.text, dropBeforeBrace_string first, text_eq]
    | char c =>
      rw [written_cons, Token.text, List.singleton_append, dropBeforeBrace]
      split
      · next drops =>
        simp only [Bool.and_eq_true, decide_eq_true_eq] at drops
        obtain ⟨rfl, _⟩ := drops
        exact ⟨changed, text_eq, rewrites.drop rfl⟩
      · exact ⟨.char c :: changed, congrArg (c :: ·) text_eq, rewrites.char first (.inl rfl)⟩

theorem Rewrites.trans {f g : List Char → List Char} {a b c : List Token} (first : Rewrites f a b)
    (second : Rewrites g b c) : Rewrites (g ∘ f) a c where
  whole := second.whole
  uncommented := second.uncommented
  strings := by rw [second.strings, first.strings, List.map_map]
  braces := second.braces.trans first.braces

/-! ## Neighbours -/

theorem head?_spaced (solid : ∀ c ∈ text.head?, isBlank c = false) :
    (spaced before after text).head? = text.head? := by
  cases text with
  | nil => rw [spaced_nil]
  | cons c text => rw [spaced_solid (solid c rfl)]; rfl

/-- Neighbours in a spaced text, and its first character behind a solid one: they were neighbours before, or a dropped
run stood between them, or one of them is a blank that was not dropped. -/
theorem isChain_spaced_from {R : Char → Char → Prop}
    (joined : ∀ a b, isBlank a = false → isBlank b = false → isDropped (some a) (some b) = true → R a b)
    (gap : ∀ a b, isBlank a = false → isDropped (some a) b = false → R a ' ')
    (behind : ∀ b, isBlank b = false → isTight b = false → R ' ' b)
    (pairs : (before.toList ++ text).IsChain fun a b => isBlank a = false → isBlank b = false → R a b) :
    (spaced before after text).IsChain R ∧
      ∀ p ∈ before, isBlank p = false → ∀ b ∈ (spaced before after text).head?, R p b := by
  induction before, text using runs_induction with
  | nil => simp [spaced_nil]
  | blank before c rest blank ih =>
    rw [spaced_blank blank]
    have solid := head?_skipBlanks rest
    have first : (spaced (some c) after (skipBlanks rest)).head? = (skipBlanks rest).head? := head?_spaced solid
    have suffix : (skipBlanks rest).IsChain fun a b => isBlank a = false → isBlank b = false → R a b :=
      pairs.right_of_append.tail.suffix (List.dropWhile_suffix _)
    obtain ⟨later, _⟩ := ih (suffix.cons fun b _ solid => by simp [blank] at solid)
    split
    · next dropped =>
      refine ⟨later, ?_⟩
      rintro p rfl solid_before b shown
      rw [List.nil_append, first] at shown
      rw [Option.mem_def.mp shown] at dropped
      exact joined p b solid_before (solid b shown) dropped
    · next stays =>
      have stays : isDropped before ((skipBlanks rest).head?.or after) = false := by simpa using stays
      refine ⟨later.cons ?_, ?_⟩
      · intro b shown
        rw [first] at shown
        refine behind b (solid b shown) ?_
        rw [Option.mem_def.mp shown, isDropped, Bool.or_eq_false_iff] at stays
        simpa using stays.2
      · rintro p rfl solid_before b shown
        obtain rfl := Option.some.inj shown
        exact gap p _ solid_before stays
  | solid before c rest solid ih =>
    rw [spaced_solid solid]
    obtain ⟨later, behind_first⟩ := ih pairs.right_of_append
    refine ⟨later.cons (behind_first c rfl solid), ?_⟩
    rintro p rfl solid_before b shown
    obtain rfl := Option.some.inj shown
    exact pairs.rel_head? rfl solid_before solid

theorem isChain_dropBeforeBrace {R : Char → Char → Prop} (brace : ∀ a, R a ';' → R a '}') (chain : text.IsChain R) :
    (dropBeforeBrace text).IsChain R := by
  induction text with
  | nil => exact .nil
  | cons c rest ih =>
    have later := ih chain.tail
    rw [dropBeforeBrace]
    split
    · exact later
    · refine later.cons ?_
      intro b first
      cases rest with
      | nil => contradiction
      | cons d rest =>
        have pair : R c d := chain.rel_head? rfl
        obtain ⟨e, others, kept, stays⟩ := head_dropBeforeBrace d rest
        rw [kept] at first
        obtain rfl := Option.some.inj first
        rcases stays with rfl | ⟨rfl, rfl⟩
        · exact pair
        · exact brace c pair

/-! ## Comments -/

/-- Two characters that open no comment. -/
def Unopened (a b : Char) : Prop := ¬ (a = '/' ∧ b = '*')

theorem isChain_of_not_infix (unmarked : ¬ ['/', '*'] <:+: text) : text.IsChain Unopened := by
  refine (List.isChain_isInfix text).imp ?_
  rintro a b inside ⟨rfl, rfl⟩
  exact unmarked inside

theorem dropComments_append (apart : text.IsChain Unopened) (last : text.getLast? ≠ some '/') (rest : List Char) :
    dropComments (text ++ rest) = text ++ dropComments rest := by
  induction text with
  | nil => rfl
  | cons c text ih =>
    have plain : afterChars? ['/', '*'] (c :: (text ++ rest)) = none := by
      rw [Option.eq_none_iff_forall_ne_some]
      intro after found
      obtain ⟨rfl, opening⟩ := List.cons.inj (afterChars?_eq_some_iff.mp found)
      cases text with
      | nil => exact last rfl
      | cons d text =>
        obtain ⟨rfl, _⟩ := List.cons.inj opening
        exact apart.rel_head? rfl ⟨rfl, rfl⟩
    have later : text.getLast? ≠ some '/' := by
      cases text with
      | nil => simp
      | cons d text => rwa [List.getLast?_cons_cons] at last
    rw [List.cons_append, dropComments_cons plain, ih apart.tail later, List.cons_append]

theorem afterComment?_cons (other : c ≠ '*') (rest : List Char) : afterComment? (c :: rest) = afterComment? rest := by
  rw [afterComment?]
  rintro later rfl
  exact absurd rfl other

theorem afterComment?_star (other : c ≠ '/') (rest : List Char) :
    afterComment? ('*' :: c :: rest) = afterComment? (c :: rest) := by
  rw [afterComment?]
  rintro later _ same
  exact absurd (List.cons.inj same).1 other

theorem afterComment?_append {star : Bool} {inside : List Char} (closes : closesComment star inside = true)
    (rest : List Char) : afterComment? ((if star then ['*'] else []) ++ (inside ++ rest)) = some rest := by
  induction inside generalizing star with
  | nil => contradiction
  | cons c inside ih =>
    rw [closesComment] at closes
    split at closes
    · next ends =>
      rw [Bool.and_eq_true, decide_eq_true_eq] at ends
      rw [List.isEmpty_iff.mp closes, ends.1, ends.2]
      rfl
    · next inner =>
      have later := ih closes
      have behind : afterComment? (c :: (inside ++ rest)) = some rest := by
        by_cases other : c = '*'
        · simpa [other] using later
        · rw [afterComment?_cons other]
          simpa [other] using later
      cases star with
      | false => exact behind
      | true =>
        have other : c ≠ '/' := by simpa using inner
        rw [if_pos rfl, List.singleton_append, List.cons_append, afterComment?_star other]
        exact behind

theorem dropComments_comment {text : List Char} (whole : (Token.comment text).isWhole = true) (rest : List Char) :
    dropComments (text ++ rest) = dropComments rest := by
  obtain ⟨inside, rfl, closes⟩ := exists_of_whole_comment whole
  have ending : afterComment? (inside ++ rest) = some rest := afterComment?_append closes rest
  rw [afterComment?_eq] at ending
  obtain ⟨⟨start, after⟩, cut, rfl⟩ := Option.map_eq_some_iff.mp ending
  rw [List.cons_append, List.cons_append, dropComments_opening, cut]

/-- Without marks outside its comments a text loses its comments and nothing else. -/
theorem dropComments_written (reading : IsReading tokens) (apart : (written (bare tokens)).IsChain Unopened) :
    dropComments (written tokens) = written (bare tokens) := by
  induction tokens with
  | nil => rfl
  | cons token tokens ih =>
    have first := (List.forall_mem_cons.mp reading.whole).1
    cases token with
    | char c =>
      have plain : afterChars? ['/', '*'] (c :: written tokens) = none := by
        rw [Option.eq_none_iff_forall_ne_some]
        intro after found
        obtain ⟨rfl, opening⟩ := List.cons.inj (afterChars?_eq_some_iff.mp found)
        have star := eq_star_of_head reading.tail.whole (by rw [opening]; rfl)
        exact reading.apart.rel_head? star ⟨rfl, rfl⟩
      have later : (written (bare tokens)).IsChain Unopened := apart.tail
      rw [written_cons, Token.text, List.singleton_append, dropComments_cons plain, ih reading.tail later]
      rfl
    | string text =>
      have split : written (bare (.string text :: tokens)) = text ++ written (bare tokens) := rfl
      rw [split] at apart ⊢
      have last : text.getLast? ≠ some '/' := by
        obtain ⟨mark, inside, start, rfl, rfl, quote⟩ := exists_mark_of_whole first
        rw [← List.cons_append, List.getLast?_concat]
        rcases isStringMark_iff.mp quote with rfl | rfl
        · decide
        · decide
      rw [written_cons, Token.text, dropComments_append apart.left_of_append last,
        ih reading.tail apart.right_of_append]
    | comment text =>
      rw [written_cons, Token.text, dropComments_comment first]
      exact ih reading.tail apart

/-! ## Strings that stay -/

/-- White space is single, not behind a tight character or a colon, and not before a tight character. -/
def Spaces (a b : Char) : Prop :=
  (isBlank b = true → isBlank a = false ∧ isTight a = false ∧ a ≠ ':') ∧ (isBlank a = true → isTight b = false)

instance (a b : Char) : Decidable (Spaces a b) := inferInstanceAs (Decidable (_ ∧ _))

/-- A text in which the minifier finds nothing to rewrite but for white space at its ends. -/
structure Settled (text : List Char) : Prop where
  blanks : ∀ c ∈ text, isBlank c = true → c = ' '
  spaces : text.IsChain Spaces
  semicolons : ¬ [';', '}'] <:+: text

instance (text : List Char) : Decidable (Settled text) :=
  have : Decidable (∀ c ∈ text, isBlank c = true → c = ' ') := List.decidableBAll _ text
  decidable_of_iff ((∀ c ∈ text, isBlank c = true → c = ' ') ∧ text.IsChain Spaces ∧ ¬ [';', '}'] <:+: text)
    ⟨fun ⟨blanks, spaces, semicolons⟩ => ⟨blanks, spaces, semicolons⟩,
      fun settled => ⟨settled.blanks, settled.spaces, settled.semicolons⟩⟩

theorem length_spaced_le (before after : Option Char) (text : List Char) :
    (spaced before after text).length ≤ text.length := by
  induction before, text using runs_induction with
  | nil => rw [spaced_nil]
  | blank before c rest blank ih =>
    have shorter := skipBlanks_length_le rest
    rw [spaced_blank blank, List.length_append, List.length_cons]
    split
    · simp only [List.length_nil]
      omega
    · simp only [List.length_cons, List.length_nil]
      omega
  | solid before c rest solid ih => simpa [spaced_solid solid] using ih

theorem dropBeforeBrace_sublist (text : List Char) : (dropBeforeBrace text).Sublist text := by
  induction text with
  | nil => exact .slnil
  | cons c rest ih =>
    rw [dropBeforeBrace]
    split
    · exact ih.cons c
    · exact ih.cons_cons c

theorem dropBeforeBrace_eq_self_iff : dropBeforeBrace text = text ↔ ¬ [';', '}'] <:+: text := by
  induction text with
  | nil => decide
  | cons c rest ih =>
    have here : [';', '}'] <+: c :: rest ↔ c = ';' ∧ rest.head? = some '}' := by
      cases rest with
      | nil => simp
      | cons d rest => simp [List.cons_prefix_cons, eq_comm]
    rw [List.infix_cons_iff, here, dropBeforeBrace]
    split
    · next drops =>
      have longer := (dropBeforeBrace_sublist rest).length_le
      constructor
      · intro same
        rw [same, List.length_cons] at longer
        omega
      · intro apart
        exact absurd (.inl (by simpa using drops)) apart
    · next stays =>
      have stays : ¬ (c = ';' ∧ rest.head? = some '}') := by simpa using stays
      rw [List.cons.injEq, ih]
      tauto

theorem eq_of_mem_spaced (before after : Option Char) (text : List Char) :
    ∀ c ∈ spaced before after text, isBlank c = true → c = ' ' := by
  induction before, text using runs_induction with
  | nil => simp [spaced_nil]
  | blank before c rest blank ih =>
    rw [spaced_blank blank]
    split
    · exact ih
    · exact List.forall_mem_cons.mpr ⟨fun _ => rfl, ih⟩
  | solid before c rest solid ih =>
    rw [spaced_solid solid]
    exact List.forall_mem_cons.mpr ⟨fun blank => by simp [solid] at blank, ih⟩

theorem isChain_spaced (text : List Char) : (spaced none none text).IsChain Spaces := by
  refine (isChain_spaced_from ?_ ?_ ?_ ?_).1
  · intro a b solid solid' _
    simp [Spaces, solid, solid']
  · intro a b solid stays
    have loose : isTight a = false ∧ a ≠ ':' := by simpa [isDropped] using (Bool.or_eq_false_iff.mp stays).1
    exact ⟨fun _ => ⟨solid, loose⟩, by simp [solid]⟩
  · intro b solid loose
    exact ⟨by simp [solid], fun _ => loose⟩
  · refine (List.isChain_isInfix _).imp ?_
    intro a b _ solid solid'
    simp [Spaces, solid, solid']

/-- Behind a character and before a solid end nothing is dropped. -/
theorem spaced_settled {p : Char} (blanks : ∀ c ∈ text, isBlank c = true → c = ' ')
    (spaces : (p :: text).IsChain Spaces) (last : ∀ c ∈ text.getLast?, isBlank c = false) :
    spaced (some p) after text = text := by
  induction text generalizing p with
  | nil => rw [spaced_nil]
  | cons c rest ih =>
    obtain ⟨first, blanks⟩ := List.forall_mem_cons.mp blanks
    by_cases blank : isBlank c = true
    · cases rest with
      | nil => exact absurd blank (by simpa using last)
      | cons d rest =>
        have behind : isBlank p = false ∧ isTight p = false ∧ p ≠ ':' := (spaces.rel_head? rfl).1 blank
        have next : Spaces c d := spaces.tail.rel_head? rfl
        have solid : isBlank d = false := by
          by_contra again
          rw [((next.1 (by simpa using again)).1)] at blank
          contradiction
        have stays : isDropped (some p) (some d) = false := by
          simp [isDropped, behind.2.1, behind.2.2, next.2 blank]
        have later := ih blanks spaces.tail (by rwa [List.getLast?_cons_cons] at last)
        rw [spaced_cons blank, later, first blank]
        simp [solid, stays]
    · have later : ∀ c ∈ rest.getLast?, isBlank c = false := by
        cases rest with
        | nil => simp
        | cons d rest => rwa [List.getLast?_cons_cons] at last
      rw [spaced_solid (by simpa using blank), ih blanks spaces.tail later]

/-- The strings that stay are the settled ones. -/
theorem squeezed_eq_self_iff {string : List Char} (whole : (Token.string string).isWhole = true) :
    squeezed string = string ↔ Settled string := by
  constructor
  · intro same
    have shorter := (dropBeforeBrace_sublist (spaced none none string)).length_le
    have longest := length_spaced_le none none string
    rw [← squeezed, same] at shorter
    have kept : squeezed string = spaced none none string :=
      (dropBeforeBrace_sublist _).eq_of_length (by rw [← squeezed, same]; omega)
    rw [same] at kept
    refine ⟨?_, ?_, ?_⟩
    · rw [kept]
      exact eq_of_mem_spaced none none string
    · rw [kept]
      exact isChain_spaced string
    · rw [← dropBeforeBrace_eq_self_iff]
      rwa [squeezed, ← kept] at same
  · intro settled
    obtain ⟨mark, inside, start, rfl, rfl, quote⟩ := exists_mark_of_whole whole
    have solid := (isStringMark_solid quote).1
    have last : ∀ c ∈ (start ++ [mark]).getLast?, isBlank c = false := by
      rw [List.getLast?_concat]
      rintro c ⟨⟩
      exact solid
    have kept : spaced (some mark) none (start ++ [mark]) = start ++ [mark] :=
      spaced_settled (List.forall_mem_cons.mp settled.blanks).2 settled.spaces last
    rw [squeezed, spaced_solid solid, kept, dropBeforeBrace_eq_self_iff]
    exact settled.semicolons

/-! ## The minified text -/

theorem isChain_of_isChain_written (chain : (written tokens).IsChain Unopened) :
    tokens.IsChain fun a b => ¬ Opens a b := by
  induction tokens with
  | nil => exact .nil
  | cons token tokens ih =>
    rw [written_cons] at chain
    refine (ih chain.right_of_append).cons ?_
    rintro next first ⟨rfl, rfl⟩
    obtain ⟨others, rfl⟩ := List.head?_eq_some_iff.mp first
    exact chain.rel_head? rfl ⟨rfl, rfl⟩

theorem isChain_minified (chain : text.IsChain Unopened) :
    (dropBeforeBrace (spaced none none text)).IsChain Unopened := by
  refine isChain_dropBeforeBrace ?_ (isChain_spaced_from ?_ ?_ ?_ ?_).1
  · rintro a _ ⟨_, brace⟩
    contradiction
  · -- a run is dropped beside a tight character or behind a colon
    rintro a b _ _ dropped ⟨rfl, rfl⟩
    contradiction
  · rintro a b _ _ ⟨_, space⟩
    contradiction
  · rintro b _ _ ⟨space, _⟩
    contradiction
  · exact chain.imp fun a b apart _ _ => apart

theorem stringsOf_bare (tokens : List Token) : stringsOf (bare tokens) = stringsOf tokens := by
  induction tokens with
  | nil => rfl
  | cons token tokens ih =>
    cases token with
    | char c => exact ih
    | string text => exact congrArg (text :: ·) ih
    | comment text => exact ih

theorem outsideOf_bare (tokens : List Token) : outsideOf (bare tokens) = outsideOf tokens := by
  induction tokens with
  | nil => rfl
  | cons token tokens ih =>
    cases token with
    | char c => exact congrArg (c :: ·) ih
    | string text => exact ih
    | comment text => exact ih

/-- The tokens of the minified text. -/
theorem exists_rewrites_minify (read : tokens? css = some tokens)
    (unmarked : ¬ ['/', '*'] <:+: written (bare tokens)) :
    ∃ changed, tokens? (minify css) = some changed ∧ Rewrites squeezed tokens changed := by
  obtain ⟨rfl, reading⟩ := tokens?_eq_some_iff.mp read
  have apart := isChain_of_not_infix unmarked
  have whole : ∀ token ∈ bare tokens, token.isWhole = true := fun token member =>
    reading.whole token (List.mem_filter.mp member).1
  have uncommented : ∀ token ∈ bare tokens, token.isComment = false := fun token member => by
    simpa using (List.mem_filter.mp member).2
  obtain ⟨middle, middle_eq, first⟩ := exists_rewrites_spaced whole uncommented none none
  obtain ⟨changed, changed_eq, second⟩ := exists_rewrites_dropBeforeBrace first.whole first.uncommented
  rw [middle_eq] at changed_eq
  have minified : minify (written tokens) = written changed := by
    rw [minify_eq, dropComments_written reading apart, changed_eq]
  have chain : (written changed).IsChain Unopened := by
    rw [changed_eq]
    exact isChain_minified apart
  refine ⟨changed, ?_, ?_⟩
  · rw [minified, tokens?_written ⟨second.whole, isChain_of_isChain_written chain⟩]
  · obtain ⟨whole, uncommented, strings, braces⟩ := first.trans second
    rw [stringsOf_bare] at strings
    rw [outsideOf_bare] at braces
    exact ⟨whole, uncommented, strings, braces⟩

theorem exists_tokens_of_check (valid : check css = .ok ()) : ∃ tokens, tokens? css = some tokens := by
  rw [check, strip_eq] at valid
  cases read : tokens? css with
  | none =>
    rw [read, Option.map_none] at valid
    split at valid
    · contradiction
    · split at valid <;> contradiction
  | some tokens => exact ⟨tokens, rfl⟩

/-- Valid text with no comment mark outside its comments: the minified text has the same braces, and the same strings
each minified alone, so that it has the same strings if and only if all of them are settled. -/
theorem minify_strings (valid : check css = .ok ()) (unmarked : ∀ text ∈ bareText? css, ¬ ['/', '*'] <:+: text) :
    (strip (minify css)).isSome = true ∧ braces? (minify css) = braces? css ∧
      strings? (minify css) = (strings? css).map (·.map squeezed) ∧
      (strings? (minify css) = strings? css ↔ ∀ strings ∈ strings? css, ∀ string ∈ strings, Settled string) := by
  obtain ⟨tokens, read⟩ := exists_tokens_of_check valid
  have unmarked : ¬ ['/', '*'] <:+: written (bare tokens) := unmarked _ (by rw [bareText?, read]; rfl)
  obtain ⟨changed, read', rewrites⟩ := exists_rewrites_minify read unmarked
  have strings : strings? css = some (stringsOf tokens) := by rw [strings?, read]; rfl
  have minified : strings? (minify css) = some ((stringsOf tokens).map squeezed) := by
    rw [strings?, read', Option.map_some, rewrites.strings]
  refine ⟨by rw [strip_eq, read']; rfl, ?_, by rw [minified, strings]; rfl, ?_⟩
  · rw [braces?, braces?, strip_eq, strip_eq, read, read']
    exact congrArg some rewrites.braces
  · have whole : ∀ string ∈ stringsOf tokens, (Token.string string).isWhole = true := by
      intro string member
      obtain ⟨token, inside, same⟩ := List.mem_filterMap.mp member
      cases token with
      | string text =>
        obtain rfl := Option.some.inj same
        exact (tokens?_eq_some_iff.mp read).2.whole _ inside
      | char | comment => contradiction
    rw [minified, strings, Option.some.injEq]
    constructor
    · rintro same _ ⟨⟩ string member
      refine (squeezed_eq_self_iff (whole string member)).mp ?_
      exact List.map_inj_left.mp (same.trans (List.map_id _).symm) string member
    · intro settled
      have kept : ∀ string ∈ stringsOf tokens, squeezed string = id string := fun string member =>
        (squeezed_eq_self_iff (whole string member)).mpr (settled _ rfl string member)
      rw [List.map_congr_left kept, List.map_id]

/-- A text with a comment and with a string that loses a blank. -/
theorem minify_strings_quoted :
    let css := ".a \x7b content : \"b, c\" ; \x7d /* d */".toList
    check css = .ok () ∧ (∀ text ∈ bareText? css, ¬ ['/', '*'] <:+: text) ∧
      minify css = ".a\x7bcontent :\"b,c\"\x7d".toList ∧ strings? (minify css) = some ["\"b,c\"".toList] ∧
      strings? (minify css) ≠ strings? css := by
  intro css
  have valid : check css = .ok () := by decide +kernel
  have unmarked : ∀ text ∈ bareText? css, ¬ ['/', '*'] <:+: text := by decide +kernel
  obtain ⟨_, _, strings, same⟩ := minify_strings valid unmarked
  refine ⟨valid, unmarked, by decide +kernel, ?_, ?_⟩
  · rw [strings]
    decide +kernel
  · rw [Ne, same]
    decide +kernel

/-- A comment mark inside a string begins a comment: the string loses its end. -/
theorem minify_unterminated :
    let css := ".a\x7bcontent:\"/*\"\x7d/**/".toList
    check css = .ok () ∧ strings? css = some ["\"/*\"".toList] ∧ minify css = ".a\x7bcontent:\"".toList ∧
      strip (minify css) = none := by
  decide +kernel

end StaticStyles.Css
