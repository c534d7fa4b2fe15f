import Mathlib.Data.List.Chain
import StaticStyles.Proofs.CssText
import StaticStyles.Proofs.TextSearch

/-!
CSS text as tokens: the characters outside strings and comments, and each string and each comment as a whole. A text
has one reading, and a list of tokens is the reading of its text exactly if each token is whole and no two of them open
a comment (`tokens?_eq_some_iff`).
-/
namespace StaticStyles.Css

/-! ## Tokens -/

inductive Token where
  | char (c : Char)
  | string (text : List Char)
  | comment (text : List Char)
deriving DecidableEq

namespace Token

def text : Token → List Char
  | char c => [c]
  | string text => text
  | comment text => text

def isComment : Token → Bool
  | char _ => false
  | string _ => false
  | comment _ => true

def string? : Token → Option (List Char)
  | char _ => none
  | string text => some text
  | comment _ => none

def char? : Token → Option Char
  | char c => some c
  | string _ => none
  | comment _ => none

/-- One more character at the front of the string or comment that comes first. -/
def extend (c : Char) : List Token → List Token
  | string text :: rest => string (c :: text) :: rest
  | comment text :: rest => comment (c :: text) :: rest
  | tokens => tokens

end Token

open Token

/-- The tokens of a text, read from a context on; the first is the rest of a string or comment that is open. None if
one of them never ends. -/
def tokensFrom : Context → List Char → Option (List Token)
  | .plain, [] => some []
  | .quote _, [] => none
  | .comment _, [] => none
  | .plain, '\'' :: rest => (tokensFrom (.quote '\'') rest).map (extend '\'')
  | .plain, '"' :: rest => (tokensFrom (.quote '"') rest).map (extend '"')
  | .plain, '/' :: '*' :: rest => (tokensFrom (.comment false) rest).map fun tokens => extend '/' (extend '*' tokens)
  | .plain, c :: rest => (tokensFrom .plain rest).map (char c :: ·)
  | .quote _, ['\\'] => none
  | .quote mark, '\\' :: c :: rest => (tokensFrom (.quote mark) rest).map fun tokens => extend '\\' (extend c tokens)
  | .quote mark, c :: rest =>
    if c = mark then (tokensFrom .plain rest).map (string [c] :: ·)
    else (tokensFrom (.quote mark) rest).map (extend c)
  | .comment star, c :: rest =>
    if star && c = '/' then (tokensFrom .plain rest).map (comment [c] :: ·)
    else (tokensFrom (.comment (c = '*')) rest).map (extend c)

/-- The tokens of a text; none if a string or comment never ends. -/
def tokens? (text : List Char) : Option (List Token) := tokensFrom .plain text

def written (tokens : List Token) : List Char := tokens.flatMap Token.text

/-- The strings among tokens, with their quotes. -/
def stringsOf (tokens : List Token) : List (List Char) := tokens.filterMap string?

/-- The characters among tokens. -/
def outsideOf (tokens : List Token) : List Char := tokens.filterMap char?

theorem outsideOf_extend (c : Char) (tokens : List Token) : outsideOf (extend c tokens) = outsideOf tokens := by
  unfold extend
  split <;> rfl

/-- Stripping leaves the characters that are tokens of their own. -/
theorem stripFrom_eq_map_tokensFrom (context : Context) (text : List Char) :
    stripFrom context text = (tokensFrom context text).map outsideOf := by
  fun_induction stripFrom context text with
  | case1 | case2 | case3 | case8 => rfl
  | case4 rest ih | case5 rest ih | case6 rest ih | case9 mark c rest ih =>
    rw [tokensFrom, ih, Option.map_map]
    simp only [Function.comp_def, outsideOf_extend]
  | case7 c rest single double opening ih =>
    rw [tokensFrom, ih, Option.map_map, Option.map_map]
    · rfl
    all_goals assumption
  | case10 mark c rest last escape ih =>
    rw [tokensFrom]
    · split
      · next closes =>
        rw [if_pos closes] at ih
        rw [ih, Option.map_map]
        rfl
      · next inside =>
        rw [if_neg inside] at ih
        rw [ih, Option.map_map]
        simp only [Function.comp_def, outsideOf_extend]
    all_goals assumption
  | case11 star c rest ih =>
    rw [tokensFrom]
    split
    · next closes =>
      rw [if_pos closes] at ih
      rw [ih, Option.map_map]
      rfl
    · next inside =>
      rw [if_neg inside] at ih
      rw [ih, Option.map_map]
      simp only [Function.comp_def, outsideOf_extend]

theorem strip_eq (text : List Char) : strip text = (tokens? text).map outsideOf :=
  stripFrom_eq_map_tokensFrom .plain text

/-! ## Whole tokens -/

/-- Whether a string ends with this text and not before, `escaped` by a backslash before it or not. -/
def closesString (mark : Char) : (escaped : Bool) → List Char → Bool
  | _, [] => false
  | true, _ :: rest => closesString mark false rest
  | false, c :: rest =>
    if c = '\\' then closesString mark true rest
    else if c = mark then rest.isEmpty
    else closesString mark false rest

/-- What follows a character of a string can be exchanged for a text that is empty if that was, and that ends the
string wherever that did. -/
theorem closesString_cons {mark c : Char} {escaped : Bool} {rest changed : List Char}
    (closes : closesString mark escaped (c :: rest) = true) (ends : rest = [] → changed = [])
    (later : ∀ {taken : Bool}, (taken = true → c = '\\') → closesString mark taken rest = true →
      closesString mark taken changed = true) : closesString mark escaped (c :: changed) = true := by
  cases escaped with
  | true => exact later (by simp) closes
  | false =>
    rw [closesString] at closes ⊢
    split at closes
    · next escapes =>
      rw [if_pos escapes]
      exact later (fun _ => escapes) closes
    · next plain =>
      rw [if_neg plain]
      split at closes
      · next closing =>
        rw [if_pos closing, ends (List.isEmpty_iff.mp closes)]
        rfl
      · next inner =>
        rw [if_neg inner]
        exact later (by simp) closes

/-- Whether a comment ends with this text and not before, with a star before it or not. -/
def closesComment : (star : Bool) → List Char → Bool
  | _, [] => false
  | star, c :: rest => if star && c = '/' then rest.isEmpty else closesComment (c = '*') rest

def isStringMark (c : Char) : Bool := c = '\'' || c = '"'

/-- A character that opens no string, or a string or comment from its opening to its end. -/
def Token.isWhole : Token → Bool
  | char c => !isStringMark c
  | string (mark :: rest) => isStringMark mark && closesString mark false rest
  | comment ('/' :: '*' :: rest) => closesComment false rest
  | _ => false

/-- A slash and a star that would open a comment. -/
def Opens (a b : Token) : Prop := a = char '/' ∧ b = char '*'

/-- Whole tokens of which no two open a comment. -/
structure IsReading (tokens : List Token) : Prop where
  whole : ∀ token ∈ tokens, token.isWhole = true
  apart : tokens.IsChain fun a b => ¬ Opens a b

theorem isReading_nil : IsReading [] := ⟨by simp, .nil⟩

theorem IsReading.cons {token : Token} {tokens : List Token} (reading : IsReading tokens)
    (whole : token.isWhole = true) (apart : ∀ next ∈ tokens.head?, ¬ Opens token next) : IsReading (token :: tokens) :=
  ⟨List.forall_mem_cons.mpr ⟨whole, reading.whole⟩, reading.apart.cons apart⟩

theorem IsReading.tail {token : Token} {tokens : List Token} (reading : IsReading (token :: tokens)) :
    IsReading tokens :=
  ⟨(List.forall_mem_cons.mp reading.whole).2, reading.apart.tail⟩

/-- What tokens are when they are read from a context on. -/
def Continues : Context → List Token → Prop
  | .plain, tokens => IsReading tokens
  | .quote mark, string rest :: tokens => closesString mark false rest = true ∧ IsReading tokens
  | .comment star, comment rest :: tokens => closesComment star rest = true ∧ IsReading tokens
  | _, _ => False

theorem exists_of_continues_quote {mark : Char} {tokens : List Token} (continues : Continues (.quote mark) tokens) :
    ∃ rest later, tokens = string rest :: later ∧ closesString mark false rest = true ∧ IsReading later := by
  cases tokens with
  | nil => contradiction
  | cons token later =>
    cases token with
    | string rest => exact ⟨rest, later, rfl, continues⟩
    | char | comment => contradiction

theorem exists_of_continues_comment {star : Bool} {tokens : List Token}
    (continues : Continues (.comment star) tokens) :
    ∃ rest later, tokens = comment rest :: later ∧ closesComment star rest = true ∧ IsReading later := by
  cases tokens with
  | nil => contradiction
  | cons token later =>
    cases token with
    | comment rest => exact ⟨rest, later, rfl, continues⟩
    | char | string => contradiction

theorem written_cons (token : Token) (tokens : List Token) : written (token :: tokens) = token.text ++ written tokens :=
  rfl

theorem continues_of_tokensFrom {context : Context} {text : List Char} {tokens : List Token}
    (read : tokensFrom context text = some tokens) : written tokens = text ∧ Continues context tokens := by
  fun_induction tokensFrom context text generalizing tokens with
  | case1 =>
    obtain rfl := Option.some.inj read
    exact ⟨rfl, isReading_nil⟩
  | case2 | case3 | case8 => contradiction
  | case4 rest ih | case5 rest ih =>
    obtain ⟨later, reads, rfl⟩ := Option.map_eq_some_iff.mp read
    obtain ⟨text, continues⟩ := ih reads
    obtain ⟨inside, later, rfl, closes, reading⟩ := exists_of_continues_quote continues
    refine ⟨congrArg (_ :: ·) text, reading.cons ?_ ?_⟩
    · exact closes
    · rintro next _ ⟨opens, _⟩
      contradiction
  | case6 rest ih =>
    obtain ⟨later, reads, rfl⟩ := Option.map_eq_some_iff.mp read
    obtain ⟨text, continues⟩ := ih reads
    obtain ⟨inside, later, rfl, closes, reading⟩ := exists_of_continues_comment continues
    refine ⟨congrArg (fun text => '/' :: '*' :: text) text, reading.cons closes ?_⟩
    rintro next _ ⟨opens, _⟩
    contradiction
  | case7 c rest single double opening ih =>
    obtain ⟨later, reads, rfl⟩ := Option.map_eq_some_iff.mp read
    obtain ⟨text, reading⟩ := ih reads
    refine ⟨congrArg (c :: ·) text, IsReading.cons reading ?_ ?_⟩
    · simpa [Token.isWhole, isStringMark] using ⟨single, double⟩
    · -- a star behind a slash would have opened a comment
      rintro next first ⟨slash, rfl⟩
      obtain ⟨others, rfl⟩ := List.head?_eq_some_iff.mp first
      exact opening (written others) (Token.char.inj slash) text.symm
  | case9 mark c rest ih =>
    obtain ⟨later, reads, rfl⟩ := Option.map_eq_some_iff.mp read
    obtain ⟨text, continues⟩ := ih reads
    obtain ⟨inside, later, rfl, closes, reading⟩ := exists_of_continues_quote continues
    refine ⟨congrArg (fun text => '\\' :: c :: text) text, ?_, reading⟩
    exact closes
  | case10 mark rest last escape ih =>
    obtain ⟨later, reads, rfl⟩ := Option.map_eq_some_iff.mp read
    obtain ⟨text, reading⟩ := ih reads
    have plain := Text.ne_backslash last escape
    exact ⟨congrArg (mark :: ·) text, by simp [closesString, plain], reading⟩
  | case11 mark c rest last escape inside ih =>
    obtain ⟨later, reads, rfl⟩ := Option.map_eq_some_iff.mp read
    obtain ⟨text, continues⟩ := ih reads
    obtain ⟨within, later, rfl, closes, reading⟩ := exists_of_continues_quote continues
    have plain := Text.ne_backslash last escape
    exact ⟨congrArg (c :: ·) text, by simpa [closesString, plain, inside] using closes, reading⟩
  | case12 star c rest closes ih =>
    obtain ⟨later, reads, rfl⟩ := Option.map_eq_some_iff.mp read
    obtain ⟨text, reading⟩ := ih reads
    exact ⟨congrArg (c :: ·) text, by rw [closesComment, if_pos closes]; rfl, reading⟩
  | case13 star c rest inside ih =>
    obtain ⟨later, reads, rfl⟩ := Option.map_eq_some_iff.mp read
    obtain ⟨text, continues⟩ := ih reads
    obtain ⟨within, later, rfl, closes, reading⟩ := exists_of_continues_comment continues
    exact ⟨congrArg (c :: ·) text, by rw [closesComment, if_neg inside]; exact closes, reading⟩

/-! ## Reading tokens -/

theorem tokensFrom_quote {mark : Char} (plain : mark ≠ '\\') {inside : List Char}
    (closes : closesString mark false inside = true) (rest : List Char) :
    tokensFrom (.quote mark) (inside ++ rest) = (tokensFrom .plain rest).map (string inside :: ·) := by
  match inside with
  | [] => contradiction
  | c :: inside =>
    by_cases escape : c = '\\'
    · subst escape
      cases inside with
      | nil => contradiction
      | cons d inside =>
        have later : closesString mark false inside = true := closes
        rw [List.cons_append, List.cons_append, tokensFrom, tokensFrom_quote plain later, Option.map_map]
        rfl
    · rw [closesString, if_neg escape] at closes
      rw [List.cons_append, tokensFrom]
      · split at closes
        · next ends =>
          rw [List.isEmpty_iff.mp closes, List.nil_append, if_pos ends]
        · next inner =>
          rw [if_neg inner, tokensFrom_quote plain closes, Option.map_map]
          rfl
      · exact fun same _ => escape same
      · exact fun _ _ same _ => escape same
termination_by inside.length

theorem tokensFrom_comment {star : Bool} {inside : List Char} (closes : closesComment star inside = true)
    (rest : List Char) :
    tokensFrom (.comment star) (inside ++ rest) = (tokensFrom .plain rest).map (comment inside :: ·) := by
  induction inside generalizing star with
  | nil => contradiction
  | cons c inside ih =>
    rw [closesComment] at closes
    rw [List.cons_append, tokensFrom]
    split at closes
    · next ends => rw [List.isEmpty_iff.mp closes, List.nil_append, if_pos ends]
    · next inner =>
      rw [if_neg inner, ih closes, Option.map_map]
      rfl

theorem isStringMark_iff {c : Char} : isStringMark c = true ↔ c = '\'' ∨ c = '"' := by simp [isStringMark]

theorem exists_of_whole_string {text : List Char} (whole : (string text).isWhole = true) :
    ∃ mark inside, text = mark :: inside ∧ isStringMark mark = true ∧ closesString mark false inside = true := by
  cases text with
  | nil => contradiction
  | cons mark inside =>
    rw [Token.isWhole, Bool.and_eq_true] at whole
    exact ⟨mark, inside, rfl, whole⟩

theorem exists_of_whole_comment {text : List Char} (whole : (comment text).isWhole = true) :
    ∃ inside, text = '/' :: '*' :: inside ∧ closesComment false inside = true := by
  unfold Token.isWhole at whole
  split at whole
  · contradiction
  · contradiction
  · next inside same =>
    obtain rfl := Token.comment.inj same
    exact ⟨inside, rfl, whole⟩
  · contradiction

/-- No string and no comment begins with a star. -/
theorem eq_star_of_head {tokens : List Token} (whole : ∀ token ∈ tokens, token.isWhole = true)
    (star : (written tokens).head? = some '*') : tokens.head? = some (char '*') := by
  cases tokens with
  | nil => contradiction
  | cons token tokens =>
    have first := (List.forall_mem_cons.mp whole).1
    cases token with
    | char c =>
      obtain rfl := Option.some.inj star
      rfl
    | string text =>
      obtain ⟨mark, inside, rfl, quote, _⟩ := exists_of_whole_string first
      obtain rfl := Option.some.inj star
      contradiction
    | comment text =>
      obtain ⟨inside, rfl, _⟩ := exists_of_whole_comment first
      have slash : '/' = '*' := Option.some.inj star
      contradiction

theorem tokens?_written {tokens : List Token} (reading : IsReading tokens) :
    tokens? (written tokens) = some tokens := by
  induction tokens with
  | nil => rfl
  | cons token tokens ih =>
    have later : tokensFrom .plain (written tokens) = some tokens := ih reading.tail
    have whole := (List.forall_mem_cons.mp reading.whole).1
    rw [tokens?, written_cons]
    cases token with
    | char c =>
      have other : c ≠ '\'' ∧ c ≠ '"' := by simpa [Token.isWhole, isStringMark] using whole
      have apart : ∀ rest, c = '/' → written tokens = '*' :: rest → False := by
        intro rest slash star
        have next := eq_star_of_head reading.tail.whole (by rw [star]; rfl)
        exact reading.apart.rel_head? next ⟨congrArg char slash, rfl⟩
      rw [Token.text, List.singleton_append, tokensFrom, later]
      · rfl
      · exact other.1
      · exact other.2
      · exact apart
    | string text =>
      obtain ⟨mark, inside, rfl, quote, closes⟩ := exists_of_whole_string whole
      rcases isStringMark_iff.mp quote with rfl | rfl
      · rw [Token.text, List.cons_append, tokensFrom, tokensFrom_quote (by decide) closes, later]
        rfl
      · rw [Token.text, List.cons_append, tokensFrom, tokensFrom_quote (by decide) closes, later]
        rfl
    | comment text =>
      obtain ⟨inside, rfl, closes⟩ := exists_of_whole_comment whole
      rw [Token.text, List.cons_append, List.cons_append, tokensFrom, tokensFrom_comment closes, later]
      rfl

/-- A text has one reading as tokens. -/
theorem tokens?_eq_some_iff {text : List Char} {tokens : List Token} :
    tokens? text = some tokens ↔ written tokens = text ∧ IsReading tokens := by
  constructor
  · exact continues_of_tokensFrom
  · rintro ⟨rfl, reading⟩
    exact tokens?_written reading

end StaticStyles.Css
