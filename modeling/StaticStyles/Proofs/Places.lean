import Mathlib.Logic.Basic
import StaticStyles.Css.Check
import StaticStyles.Proofs.CssText
import StaticStyles.Proofs.TextSearch

/-!
Reading CSS one character after the other. Where a reader stands behind a text decides whether the text ends its
strings and comments, and what it passes outside of them are the text's delimiters (`delimiters?_eq`). From two
places that read the first character alike, the whole text shows the same delimiters (`Alike.delimiters_eq`).
-/
namespace StaticStyles.Css

/-- The delimiters of a text outside its strings and comments, in order; none if one of them never ends. -/
def delimiters? (text : List Char) : Option (List Char) := (strip text).map (·.filter isDelimiter)

/-! ## Places -/

/-- The two quotes that open strings. -/
inductive Quote where
  | single
  | double
deriving DecidableEq

def Quote.char : Quote → Char
  | single => '\''
  | double => '"'

/-- Where a reader of CSS stands between two characters. A star opens a comment if a slash has gone before, a string
does not end at an escaped character, and a slash ends a comment if a star has gone before. -/
inductive Place where
  | outside (slash : Bool)
  | string (quote : Quote) (escaped : Bool)
  | comment (star : Bool)
deriving DecidableEq

namespace Place

def isOutside : Place → Bool
  | outside _ => true
  | string _ _ => false
  | comment _ => false

/-- The place behind one more character. -/
def next : Place → Char → Place
  | outside slash, c =>
    if slash && c = '*' then comment false
    else if c = '\'' then string .single false
    else if c = '"' then string .double false
    else outside (c = '/')
  | string quote true, _ => string quote false
  | string quote false, c =>
    if c = '\\' then string quote true
    else if c = quote.char then outside false
    else string quote false
  | comment star, c => if star && c = '/' then outside false else comment (c = '*')

def after (place : Place) (text : List Char) : Place := text.foldl next place

/-- The delimiters of a text that stand outside, if it is read from a place on. -/
def delimiters : Place → List Char → List Char
  | _, [] => []
  | place, c :: rest =>
    if place.isOutside && isDelimiter c then c :: (place.next c).delimiters rest
    else (place.next c).delimiters rest

@[simp] theorem after_cons (place : Place) (c : Char) (rest : List Char) :
    place.after (c :: rest) = (place.next c).after rest := rfl

theorem after_append (place : Place) (a b : List Char) : place.after (a ++ b) = (place.after a).after b :=
  List.foldl_append

theorem delimiters_append (place : Place) (a b : List Char) :
    place.delimiters (a ++ b) = place.delimiters a ++ (place.after a).delimiters b := by
  induction a generalizing place with
  | nil => rfl
  | cons c a ih =>
    simp only [List.cons_append, delimiters, ih, after_cons]
    split <;> rfl

/-- A text without delimiters shows none, wherever it is read. -/
theorem delimiters_eq_nil {text : List Char} (none : ∀ c ∈ text, isDelimiter c = false) (place : Place) :
    place.delimiters text = [] := by
  induction text generalizing place with
  | nil => rfl
  | cons c text ih =>
    obtain ⟨first, others⟩ := List.forall_mem_cons.mp none
    rw [delimiters, first, Bool.and_false]
    exact ih others _

/-- A character that is neither a quote nor part of the sign that opens a comment stays outside. -/
theorem next_outside {c : Char} (plain : c ≠ '\'' ∧ c ≠ '"' ∧ c ≠ '/' ∧ c ≠ '*') (slash : Bool) :
    (outside slash).next c = outside false := by
  obtain ⟨single, double, slashes, star⟩ := plain
  simp [next, single, double, slashes, star]

theorem eq_slash_of_next {place : Place} {c : Char} (opens : place.next c = .outside true) : c = '/' := by
  cases place with
  | outside slash =>
    rw [next] at opens
    split at opens
    · contradiction
    · split at opens
      · contradiction
      · split at opens
        · contradiction
        · simpa using opens
  | string quote escaped =>
    cases escaped with
    | true => contradiction
    | false =>
      rw [next] at opens
      split at opens
      · contradiction
      · split at opens <;> simp at opens
  | comment star =>
    rw [next] at opens
    split at opens <;> simp at opens

/-- Where a star would open a comment, the text has a slash at its end. -/
theorem getLast?_of_after {place : Place} {text : List Char} (opens : place.after text = .outside true)
    (nonempty : text ≠ []) : text.getLast? = some '/' := by
  rcases List.eq_nil_or_concat text with rfl | ⟨start, c, rfl⟩
  · contradiction
  · rw [List.concat_eq_append, after_append] at opens
    rw [List.concat_eq_append, List.getLast?_concat, eq_slash_of_next opens]

/-! ## Texts read alike -/

/-- From both places a text is read alike: both are outside or neither is, and its first character leads to
one place. -/
def Alike (text : List Char) (p q : Place) : Prop :=
  p.isOutside = q.isOutside ∧ text.head?.map p.next = text.head?.map q.next

instance (text : List Char) (p q : Place) : Decidable (Alike text p q) :=
  inferInstanceAs (Decidable (_ ∧ _))

variable {p q r : Place} {a b text : List Char}

theorem Alike.refl (text : List Char) (p : Place) : Alike text p p := ⟨rfl, rfl⟩

theorem Alike.trans (first : Alike text p q) (second : Alike text q r) : Alike text p r :=
  ⟨first.1.trans second.1, first.2.trans second.2⟩

theorem Alike.next_eq {c : Char} (alike : Alike (c :: text) p q) : p.next c = q.next c := Option.some.inj alike.2

theorem Alike.left (alike : Alike (a ++ b) p q) : Alike a p q := by
  refine ⟨alike.1, ?_⟩
  cases a with
  | nil => rfl
  | cons c a => exact alike.2

theorem Alike.delimiters_eq (alike : Alike text p q) : p.delimiters text = q.delimiters text := by
  cases text with
  | nil => rfl
  | cons c rest => rw [delimiters, delimiters, alike.1, alike.next_eq]

theorem Alike.append (alike : Alike (a ++ b) p q) : Alike b (p.after a) (q.after a) := by
  cases a with
  | nil => exact alike
  | cons c a =>
    rw [after_cons, after_cons, alike.next_eq]
    exact .refl _ _

theorem Alike.isOutside_after (alike : Alike text p q) : (p.after text).isOutside = (q.after text).isOutside := by
  have whole : Alike (text ++ []) p q := by rwa [List.append_nil]
  exact whole.append.1

/-- Whether a slash has gone before matters only to a star. -/
theorem alike_outside {slash : Bool} (apart : slash = true → text.head? ≠ some '*') :
    Alike text (outside slash) (outside false) := by
  refine ⟨rfl, ?_⟩
  cases text with
  | nil => rfl
  | cons c rest =>
    have other : (slash && decide (c = '*')) = false := by
      rw [Bool.and_eq_false_iff, decide_eq_false_iff_not, ← Bool.not_eq_true]
      by_cases pending : slash = true
      · exact .inr fun star => apart pending (congrArg some star)
      · exact .inl pending
    simp [next, other]

/-- Outside, a character that opens nothing is shown if it is a delimiter, and what follows is read as from there. -/
theorem delimiters_cons {c : Char} {rest : List Char} (alike : Alike rest ((outside false).next c) (outside false)) :
    (outside false).delimiters (c :: rest) = [c].filter isDelimiter ++ (outside false).delimiters rest := by
  have alone : (outside false).delimiters [c] = [c].filter isDelimiter := by
    simp [delimiters, isOutside, List.filter_cons]
  rw [← alone, ← alike.delimiters_eq]
  exact delimiters_append (outside false) [c] rest

/-- A slash that opens no comment is forgotten with the next character. -/
theorem alike_next {c : Char} {rest : List Char} (single : c ≠ '\'') (double : c ≠ '"')
    (opening : ∀ later, c = '/' → rest = '*' :: later → False) :
    Alike rest ((outside false).next c) (outside false) := by
  have step : (outside false).next c = outside (c = '/') := by
    rw [next, if_neg (by simp), if_neg single, if_neg double]
  rw [step]
  refine alike_outside ?_
  intro slash star
  obtain ⟨later, rfl⟩ := List.head?_eq_some_iff.mp star
  exact opening later (of_decide_eq_true slash) rfl

/-! ## Stripping -/

/-- A place between two tokens, where nothing of the next token has been read. -/
inductive Reads : Place → Context → Prop where
  | plain : Reads (outside false) .plain
  | quote (quote : Quote) : Reads (string quote false) (.quote quote.char)
  | comment (star : Bool) : Reads (comment star) (.comment star)

/-- Stripping leaves the delimiters that stand outside. -/
theorem map_stripFrom {place : Place} {context : Context} (reads : place.Reads context) (text : List Char) :
    (stripFrom context text).map (·.filter isDelimiter) =
      if (place.after text).isOutside then some (place.delimiters text) else none := by
  fun_induction stripFrom context text generalizing place with
  | case1 | case2 | case3 | case8 =>
    cases reads
    rfl
  | case4 rest ih =>
    cases reads
    exact ih (.quote .single)
  | case5 rest ih =>
    cases reads
    exact ih (.quote .double)
  | case6 rest ih =>
    cases reads
    exact ih (.comment false)
  | case7 c rest single double opening ih =>
    cases reads
    have alike := alike_next single double opening
    calc ((stripFrom .plain rest).map (c :: ·)).map (·.filter isDelimiter)
        = ((stripFrom .plain rest).map (·.filter isDelimiter)).map ([c].filter isDelimiter ++ ·) := by
          rw [Option.map_map, Option.map_map]
          congr 1
          funext text
          exact List.filter_append [c] text
      _ = if ((outside false).after (c :: rest)).isOutside then some ((outside false).delimiters (c :: rest))
          else none := by
        rw [ih .plain, after_cons, alike.isOutside_after, delimiters_cons alike]
        split <;> rfl
  | case9 mark c rest ih =>
    cases reads with
    | quote quote => exact ih (.quote quote)
  | case10 mark c rest last escape ih =>
    cases reads with
    | quote quote =>
      have plain := Text.ne_backslash last escape
      have step : (string quote false).next c = if c = quote.char then outside false else string quote false :=
        if_neg plain
      have reads : ((string quote false).next c).Reads (if c = quote.char then .plain else .quote quote.char) := by
        rw [step]
        split
        · exact .plain
        · exact .quote quote
      exact ih reads
  | case11 star c rest ih =>
    cases reads
    have reads : ((comment star).next c).Reads (if star && c = '/' then .plain else .comment (c = '*')) := by
      rw [next]
      split
      · exact .plain
      · exact .comment _
    exact ih reads

end Place

theorem delimiters?_eq (text : List Char) :
    delimiters? text =
      if ((Place.outside false).after text).isOutside then some ((Place.outside false).delimiters text) else none :=
  Place.map_stripFrom .plain text

end StaticStyles.Css
