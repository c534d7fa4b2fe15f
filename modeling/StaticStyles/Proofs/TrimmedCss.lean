import StaticStyles.Proofs.Confinement
import StaticStyles.Proofs.ScriptSigns

/-!
Accepted CSS without the white space at its ends. White space there has no part in anything that a check looks for, so
what is accepted is accepted trimmed (`check_trim`).
-/
namespace StaticStyles

namespace Text
variable {text rest tail : List Char}

/-! ## White space behind a text -/

theorem after?_append_right {word : String} (found : after? word text = some rest) (tail : List Char) :
    after? word (text ++ tail) = some (rest ++ tail) := by
  refine afterChars?_eq_some_iff.mpr ?_
  rw [afterChars?_eq_some_iff.mp found, List.append_assoc]

theorem skipBlanks_append_right {c : Char} (begins : skipBlanks text = c :: rest) (tail : List Char) :
    skipBlanks (text ++ tail) = c :: (rest ++ tail) := by
  have shown : (text.dropWhile isBlank).isEmpty = false := by
    have begins : text.dropWhile isBlank = c :: rest := begins
    rw [begins, List.isEmpty_cons]
  rw [skipBlanks, List.dropWhile_append, if_neg (by simp [shown])]
  exact congrArg (· ++ tail) begins

theorem head?_any_append {p : Char → Bool} (first : text.head?.any p = true) (tail : List Char) :
    (text ++ tail).head?.any p = true := by
  cases text with
  | nil => contradiction
  | cons c text => exact first

theorem isNamePart_of_isBlank {c : Char} (blank : isBlank c = true) : isNamePart c = false := by
  rw [Bool.eq_false_iff]
  intro part
  rw [isNamePart, Bool.or_eq_true, decide_eq_true_eq] at part
  rcases part with letter | rfl
  · rw [isBlank_of_isWord letter] at blank
    contradiction
  · contradiction

/-- A name ends where white space follows. -/
theorem name?_append_right {name : List Char} (found : name? text = some (name, rest))
    (blank : isBlankText tail = true) : name? (text ++ tail) = some (name, rest ++ tail) := by
  have stops : ∀ c ∈ tail, ¬ isNamePart c = true := by
    intro c member part
    rw [isNamePart_of_isBlank (List.all_eq_true.mp blank c member)] at part
    contradiction
  have none : tail.takeWhile isNamePart = [] ∧ tail.dropWhile isNamePart = tail := by
    cases tail with
    | nil => exact ⟨rfl, rfl⟩
    | cons c tail =>
      have stop := stops c List.mem_cons_self
      exact ⟨List.takeWhile_cons_of_neg stop, List.dropWhile_cons_of_neg stop⟩
  cases text with
  | nil => contradiction
  | cons c text =>
    rw [name?] at found
    by_cases starts : isNameStart c = true
    · rw [if_pos starts] at found
      obtain ⟨rfl, rfl⟩ := Prod.mk.inj (Option.some.inj found)
      have parts : (text ++ tail).takeWhile isNamePart = text.takeWhile isNamePart ∧
          (text ++ tail).dropWhile isNamePart = text.dropWhile isNamePart ++ tail := by
        induction text with
        | nil => exact none
        | cons d text ih =>
          by_cases part : isNamePart d = true
          · simp [part, ih]
          · simp [part]
      rw [List.cons_append, name?, if_pos starts, parts.1, parts.2]
    · rw [if_neg starts] at found
      contradiction

end Text

namespace Css
open Text
variable {text tail : List Char}

/-! ## Signs of script -/

theorem separates_of_isBlank {c : Char} (blank : isBlank c = true) : separates c = true := by
  have other {d : Char} (solid : isBlank d = false) : c ≠ d := ne_of_isBlank blank solid
  have letter : isWord c = false := by
    rw [Bool.eq_false_iff]
    intro letter
    rw [isBlank_of_isWord letter] at blank
    contradiction
  have equals : c ≠ '=' := other (by decide)
  have greater : c ≠ '>' := other (by decide)
  have dollar : c ≠ '$' := other (by decide)
  have brace : c ≠ '\x7b' := other (by decide)
  simp [separates, letter, equals, greater, dollar, brace]

theorem endsWord_append_right (ends : endsWord text = true) (blank : isBlankText tail = true) :
    endsWord (text ++ tail) = true := by
  cases tail with
  | nil => rwa [List.append_nil]
  | cons c tail =>
    have first : isBlank c = true := (Bool.and_eq_true_iff.mp blank).1
    rwa [endsWord_append (not_isWord_of_separates (separates_of_isBlank first))]

theorem beginsWithWord_append_right {words : List String} (begins : beginsWithWord words text = true)
    (blank : isBlankText tail = true) : beginsWithWord words (text ++ tail) = true := by
  obtain ⟨word, listed, begins⟩ := List.any_eq_true.mp begins
  obtain ⟨rest, found, ends⟩ := (Option.any_eq_true _ _).mp begins
  refine List.any_eq_true.mpr ⟨word, listed, ?_⟩
  rw [after?_append_right found]
  exact endsWord_append_right ends blank

theorem beginsBinding_append_right (begins : beginsBinding text = true) (tail : List Char) :
    beginsBinding (text ++ tail) = true := by
  obtain ⟨word, listed, begins⟩ := List.any_eq_true.mp begins
  obtain ⟨rest, found, begins⟩ := (Option.any_eq_true _ _).mp begins
  obtain ⟨gap, named⟩ := Bool.and_eq_true_iff.mp begins
  refine List.any_eq_true.mpr ⟨word, listed, ?_⟩
  rw [after?_append_right found, Option.any_some, head?_any_append gap, Bool.true_and]
  cases behind : skipBlanks rest with
  | nil =>
    rw [behind] at named
    contradiction
  | cons c more =>
    rw [behind] at named
    rwa [skipBlanks_append_right behind]

theorem beginsFunction_append_right (begins : beginsFunction text = true) (blank : isBlankText tail = true) :
    beginsFunction (text ++ tail) = true := by
  rw [beginsFunction, Bool.or_eq_true] at begins ⊢
  rcases begins with begins | begins
  · exact .inl (beginsWithWord_append_right begins blank)
  · obtain ⟨rest, found, begins⟩ := (Option.any_eq_true _ _).mp begins
    obtain ⟨gap, called⟩ := Bool.and_eq_true_iff.mp begins
    refine .inr ?_
    rw [after?_append_right found, Option.any_some, head?_any_append gap, Bool.true_and]
    cases behind : skipBlanks rest with
    | nil =>
      rw [behind] at called
      contradiction
    | cons c more =>
      rw [behind] at called
      rw [skipBlanks_append_right behind]
      exact beginsWithWord_append_right called blank

theorem beginsAssignment_append_right (begins : beginsAssignment text = true) (blank : isBlankText tail = true) :
    beginsAssignment (text ++ tail) = true := by
  obtain ⟨⟨name, rest⟩, found, begins⟩ := (Option.any_eq_true _ _).mp begins
  rw [beginsAssignment, name?_append_right found blank, Option.any_some]
  dsimp only at begins ⊢
  split at begins
  · next c more behind => rwa [skipBlanks_append_right behind]
  · contradiction

/-- White space around a text adds no sign that begins inside it, and takes none away. -/
theorem occurs_of_surrounded {lead trail : List Char} (before : isBlankText lead = true)
    (behind : isBlankText trail = true) (none_here : occurs scriptHere none (lead ++ (text ++ trail)) = false) :
    occurs scriptHere none text = false := by
  have front : occurs scriptHere none (text ++ trail) = false := by
    rcases List.eq_nil_or_concat lead with rfl | ⟨lead, c, rfl⟩
    · exact none_here
    · have blank : isBlank c = true := by
        rw [isBlankText, List.concat_eq_append, List.all_append, Bool.and_eq_true] at before
        simpa using before.2
      rw [List.concat_eq_append, List.append_assoc, List.singleton_append,
        occurs_append_separator (separates_of_isBlank blank), Bool.or_eq_false_iff] at none_here
      exact none_here.2
  cases trail with
  | nil => rwa [List.append_nil] at front
  | cons c trail =>
    have blank : isBlank c = true := (Bool.and_eq_true_iff.mp behind).1
    rw [occurs_append_separator (separates_of_isBlank blank), Bool.or_eq_false_iff] at front
    exact front.1

theorem looksLikeScript_trim (plain : looksLikeScript text = false) : looksLikeScript (trim text) = false := by
  by_cases empty : trim text = []
  · rw [empty]
    decide +kernel
  · obtain ⟨lead, trail, whole, before, behind⟩ := exists_trim text
    have before : isBlankText lead = true := List.all_eq_true.mpr before
    have behind : isBlankText trail = true := List.all_eq_true.mpr behind
    obtain ⟨c, more, begins⟩ := List.exists_cons_of_ne_nil empty
    have core : skipBlanks (trim text) = c :: more := by
      rw [begins, skipBlanks_cons]
      exact (isTrimmed_trim text).first c (by rw [begins]; rfl)
    have start : skipBlanks text = trim text ++ trail := by
      conv_lhs => rw [whole]
      rw [skipBlanks_passed before, skipBlanks_append_right core, begins, List.cons_append]
    have kept {shown more_shown : Bool} (more : shown = true → more_shown = true) (none : more_shown = false) :
        shown = false :=
      Bool.eq_false_iff.mpr fun sign => Bool.eq_false_iff.mp none (more sign)
    simp only [looksLikeScript, start, Bool.or_eq_false_iff] at plain
    obtain ⟨⟨⟨⟨module, binding⟩, function⟩, assignment⟩, anywhere⟩ := plain
    rw [whole] at anywhere
    simp only [looksLikeScript, core, ← begins, Bool.or_eq_false_iff]
    refine ⟨⟨⟨⟨?_, ?_⟩, ?_⟩, ?_⟩, occurs_of_surrounded before behind anywhere⟩
    · exact kept (beginsWithWord_append_right · behind) module
    · exact kept (beginsBinding_append_right · trail) binding
    · exact kept (beginsFunction_append_right · behind) function
    · exact kept (beginsAssignment_append_right · behind) assignment

/-! ## Structure -/

theorem balancedFrom_filter (depth : Nat) (text : List Char) :
    balancedFrom depth (text.filter isDelimiter) = balancedFrom depth text := by
  induction text generalizing depth with
  | nil => rfl
  | cons c text ih =>
    by_cases opens : c = '{'
    · subst opens
      rw [List.filter_cons_of_pos (by decide)]
      simpa [balancedFrom] using ih (depth + 1)
    · by_cases closes : c = '}'
      · subst closes
        rw [List.filter_cons_of_pos (by decide)]
        cases depth with
        | zero => simp [balancedFrom]
        | succ depth => simpa [balancedFrom] using ih depth
      · rw [balancedFrom_other opens closes, ← ih, List.filter_cons]
        split
        · rw [balancedFrom_other opens closes]
        · rfl

/-- Whether a text leaves something open is told by its delimiters. -/
theorem closed_iff : Closed text ↔ ∃ delimiters, delimiters? text = some delimiters ∧ balanced delimiters = true := by
  simp only [Closed, delimiters?, Option.map_eq_some_iff]
  constructor
  · rintro ⟨kept, ended, matched⟩
    exact ⟨_, ⟨kept, ended, rfl⟩, (balancedFrom_filter 0 kept).trans matched⟩
  · rintro ⟨_, ⟨kept, ended, rfl⟩, matched⟩
    exact ⟨kept, ended, (balancedFrom_filter 0 kept).symm.trans matched⟩

theorem Place.isOutside_after_blank (blank : isBlankText text = true) (place : Place) :
    (place.after text).isOutside = place.isOutside := by
  cases text with
  | nil => rfl
  | cons c text =>
    obtain ⟨first, others⟩ := Bool.and_eq_true_iff.mp blank
    have ordinary : text.all isOrdinary = true :=
      List.all_eq_true.mpr fun d member => (ordinary_of_isBlank (List.all_eq_true.mp others d member)).1
    rw [after_cons, next_of_isOrdinary (ordinary_of_isBlank first).1, after_ordinary ordinary, isOutside_next_zero]

theorem delimiters?_trim (text : List Char) : delimiters? (trim text) = delimiters? text := by
  have ends : ((Place.outside false).after (trim text)).isOutside = ((Place.outside false).after text).isOutside := by
    obtain ⟨lead, trail, whole, before, behind⟩ := exists_trim text
    conv_rhs => rw [whole]
    rw [Place.after_append, Place.after_append, after_blank before,
      Place.isOutside_after_blank (List.all_eq_true.mpr behind)]
  rw [delimiters?_eq, delimiters?_eq, ends, delimiters_trim]

theorem closed_trim (closed : Closed text) : Closed (trim text) := by
  rw [closed_iff] at closed ⊢
  rwa [delimiters?_trim]

/-! ## Constructs -/

theorem isPropertyChar_of_isBlank {c : Char} (blank : isBlank c = true) : isPropertyChar c = false := by
  rw [Bool.eq_false_iff]
  intro property
  rw [isPropertyChar, Bool.or_eq_true, decide_eq_true_eq] at property
  rcases property with letter | rfl
  · rw [isBlank_of_isAlphanum (by rw [Char.isAlphanum, letter, Bool.true_or])] at blank
    contradiction
  · contradiction

theorem constructHere_iff {before : Option Char} :
    constructHere before text = true ↔ declarationHere text = true ∨ text.head? = some '{' ∨ text.head? = some '&' ∨
      ∃ c rest, text = '@' :: c :: rest ∧ isPropertyChar c = true := by
  unfold constructHere
  rw [Bool.or_eq_true]
  refine or_congr_right ?_
  split
  · simp
  · simp
  · simp
  · next brace parent rule =>
    refine iff_of_false Bool.false_ne_true ?_
    rintro (first | first | ⟨c, rest, rfl, _⟩)
    · obtain ⟨rest, rfl⟩ := List.head?_eq_some_iff.mp first
      exact brace rest rfl
    · obtain ⟨rest, rfl⟩ := List.head?_eq_some_iff.mp first
      exact parent rest rfl
    · exact rule c rest rfl

theorem not_constructHere_of_isBlank {c : Char} (blank : isBlank c = true) (before : Option Char) (rest : List Char) :
    constructHere before (c :: rest) = false := by
  rw [Bool.eq_false_iff, ne_eq, constructHere_iff, declarationHere, isPropertyChar_of_isBlank blank, Bool.false_and]
  rintro (shown | first | first | ⟨_, _, same, _⟩)
  · contradiction
  · rw [Option.some.inj first] at blank
    contradiction
  · rw [Option.some.inj first] at blank
    contradiction
  · rw [(List.cons.inj same).1] at blank
    contradiction

theorem skipBlanks_append_of_blank (blank : isBlankText tail = true) (empty : skipBlanks text = []) :
    skipBlanks (text ++ tail) = [] := by
  rw [skipBlanks_passed (skipBlanks_eq_nil_iff.mp empty)]
  exact skipBlanks_eq_nil_iff.mpr blank

theorem declarationHere_of_append (shown : declarationHere (text ++ tail) = true) (some_char : text ≠ [])
    (blank : isBlankText tail = true) : declarationHere text = true := by
  obtain ⟨c, rest, rfl⟩ := List.exists_cons_of_ne_nil some_char
  rw [List.cons_append, declarationHere, Bool.and_eq_true] at shown
  obtain ⟨property, shown⟩ := shown
  rw [declarationHere, property, Bool.true_and]
  split at shown
  · next value colon =>
    cases behind : skipBlanks rest with
    | nil =>
      rw [skipBlanks_append_of_blank blank behind] at colon
      contradiction
    | cons d inner =>
      rw [skipBlanks_append_right behind] at colon
      obtain ⟨rfl, rfl⟩ := List.cons.inj colon
      cases first : skipBlanks inner with
      | nil =>
        rw [skipBlanks_append_of_blank blank first] at shown
        contradiction
      | cons v more =>
        rw [skipBlanks_append_right first] at shown
        simpa [first] using shown
  · contradiction

/-- What a construct is made of is not white space behind a text. -/
theorem constructHere_of_append {before : Option Char} (shown : constructHere before (text ++ tail) = true)
    (some_char : text ≠ []) (blank : isBlankText tail = true) : constructHere before text = true := by
  rw [constructHere_iff] at shown ⊢
  obtain ⟨c, rest, rfl⟩ := List.exists_cons_of_ne_nil some_char
  rcases shown with shown | first | first | ⟨d, more, same, property⟩
  · exact .inl (declarationHere_of_append shown some_char blank)
  · exact .inr (.inl first)
  · exact .inr (.inr (.inl first))
  · obtain ⟨rfl, split⟩ := List.cons.inj same
    cases rest with
    | nil =>
      obtain rfl : tail = d :: more := split
      rw [isPropertyChar_of_isBlank (Bool.and_eq_true_iff.mp blank).1] at property
      contradiction
    | cons e rest =>
      obtain ⟨rfl, _⟩ := List.cons.inj split
      exact .inr (.inr (.inr ⟨e, rest, rfl, property⟩))

theorem not_occurs_constructHere_of_blank (blank : isBlankText text = true) (before : Option Char) :
    occurs constructHere before text = false := by
  induction text generalizing before with
  | nil => rfl
  | cons c text ih =>
    obtain ⟨first, others⟩ := Bool.and_eq_true_iff.mp blank
    rw [occurs, not_constructHere_of_isBlank first, ih others, Bool.or_false]

theorem occurs_constructHere_of_append {before : Option Char}
    (shown : occurs constructHere before (text ++ tail) = true) (blank : isBlankText tail = true) :
    occurs constructHere before text = true := by
  induction text generalizing before with
  | nil =>
    rw [List.nil_append, not_occurs_constructHere_of_blank blank] at shown
    contradiction
  | cons c text ih =>
    rw [List.cons_append, occurs, Bool.or_eq_true] at shown
    rw [occurs, Bool.or_eq_true]
    exact shown.imp (constructHere_of_append · (List.cons_ne_nil c text) blank) ih

theorem occurs_constructHere_of_passed {before : Option Char} {lead : List Char}
    (shown : occurs constructHere before (lead ++ text) = true) (blank : isBlankText lead = true) :
    occurs constructHere none text = true := by
  induction lead generalizing before with
  | nil => cases text <;> exact shown
  | cons c lead ih =>
    obtain ⟨first, others⟩ := Bool.and_eq_true_iff.mp blank
    rw [List.cons_append, occurs, not_constructHere_of_isBlank first, Bool.false_or] at shown
    exact ih shown others

theorem hasConstruct_trim (shown : hasConstruct text = true) : hasConstruct (trim text) = true := by
  obtain ⟨lead, trail, whole, before, behind⟩ := exists_trim text
  rw [hasConstruct, whole] at shown
  have front := occurs_constructHere_of_passed shown (List.all_eq_true.mpr before)
  exact occurs_constructHere_of_append front (List.all_eq_true.mpr behind)

/-! ## Accepted text -/

theorem isBlankText_trim (filled : isBlankText text = false) : isBlankText (trim text) = false := by
  rw [Bool.eq_false_iff] at filled ⊢
  intro blank
  refine filled (trim_eq_nil_iff.mp ?_)
  rw [← (isTrimmed_trim text).trim_self]
  exact trim_eq_nil_iff.mpr blank

/-- What is accepted is accepted without the white space at its ends. -/
theorem check_trim (accepted : check text = .ok ()) : check (trim text) = .ok () := by
  obtain ⟨filled, plain, closed, construct⟩ := check_eq_ok_iff.mp accepted
  exact check_eq_ok_iff.mpr
    ⟨isBlankText_trim filled, looksLikeScript_trim plain, closed_trim closed, hasConstruct_trim construct⟩

end Css
end StaticStyles
