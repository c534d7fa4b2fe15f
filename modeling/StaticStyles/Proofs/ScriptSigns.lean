import StaticStyles.Css.Fingerprint
import StaticStyles.Rule.ClassName

/-!
Signs of script in texts put together. No sign goes across a character that belongs to none of them, so a
text shows a sign exactly if one of its pieces does (`occurs_append_separator`), and a class name shows one
exactly if a part of it between hyphens is the word of a statement (`ClassName.occurs_scriptHere`).
-/
namespace StaticStyles.Css
open Text

/-! ## Separators -/

/-- A character that no sign goes across: it is no part of a word, an arrow or an open interpolation. -/
def separates (c : Char) : Bool := !(isWord c || ['=', '>', '$', '{'].contains c)

theorem not_isWord_of_separates {c : Char} (separator : separates c = true) : isWord c = false := by
  simp only [separates, Bool.not_eq_true', Bool.or_eq_false_iff] at separator
  exact separator.1

private theorem not_mem_of_separates {c : Char} (separator : separates c = true) {word : List Char}
    (signs : word.all (fun d => isWord d || ['=', '>', '$', '{'].contains d) = true) : c ∉ word := by
  intro member
  have sign := List.all_eq_true.mp signs c member
  simp only [separates, Bool.not_eq_true'] at separator
  rw [separator] at sign
  contradiction

theorem endsWord_append {c : Char} (other : isWord c = false) (text rest : List Char) :
    endsWord (text ++ c :: rest) = endsWord text := by
  cases text <;> simp [endsWord, other]

private theorem any_endsWord_append {c : Char} (other : isWord c = false) (found : Option (List Char))
    (rest : List Char) :
    (found.map (· ++ c :: rest)).any endsWord = found.any endsWord := by
  cases found with
  | none => rfl
  | some text => exact endsWord_append other text rest

/-- Behind a separator, nothing adds to a sign before it. -/
theorem scriptHere_append {c : Char} (separator : separates c = true) (before : Option Char)
    (text rest : List Char) : scriptHere before (text ++ c :: rest) = scriptHere before text := by
  have other := not_isWord_of_separates separator
  have arrow : c ∉ "=>".toList := not_mem_of_separates separator (by decide)
  have hole : c ∉ "$\x7b".toList := not_mem_of_separates separator (by decide)
  have throws : c ∉ "throw".toList := not_mem_of_separates separator (by decide)
  have returns : c ∉ "return".toList := not_mem_of_separates separator (by decide)
  simp only [scriptHere, beginsWithWord, after?, List.any_cons, List.any_nil, Bool.or_false,
    afterChars?_append arrow, afterChars?_append hole, afterChars?_append throws, afterChars?_append returns,
    Option.isSome_map, any_endsWord_append other]

theorem scriptHere_nil (before : Option Char) : scriptHere before [] = false := by
  simp [scriptHere, beginsWithWord, after?, afterChars?]

theorem occurs_scriptHere_some {c : Char} (other : isWord c = false) (text : List Char) :
    occurs scriptHere (some c) text = occurs scriptHere none text := by
  cases text <;> simp [occurs, scriptHere, other]

/-- A text shows a sign exactly if one of its pieces between separators does. -/
theorem occurs_append_separator {c : Char} (separator : separates c = true) (before : Option Char)
    (text rest : List Char) :
    occurs scriptHere before (text ++ c :: rest) =
      (occurs scriptHere before text || occurs scriptHere none rest) := by
  induction text generalizing before with
  | nil =>
    have here : scriptHere before (c :: rest) = false :=
      (scriptHere_append separator before [] rest).trans (scriptHere_nil before)
    have empty : occurs scriptHere before [] = false := scriptHere_nil before
    rw [List.nil_append, empty, occurs, here, occurs_scriptHere_some (not_isWord_of_separates separator)]
  | cons d text ih =>
    rw [List.cons_append, occurs, ih, occurs, ← List.cons_append, scriptHere_append separator, Bool.or_assoc]

/-! ## Words -/

/-- The words that begin a statement. -/
def isStatement (word : List Char) : Bool := word = "throw".toList || word = "return".toList

/-- A letter of a word is none of the characters outside words. -/
private theorem ne_of_isWord {c d : Char} (letter : isWord d = true) (other : isWord c = false) : c ≠ d := by
  rintro rfl
  rw [letter] at other
  contradiction

/-- Inside a word, no sign begins. -/
private theorem occurs_inside {c : Char} (letter : isWord c = true) {word : List Char}
    (letters : ∀ d ∈ word, isWord d = true) : occurs scriptHere (some c) word = false := by
  induction word generalizing c with
  | nil => exact scriptHere_nil _
  | cons d word ih =>
    obtain ⟨first, letters⟩ := List.forall_mem_cons.mp letters
    have arrow : '=' ≠ d := ne_of_isWord first (by decide)
    have hole : '$' ≠ d := ne_of_isWord first (by decide)
    rw [occurs, ih first letters, Bool.or_false]
    simp [scriptHere, after?, afterChars?, arrow, hole, letter]

private theorem any_endsWord_afterChars? {word text : List Char} (letters : ∀ d ∈ text, isWord d = true) :
    (afterChars? word text).any endsWord = decide (text = word) := by
  rw [Bool.eq_iff_iff, Option.any_eq_true, decide_eq_true_eq]
  constructor
  · rintro ⟨rest, found, ends⟩
    rw [afterChars?_eq_some_iff] at found
    subst found
    cases rest with
    | nil => exact List.append_nil word
    | cons d rest =>
      have letter : isWord d = true := letters d (List.mem_append_right _ List.mem_cons_self)
      simp [endsWord, letter] at ends
  · rintro rfl
    exact ⟨[], afterChars?_eq_some_iff.mpr (List.append_nil text).symm, rfl⟩

/-- A word shows a sign exactly if it is that of a statement. -/
theorem occurs_word {word : List Char} (letters : ∀ d ∈ word, isWord d = true) :
    occurs scriptHere none word = isStatement word := by
  cases word with
  | nil => rfl
  | cons c word =>
    obtain ⟨first, later⟩ := List.forall_mem_cons.mp letters
    have arrow : '=' ≠ c := ne_of_isWord first (by decide)
    have hole : '$' ≠ c := ne_of_isWord first (by decide)
    rw [occurs, occurs_inside first later, Bool.or_false]
    simp only [scriptHere, beginsWithWord, after?, List.any_cons, List.any_nil, any_endsWord_afterChars? letters]
    simp [afterChars?, arrow, hole, isStatement]

end StaticStyles.Css

namespace StaticStyles.ClassName
open Text

theorem isWord_of_isNameChar {c : Char} (allowed : isNameChar c = true) (letter : c ≠ '-') : isWord c = true := by
  simp only [isNameChar, Bool.or_eq_true, decide_eq_true_eq] at allowed
  rcases allowed with (letters | hyphen) | rfl
  · exact isWord_of_isAlphanum letters
  · exact absurd hyphen letter
  · decide

/-- Whether a part of a name between hyphens is the word of a statement. -/
def saysStatement (name : List Char) : Bool := (split '-' name).any Css.isStatement

/-- A class name shows a sign of script exactly if one of its parts is the word of a statement. -/
theorem occurs_scriptHere {name : List Char} (allowed : ∀ c ∈ name, isNameChar c = true) :
    occurs Css.scriptHere none name = saysStatement name := by
  induction length : name.length using Nat.strongRecOn generalizing name with
  | ind n ih =>
    by_cases hyphen : '-' ∈ name
    · obtain ⟨part, rest, rfl, whole⟩ := List.eq_append_cons_of_mem hyphen
      have letters : ∀ c ∈ part, isWord c = true := by
        intro c member
        refine isWord_of_isNameChar (allowed c (List.mem_append_left _ member)) ?_
        rintro rfl
        exact whole member
      have later : ∀ c ∈ rest, isNameChar c = true := by
        intro c member
        exact allowed c (List.mem_append_right _ (List.mem_cons_of_mem _ member))
      have shorter : rest.length < n := by
        rw [← length, List.length_append, List.length_cons]
        omega
      rw [Css.occurs_append_separator (by decide), Css.occurs_word letters, ih _ shorter later rfl,
        saysStatement, saysStatement, split_append whole, List.any_cons]
    · have letters : ∀ c ∈ name, isWord c = true := by
        intro c member
        refine isWord_of_isNameChar (allowed c member) ?_
        rintro rfl
        exact hyphen member
      rw [Css.occurs_word letters, saysStatement, split_of_not_mem hyphen, List.any_cons, List.any_nil,
        Bool.or_false]

end StaticStyles.ClassName
