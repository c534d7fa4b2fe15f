import StaticStyles.Text.Blank
import StaticStyles.Text.Classes

/-!
Searching a text for the places where something begins. A test of a place sees the character before
it and the text from it on, which is all that a word boundary needs.
-/
namespace StaticStyles.Text

/-- What follows the given characters at the beginning of a text, if it begins with them. -/
def afterChars? : List Char → List Char → Option (List Char)
  | [], text => some text
  | _ :: _, [] => none
  | w :: word, c :: text => if w = c then afterChars? word text else none

/-- What follows a word at the beginning of a text, if it begins with it. -/
def after? (word : String) (text : List Char) : Option (List Char) := afterChars? word.toList text

theorem afterChars?_eq_some_iff {word text rest : List Char} :
    afterChars? word text = some rest ↔ text = word ++ rest := by
  induction word generalizing text with
  | nil => simp [afterChars?, eq_comm]
  | cons w word ih =>
    cases text with
    | nil => simp [afterChars?]
    | cons c text =>
      simp only [afterChars?, List.cons_append, List.cons.injEq]
      split
      · next h => simp [h, ih]
      · next h => simp [eq_comm, h]

theorem afterChars?_append {word : List Char} {c : Char} (foreign : c ∉ word) (text rest : List Char) :
    afterChars? word (text ++ c :: rest) = (afterChars? word text).map (· ++ c :: rest) := by
  induction word generalizing text with
  | nil => rfl
  | cons w word ih =>
    rw [List.mem_cons, not_or] at foreign
    cases text with
    | nil => simp [afterChars?, Ne.symm foreign.1]
    | cons d text =>
      rw [List.cons_append, afterChars?, afterChars?]
      by_cases same : w = d
      · rw [if_pos same, if_pos same]
        exact ih foreign.2 text
      · rw [if_neg same, if_neg same]
        rfl

/-- A word character stands on exactly one side of the place. -/
def isBoundary (before : Option Char) (text : List Char) : Bool :=
  before.any isWord != text.head?.any isWord

/-! ## Searching -/

/-- What `here` answers at the leftmost place where it does. -/
def search {α : Type} (here : Option Char → List Char → Option α) : Option Char → List Char → Option α
  | before, [] => here before []
  | before, c :: rest =>
    match here before (c :: rest) with
    | some found => some found
    | none => search here (some c) rest

/-- Whether `here` holds at some place. -/
def occurs (here : Option Char → List Char → Bool) : Option Char → List Char → Bool
  | before, [] => here before []
  | before, c :: rest => here before (c :: rest) || occurs here (some c) rest

/-- What `here` answers at all places from left to right that do not overlap. With each answer it says
what follows; the characters up to there, counted down by `passed`, begin no other match. -/
def searchAll {α : Type} (here : Option Char → List Char → Option (α × List Char)) :
    (passed : Nat) → Option Char → List Char → List α
  | _, _, [] => []
  | n + 1, _, c :: rest => searchAll here n (some c) rest
  | 0, before, c :: rest =>
    match here before (c :: rest) with
    | some (found, after) => found :: searchAll here (rest.length - after.length) (some c) rest
    | none => searchAll here 0 (some c) rest

/-- What `here` answers over a whole text. -/
def findAll {α : Type} (here : Option Char → List Char → Option (α × List Char)) (text : List Char) :
    List α :=
  searchAll here 0 none text

/-- The parts of a text between the places of a separator, empty ones included. -/
def split (separator : Char) : List Char → List (List Char)
  | [] => [[]]
  | c :: rest =>
    match split separator rest with
    | [] => [[c]]
    | part :: parts => if c = separator then [] :: part :: parts else (c :: part) :: parts

theorem split_of_not_mem {separator : Char} {text : List Char} (whole : separator ∉ text) :
    split separator text = [text] := by
  induction text with
  | nil => rfl
  | cons c text ih =>
    rw [List.mem_cons, not_or] at whole
    simp [split, ih whole.2, Ne.symm whole.1]

theorem split_ne_nil (separator : Char) (text : List Char) : split separator text ≠ [] := by
  cases text with
  | nil => simp [split]
  | cons c rest =>
    rw [split]
    split
    · simp
    · split <;> simp

theorem split_append {separator : Char} {part : List Char} (whole : separator ∉ part) (rest : List Char) :
    split separator (part ++ separator :: rest) = part :: split separator rest := by
  induction part with
  | nil =>
    rw [List.nil_append, split]
    split
    · next none => exact absurd none (split_ne_nil separator rest)
    · next part parts cut => rw [if_pos rfl, cut]
  | cons c part ih =>
    rw [List.mem_cons, not_or] at whole
    simp [split, ih whole.2, Ne.symm whole.1]

/-! ## Names -/

/-- The first character of a name. -/
def isNameStart (c : Char) : Bool := c.isAlpha || c = '_' || c = '$'

/-- A further character of a name. -/
def isNamePart (c : Char) : Bool := isWord c || c = '$'

/-- The longest name at the beginning, and what follows it. -/
def name? : List Char → Option (List Char × List Char)
  | [] => none
  | c :: rest =>
    if isNameStart c then some (c :: rest.takeWhile isNamePart, rest.dropWhile isNamePart) else none

theorem name?_append {text name rest : List Char} (h : name? text = some (name, rest)) :
    name ++ rest = text := by
  cases text with
  | nil => simp [name?] at h
  | cons c text =>
    simp only [name?] at h
    split at h
    · simp only [Option.some.injEq, Prod.mk.injEq] at h
      obtain ⟨rfl, rfl⟩ := h
      simp [List.takeWhile_append_dropWhile]
    · simp at h

end StaticStyles.Text
