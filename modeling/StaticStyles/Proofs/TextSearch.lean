import StaticStyles.Text.Search

/-!
Searching a text for all places where something begins, and cutting a text at a character.
-/
namespace StaticStyles.Text

/-! ## Places -/

/-- The last character of what was passed, or the one before it. -/
theorem getLast?_cons_or (c : Char) (text : List Char) (before : Option Char) :
    (c :: text).getLast?.or before = text.getLast?.or (some c) := by
  rw [List.getLast?_cons]
  cases text.getLast? <;> rfl

section
variable {α : Type} {here : Option Char → List Char → Option (α × List Char)}

theorem searchAll_passed (here : Option Char → List Char → Option (α × List Char)) (before : Option Char)
    (passed text : List Char) : searchAll here passed.length before (passed ++ text) =
      searchAll here 0 (passed.getLast?.or before) text := by
  induction passed generalizing before with
  | nil => rfl
  | cons c passed ih =>
    rw [List.length_cons, List.cons_append, searchAll, ih, getLast?_cons_or]

/-- After an answer the search goes on behind what was answered for. -/
theorem searchAll_of_answer {before : Option Char} {piece rest : List Char} {found : α} (some_piece : piece ≠ [])
    (answer : here before (piece ++ rest) = some (found, rest)) :
    searchAll here 0 before (piece ++ rest) = found :: searchAll here 0 piece.getLast? rest := by
  cases piece with
  | nil => contradiction
  | cons c piece =>
    have passed : (piece ++ rest).length - rest.length = piece.length := by
      rw [List.length_append, Nat.add_sub_cancel]
    rw [List.cons_append] at answer
    rw [List.cons_append, searchAll]
    simp only [answer, passed, searchAll_passed, List.getLast?_cons]
    cases piece.getLast? <;> rfl

/-- What a search finds it has found at a place of the text. -/
theorem exists_place_of_mem_searchAll {found : α} {passed : Nat} {before : Option Char} {text : List Char}
    (member : found ∈ searchAll here passed before text) :
    ∃ front back rest, text = front ++ back ∧ here (front.getLast?.or before) back = some (found, rest) := by
  induction text generalizing passed before with
  | nil => simp [searchAll] at member
  | cons c text ih =>
    have later {passed : Nat} (member : found ∈ searchAll here passed (some c) text) :
        ∃ front back rest, c :: text = front ++ back ∧ here (front.getLast?.or before) back = some (found, rest) := by
      obtain ⟨front, back, rest, rfl, answer⟩ := ih member
      refine ⟨c :: front, back, rest, rfl, ?_⟩
      rwa [getLast?_cons_or]
    cases passed with
    | succ passed =>
      rw [searchAll] at member
      exact later member
    | zero =>
      rw [searchAll] at member
      split at member
      · next first rest answer =>
        rcases List.mem_cons.mp member with rfl | member
        · exact ⟨[], c :: text, rest, rfl, answer⟩
        · exact later member
      · exact later member

/-- A search goes through a text at whose places nothing is answered. -/
theorem searchAll_of_none {before : Option Char} {text : List Char} (rest : List Char)
    (quiet : ∀ front back, text = front ++ back → back ≠ [] → here (front.getLast?.or before) (back ++ rest) = none) :
    searchAll here 0 before (text ++ rest) = searchAll here 0 (text.getLast?.or before) rest := by
  induction text generalizing before with
  | nil => rfl
  | cons c text ih =>
    have first : here before (c :: (text ++ rest)) = none := quiet [] (c :: text) rfl (List.cons_ne_nil _ _)
    rw [List.cons_append, searchAll, first, getLast?_cons_or]
    simp only
    refine ih ?_
    intro front back split some_back
    have later := quiet (c :: front) back (congrArg (c :: ·) split) some_back
    rwa [getLast?_cons_or] at later

end

/-! ## Escapes -/

/-- What is neither a backslash at the end of a text nor one before another character is none. -/
theorem ne_backslash {c : Char} {rest : List Char} (last : c = '\\' → rest = [] → False)
    (escape : ∀ d later, c = '\\' → rest = d :: later → False) : c ≠ '\\' := by
  rintro rfl
  cases rest with
  | nil => exact last rfl rfl
  | cons d later => exact escape d later rfl rfl

/-! ## Cuts -/

/-- A text begins with a character only if its first part does, or the part that follows an empty one. -/
theorem head?_append_ne {a b : List Char} {c : Char} (first : a.head? ≠ some c) (next : b.head? ≠ some c) :
    (a ++ b).head? ≠ some c := by
  cases a with
  | nil => exact next
  | cons d a => exact first

theorem takeWhile_append_cons {p : Char → Bool} {text : List Char} {c : Char} (inside : text.all p = true)
    (outside : p c = false) (rest : List Char) : (text ++ c :: rest).takeWhile p = text := by
  rw [List.takeWhile_append_of_pos fun d member => List.all_eq_true.mp inside d member]
  simp [outside]

theorem dropWhile_append_cons {p : Char → Bool} {text : List Char} {c : Char} (inside : text.all p = true)
    (outside : p c = false) (rest : List Char) : (text ++ c :: rest).dropWhile p = c :: rest := by
  rw [List.dropWhile_append_of_pos fun d member => List.all_eq_true.mp inside d member]
  simp [outside]

/-- Two ways to cut a text at the first place of a character are one. -/
theorem eq_of_append_cons_eq {c : Char} {front front' rest rest' : List Char} (whole : c ∉ front) (whole' : c ∉ front')
    (same : front ++ c :: rest = front' ++ c :: rest') : front = front' ∧ rest = rest' := by
  have parts := congrArg (split c) same
  rw [split_append whole, split_append whole'] at parts
  obtain ⟨rfl, _⟩ := List.cons.inj parts
  exact ⟨rfl, (List.cons.inj (List.append_cancel_left same)).2⟩

/-- A character that is not in what stands first stands behind that. -/
theorem exists_of_append_eq {c : Char} {front rest inside after : List Char} (foreign : c ∉ front)
    (same : front ++ rest = inside ++ c :: after) : ∃ inner, inside = front ++ inner ∧ rest = inner ++ c :: after := by
  rcases List.append_eq_append_iff.mp same with ⟨inner, inside_eq, rest_eq⟩ | ⟨middle, rfl, after_eq⟩
  · exact ⟨inner, inside_eq, rest_eq⟩
  · cases middle with
    | nil => exact ⟨[], by simp, after_eq.symm⟩
    | cons d middle =>
      obtain rfl := (List.cons.inj after_eq).1
      exact absurd (List.mem_append_right _ List.mem_cons_self) foreign

end StaticStyles.Text
