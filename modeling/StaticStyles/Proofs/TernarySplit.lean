import Mathlib.Data.List.TakeWhile
import StaticStyles.Expression.Ternary
import StaticStyles.Proofs.TextSearch

/-!
What a text is read as at a bracket depth, whatever follows it (`Expression.IsRead`). A condition without a question
mark of its own and a branch in which question marks and colons match like brackets, with any text behind the next
colon, are the three parts of their conditional (`Expression.ternary?_of_isRead`). A text that holds no mark at top
level (`Expression.Unmarked`) can stand for both, and alone it has no parts.
-/
namespace StaticStyles.Expression
open Text
variable {text other rest : List Char}

theorem piecesText_append (front back : List Piece) :
    piecesText (front ++ back) = piecesText front ++ piecesText back :=
  List.flatMap_append

/-! ## Signs -/

/-- The marks of pieces that are a question mark or a colon at top level, in order. -/
def signs (pieces : List Piece) : List Mark := (pieces.filter (·.mark != .other)).map Piece.mark

theorem signs_append (front back : List Piece) : signs (front ++ back) = signs front ++ signs back := by
  simp [signs]

theorem signs_eq_nil_iff {pieces : List Piece} : signs pieces = [] ↔ ∀ piece ∈ pieces, piece.mark = .other := by
  simp [signs, List.filter_eq_nil_iff]

theorem mem_signs_iff {pieces : List Piece} {mark : Mark} (sign : mark ≠ .other) :
    mark ∈ signs pieces ↔ ∃ piece ∈ pieces, piece.mark = mark := by
  simp only [signs, List.mem_map, List.mem_filter, bne_iff_ne]
  constructor
  · rintro ⟨piece, ⟨member, _⟩, same⟩
    exact ⟨piece, member, same⟩
  · rintro ⟨piece, member, rfl⟩
    exact ⟨piece, ⟨member, sign⟩, rfl⟩

theorem exists_of_signs_cons {pieces : List Piece} {mark : Mark} {more : List Mark}
    (begins : signs pieces = mark :: more) :
    ∃ front text back, pieces = front ++ ⟨text, mark⟩ :: back ∧ signs front = [] ∧ signs back = more := by
  obtain ⟨piece, later, first, rfl, rfl⟩ := List.map_eq_cons_iff.mp begins
  obtain ⟨front, back, rfl, others, _, rfl⟩ := List.filter_eq_cons_iff.mp first
  refine ⟨front, piece.text, back, rfl, ?_, rfl⟩
  rw [signs, List.filter_eq_nil_iff.mpr others, List.map_nil]

theorem exists_of_signs_append {pieces : List Piece} {first more : List Mark} (split : signs pieces = first ++ more) :
    ∃ front back, pieces = front ++ back ∧ signs front = first ∧ signs back = more := by
  obtain ⟨earlier, later, kept, rfl, rfl⟩ := List.map_eq_append_iff.mp split
  obtain ⟨front, back, rfl, rfl, rfl⟩ := List.filter_eq_append_iff.mp kept
  exact ⟨front, back, rfl, rfl, rfl⟩

/-! ## Reading a part -/

/-- At a bracket depth, a text with another one behind it is read as pieces of its own with these signs. -/
def IsRead (depth : Int) (text rest : List Char) (found : List Mark) : Prop :=
  ∃ front, piecesText front = text ∧ signs front = found ∧
    piecesFrom none depth (text ++ rest) = front ++ piecesFrom none depth rest

section
variable {depth : Int} {c : Char} {found more : List Mark}

theorem IsRead.nil : IsRead depth [] rest [] := ⟨[], rfl, rfl, rfl⟩

theorem IsRead.append (left : IsRead depth text (other ++ rest) found) (right : IsRead depth other rest more) :
    IsRead depth (text ++ other) rest (found ++ more) := by
  obtain ⟨front, rfl, rfl, first⟩ := left
  obtain ⟨back, rfl, rfl, second⟩ := right
  refine ⟨front ++ back, piecesText_append front back, signs_append front back, ?_⟩
  rw [List.append_assoc, first, second, List.append_assoc]

theorem IsRead.of_piece (mark : Mark)
    (read : piecesFrom none depth (text ++ rest) = ⟨text, mark⟩ :: piecesFrom none depth rest) :
    IsRead depth text rest (signs [⟨text, mark⟩]) :=
  ⟨[⟨text, mark⟩], by simp [piecesText], rfl, read⟩

/-- A character that is no mark at its depth is a piece, and may open or close a bracket. -/
theorem piecesFrom_other (unquoted : isQuote c = false) (plain : depth = 0 → c ≠ '?' ∧ c ≠ ':') (rest : List Char) :
    piecesFrom none depth (c :: rest) = ⟨[c], .other⟩ :: piecesFrom none (depth + depthChange c) rest := by
  by_cases top : depth = 0
  · rw [piecesFrom.eq_5 _ _ _ (by simp [(plain top).1])]
    simp [unquoted, plain top]
  · by_cases question : c = '?'
    · subst question
      -- a question mark within brackets is a piece of its own, whether or not something follows it
      cases rest <;> simp [piecesFrom, top, isQuote, depthChange]
    · rw [piecesFrom.eq_5 _ _ _ (by simp [question])]
      simp [unquoted, top]

theorem IsRead.plain (unquoted : isQuote c = false) (level : depthChange c = 0)
    (plain : depth = 0 → c ≠ '?' ∧ c ≠ ':') : IsRead depth [c] rest [] := by
  refine .of_piece .other ?_
  rw [List.singleton_append, piecesFrom_other unquoted plain, level, Int.add_zero]

theorem piecesFrom_question (dot : rest.head? ≠ some '.') (double : rest.head? ≠ some '?') :
    piecesFrom none 0 ('?' :: rest) = ⟨['?'], .question⟩ :: piecesFrom none 0 rest := by
  cases rest with
  | nil => rfl
  | cons d rest =>
    have lone : d ≠ '.' ∧ d ≠ '?' := by simpa using And.intro dot double
    simp [piecesFrom, lone]

theorem IsRead.question (dot : rest.head? ≠ some '.') (double : rest.head? ≠ some '?') :
    IsRead 0 ['?'] rest [.question] :=
  .of_piece .question (piecesFrom_question dot double)

theorem IsRead.colon : IsRead 0 [':'] rest [.colon] := .of_piece .colon rfl

/-- A question mark with a dot or another one behind it asks nothing. -/
theorem IsRead.double (double : c = '.' ∨ c = '?') : IsRead 0 ['?', c] rest [] := by
  refine .of_piece .other ?_
  rcases double with rfl | rfl <;> rfl

/-! ## Quotes -/

/-- What can stand between two equal quotes; a backslash takes any character with it. -/
inductive Quoted (mark : Char) : List Char → Prop
  | empty : Quoted mark []
  | escape (c : Char) {rest : List Char} (more : Quoted mark rest) : Quoted mark ('\\' :: c :: rest)
  | char {c : Char} {rest : List Char} (inside : c ≠ mark) (slash : c ≠ '\\') (more : Quoted mark rest) :
    Quoted mark (c :: rest)

theorem Quoted.of_not_mem {mark : Char} {inside : List Char} (closed : mark ∉ inside) (unescaped : '\\' ∉ inside) :
    Quoted mark inside := by
  induction inside with
  | nil => exact .empty
  | cons c inside ih =>
    rw [List.mem_cons, not_or] at closed unescaped
    exact .char (Ne.symm closed.1) (Ne.symm unescaped.1) (ih closed.2 unescaped.2)

theorem piecesFrom_quoted {mark : Char} {inside : List Char} (quoted : Quoted mark inside) (escapes : mark ≠ '\\')
    (depth : Int) (rest : List Char) : ∃ front, piecesText front = inside ++ [mark] ∧ signs front = [] ∧
      piecesFrom (some mark) depth (inside ++ mark :: rest) = front ++ piecesFrom none depth rest := by
  induction quoted with
  | empty =>
    refine ⟨[⟨[mark], .other⟩], rfl, rfl, ?_⟩
    rw [List.nil_append, piecesFrom.eq_3 _ _ _ _ (by simp [escapes]), if_pos rfl]
    rfl
  | escape c more ih =>
    obtain ⟨front, text, unsigned, split⟩ := ih
    refine ⟨⟨['\\', c], .other⟩ :: front, congrArg (['\\', c] ++ ·) text, unsigned, ?_⟩
    rw [List.cons_append, List.cons_append, piecesFrom, split]
    rfl
  | @char c inside other slash more ih =>
    obtain ⟨front, text, unsigned, split⟩ := ih
    refine ⟨⟨[c], .other⟩ :: front, congrArg (c :: ·) text, unsigned, ?_⟩
    rw [List.cons_append, piecesFrom.eq_3 _ _ _ _ (by simp [slash]), if_neg other, split]
    rfl

theorem IsRead.quoted {mark : Char} {inside : List Char} (quote : isQuote mark = true) (quoted : Quoted mark inside) :
    IsRead depth (mark :: (inside ++ [mark])) rest [] := by
  have quotes : mark = '\'' ∨ mark = '"' ∨ mark = '\x60' := by
    simpa [isQuote, or_assoc] using quote
  have escapes : mark ≠ '\\' := by rcases quotes with rfl | rfl | rfl <;> decide
  have question : mark ≠ '?' := by rcases quotes with rfl | rfl | rfl <;> decide
  obtain ⟨front, text, unsigned, split⟩ := piecesFrom_quoted quoted escapes depth rest
  refine ⟨⟨[mark], .other⟩ :: front, congrArg (mark :: ·) text, unsigned, ?_⟩
  rw [List.cons_append, List.append_assoc, List.singleton_append, piecesFrom.eq_5 _ _ _ (by simp [question]),
    if_pos quote, split]
  rfl

end

/-! ## Texts without marks -/

/-- A character that opens and closes nothing and is no mark. -/
def isUnmarked (c : Char) : Bool := !isQuote c && depthChange c = 0 && c != '?' && c != ':'

/-- The quotes, brackets and marks that splitting looks at. -/
def marks : List Char := ['\'', '"', '\x60', '(', '[', '{', ')', ']', '}', '?', ':']

theorem isUnmarked_of {p : Char → Bool} (foreign : marks.any p = false) {c : Char} (holds : p c = true) :
    isUnmarked c = true := by
  have other (d : Char) (listed : d ∈ marks) : c ≠ d := by
    rintro rfl
    exact List.any_eq_false.mp foreign c listed holds
  simp only [marks, List.forall_mem_cons] at other
  simp [isUnmarked, isQuote, depthChange, other]

theorem IsRead.char {depth : Int} {c : Char} (plain : isUnmarked c = true) : IsRead depth [c] rest [] := by
  simp only [isUnmarked, Bool.and_eq_true, Bool.not_eq_true', bne_iff_ne, decide_eq_true_eq] at plain
  obtain ⟨⟨⟨unquoted, level⟩, question⟩, colon⟩ := plain
  exact .plain unquoted level fun _ => ⟨question, colon⟩

/-- A text that holds no mark at top level and ends there, whatever follows it. -/
def Unmarked (text : List Char) : Prop :=
  ∀ rest, ∃ front, piecesText front = text ∧ (∀ piece ∈ front, piece.mark = .other) ∧
    pieces (text ++ rest) = front ++ pieces rest

theorem unmarked_iff : Unmarked text ↔ ∀ rest, IsRead 0 text rest [] := by
  simp only [Unmarked, IsRead, signs_eq_nil_iff, pieces]

theorem Unmarked.nil : Unmarked [] := unmarked_iff.mpr fun _ => .nil

theorem Unmarked.append (left : Unmarked text) (right : Unmarked other) : Unmarked (text ++ other) := by
  rw [unmarked_iff] at left right ⊢
  exact fun rest => (left (other ++ rest)).append (right rest)

theorem Unmarked.char {c : Char} (plain : isUnmarked c = true) : Unmarked [c] :=
  unmarked_iff.mpr fun _ => .char plain

theorem Unmarked.of_all (plain : text.all isUnmarked = true) : Unmarked text := by
  induction text with
  | nil => exact .nil
  | cons c text ih =>
    rw [List.all_cons, Bool.and_eq_true] at plain
    exact (Unmarked.char plain.1).append (ih plain.2)

/-- A question mark with a dot or another one behind it asks nothing. -/
theorem Unmarked.double {c : Char} (double : c = '.' ∨ c = '?') : Unmarked ['?', c] :=
  unmarked_iff.mpr fun _ => .double double

theorem Unmarked.quoted {mark : Char} {inside : List Char} (quote : isQuote mark = true) (closed : mark ∉ inside)
    (unescaped : '\\' ∉ inside) : Unmarked (mark :: (inside ++ [mark])) :=
  unmarked_iff.mpr fun _ => .quoted quote (.of_not_mem closed unescaped)

/-! ## Parts -/

/-- Question marks and colons that match like brackets. -/
inductive Paired : List Mark → Prop
  | nil : Paired []
  | pair {inner rest : List Mark} (nested : Paired inner) (more : Paired rest) :
    Paired (.question :: (inner ++ .colon :: rest))

theorem branch?_unsigned {front : List Piece} (unsigned : signs front = []) (pending : Nat) (rest : List Piece) :
    branch? pending (front ++ rest) = (branch? pending rest).map fun (a, b) => (front ++ a, b) := by
  rw [signs_eq_nil_iff] at unsigned
  induction front with
  | nil => simp
  | cons piece front ih =>
    obtain ⟨first, further⟩ := List.forall_mem_cons.mp unsigned
    obtain ⟨text, mark⟩ := piece
    obtain rfl : mark = .other := first
    have step (later : List Piece) : branch? pending (⟨text, .other⟩ :: later) =
        (branch? pending later).map fun (a, b) => (⟨text, .other⟩ :: a, b) := by
      cases pending <;> rfl
    rw [List.cons_append, step, ih further, Option.map_map]
    rfl

/-- Pieces whose signs match open no question and close none. -/
theorem branch?_append {found : List Mark} (paired : Paired found) {front : List Piece} (read : signs front = found)
    (pending : Nat) (rest : List Piece) :
    branch? pending (front ++ rest) = (branch? pending rest).map fun (a, b) => (front ++ a, b) := by
  induction paired generalizing front pending rest with
  | nil => exact branch?_unsigned read pending rest
  | pair nested more inner_ih more_ih =>
    obtain ⟨first, question, later, rfl, unsigned, read⟩ := exists_of_signs_cons read
    obtain ⟨middle, later, rfl, inside, read⟩ := exists_of_signs_append read
    obtain ⟨last, colon, back, rfl, plain, behind⟩ := exists_of_signs_cons read
    have opens (later : List Piece) : branch? pending (⟨question, .question⟩ :: later) =
        (branch? (pending + 1) later).map fun (a, b) => (⟨question, .question⟩ :: a, b) := by
      cases pending <;> rfl
    simp only [List.append_assoc, List.cons_append]
    rw [branch?_unsigned unsigned, opens, inner_ih inside, branch?_unsigned plain, branch?, more_ih behind]
    simp [Option.map_map, Function.comp_def]

/-- A condition without a question of its own, and a branch whose questions are answered in it, are the parts of their
conditional, and what stands behind the next colon is the last one. -/
theorem ternary?_of_isRead {condition yes no : List Char} {asked nested : List Mark}
    (before : IsRead 0 condition ('?' :: (yes ++ ':' :: no)) asked) (unasked : Mark.question ∉ asked)
    (between : IsRead 0 yes (':' :: no) nested) (paired : Paired nested)
    (dot : yes.head? ≠ some '.') (double : yes.head? ≠ some '?') :
    ternary? (condition ++ '?' :: (yes ++ ':' :: no)) = some (condition, yes, no) := by
  obtain ⟨front, rfl, rfl, first⟩ := before
  obtain ⟨middle, rfl, rfl, second⟩ := between
  have question : piecesFrom none 0 ('?' :: (piecesText middle ++ ':' :: no)) =
      ⟨['?'], .question⟩ :: piecesFrom none 0 (piecesText middle ++ ':' :: no) :=
    piecesFrom_question (head?_append_ne dot (by simp)) (head?_append_ne double (by simp))
  have all : pieces (piecesText front ++ '?' :: (piecesText middle ++ ':' :: no)) =
      front ++ ⟨['?'], .question⟩ :: (middle ++ ⟨[':'], .colon⟩ :: pieces no) := by
    rw [pieces, first, question, second]
    rfl
  have passes (piece : Piece) (member : piece ∈ front) : (piece.mark != .question) = true := by
    rw [bne_iff_ne]
    intro question
    exact unasked ((mem_signs_iff (by decide)).mpr ⟨piece, member, question⟩)
  have taken : (front ++ ⟨['?'], .question⟩ :: (middle ++ ⟨[':'], .colon⟩ :: pieces no)).takeWhile
      (·.mark != .question) = front := by
    rw [List.takeWhile_append_of_pos passes]
    simp
  have dropped : (front ++ ⟨['?'], .question⟩ :: (middle ++ ⟨[':'], .colon⟩ :: pieces no)).dropWhile
      (·.mark != .question) = ⟨['?'], .question⟩ :: (middle ++ ⟨[':'], .colon⟩ :: pieces no) := by
    rw [List.dropWhile_append_of_pos passes]
    simp
  have answered : branch? 0 (middle ++ ⟨[':'], .colon⟩ :: pieces no) = some (middle, pieces no) := by
    rw [branch?_append paired rfl]
    simp [branch?]
  have whole : piecesText (pieces no) = no := piecesText_piecesFrom none 0 no
  simp only [ternary?, all, taken, dropped, answered, Option.map_some, whole]

/-- A condition, a question mark with a blank behind it, a branch, a colon and any text are read as these parts. -/
theorem ternary?_append {condition yes : List Char} (asked : Unmarked condition) (chosen : Unmarked (' ' :: yes))
    (no : List Char) : ternary? (condition ++ '?' :: ' ' :: (yes ++ ':' :: no)) = some (condition, ' ' :: yes, no) :=
  -- the blank behind the question mark keeps it from being one piece with a dot or another one
  ternary?_of_isRead (unmarked_iff.mp asked _) List.not_mem_nil (unmarked_iff.mp chosen _) .nil (by simp) (by simp)

theorem Unmarked.ternary?_eq_none (unmarked : Unmarked text) : ternary? text = none := by
  obtain ⟨front, _, others, split⟩ := unmarked []
  have all : pieces text = front := by simpa [pieces, piecesFrom] using split
  have none : front.dropWhile (·.mark != .question) = [] := by
    rw [List.dropWhile_eq_nil_iff]
    intro piece member
    rw [others piece member]
    rfl
  simp only [ternary?, all, none]

/-- A piece that is a mark has the text of the mark. -/
theorem eq_of_mem_piecesFrom {quote : Option Char} {depth : Int} {piece : Piece}
    (member : piece ∈ piecesFrom quote depth text) :
    piece.mark = .other ∨ piece = ⟨['?'], .question⟩ ∨ piece = ⟨[':'], .colon⟩ := by
  fun_induction piecesFrom quote depth text with
  | case1 => contradiction
  | case2 mark depth c rest ih | case3 mark depth c rest _ ih | case4 depth c rest _ ih | case6 depth c rest _ _ ih =>
    rcases List.mem_cons.mp member with rfl | member
    · exact .inl rfl
    · exact ih member
  | case5 depth c rest _ ih =>
    rcases List.mem_cons.mp member with rfl | member
    · by_cases top : depth = 0 <;> simp [top]
    · exact ih member
  | case7 depth c rest _ _ mark ih =>
    rcases List.mem_cons.mp member with rfl | member
    · by_cases question : depth = 0 ∧ c = '?'
      · simp [mark, question]
      · by_cases colon : depth = 0 ∧ c = ':'
        · simp [mark, colon]
        · have plain : mark = .other := by simp [mark, question, colon]
          exact .inl plain
    · exact ih member

theorem exists_of_branch? {pending : Nat} {whole yes no : List Piece}
    (answered : branch? pending whole = some (yes, no)) : ∃ text, whole = yes ++ ⟨text, .colon⟩ :: no := by
  fun_induction branch? pending whole generalizing yes no with
  | case1 => contradiction
  | case3 text rest =>
    obtain ⟨rfl, rfl⟩ := Prod.mk.inj (Option.some.inj answered)
    exact ⟨text, rfl⟩
  | case2 pending text rest ih | case4 pending text rest ih | case5 pending text rest ih =>
    obtain ⟨⟨yes, no⟩, later, same⟩ := Option.map_eq_some_iff.mp answered
    obtain ⟨rfl, rfl⟩ := Prod.mk.inj same
    obtain ⟨colon, rfl⟩ := ih later
    exact ⟨colon, rfl⟩

/-- The parts, put together again, are the whole text. -/
theorem eq_of_ternary? {condition yes no : List Char} (split : ternary? text = some (condition, yes, no)) :
    text = condition ++ '?' :: (yes ++ ':' :: no) := by
  have sound (piece : Piece) (member : piece ∈ pieces text) := eq_of_mem_piecesFrom member
  have written : piecesText (pieces text) = text := piecesText_piecesFrom none 0 text
  simp only [ternary?] at split
  split at split
  · contradiction
  · next question rest found =>
    obtain ⟨⟨middle, last⟩, answered, parts⟩ := Option.map_eq_some_iff.mp split
    simp only [Prod.mk.injEq] at parts
    obtain ⟨rfl, rfl, rfl⟩ := parts
    obtain ⟨colon, rfl⟩ := exists_of_branch? answered
    have whole : pieces text = (pieces text).takeWhile (·.mark != .question) ++
        question :: (middle ++ ⟨colon, .colon⟩ :: last) := by
      rw [← found, List.takeWhile_append_dropWhile]
    have asks : question.mark = .question := by
      have stops := List.head?_dropWhile_not (·.mark != .question) (pieces text)
      simpa [found] using stops
    have first : question = ⟨['?'], .question⟩ := by
      have member : question ∈ pieces text := by
        rw [whole]
        simp
      rcases sound question member with other | first | colon
      · rw [asks] at other
        contradiction
      · exact first
      · rw [colon] at asks
        contradiction
    have second : colon = [':'] := by
      have member : ⟨colon, .colon⟩ ∈ pieces text := by
        rw [whole]
        simp
      simpa using sound _ member
    generalize (pieces text).takeWhile (·.mark != .question) = front at whole
    rw [← written, whole, first, second]
    simp [piecesText]

end StaticStyles.Expression
