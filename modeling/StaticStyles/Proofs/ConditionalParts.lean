import StaticStyles.Proofs.TernarySplit

/-!
The three parts of a conditional, told by the structure of its text. A text that ends outside quotes and brackets has a
reading with its question marks and colons (`Expression.TopLevel`); the splitter takes exactly the parts that these
readings say, and puts nothing else between them (`Expression.conditional_parts`).
-/
namespace StaticStyles.Expression
open Text

/-- The brackets that nest, each with the one that closes it. -/
def brackets : List (Char × Char) := [('(', ')'), ('[', ']'), ('{', '}')]

/-- A text that ends at top level, outside quotes and brackets, with the lone question marks and the colons that it
has there, in order. What stands between brackets would end at top level without them, and its marks count for
nothing; a question mark with a dot or another one behind it is no mark. -/
inductive TopLevel : List Char → List Mark → Prop
  | empty : TopLevel [] []
  | char {c : Char} {rest : List Char} {found : List Mark} (plain : c ∉ marks) (more : TopLevel rest found) :
    TopLevel (c :: rest) found
  | string {mark : Char} {inside rest : List Char} {found : List Mark} (quote : isQuote mark = true)
    (quoted : Quoted mark inside) (more : TopLevel rest found) : TopLevel (mark :: (inside ++ mark :: rest)) found
  | group {opening closing : Char} {inner rest : List Char} {hidden found : List Mark}
    (pair : (opening, closing) ∈ brackets) (nested : TopLevel inner hidden) (more : TopLevel rest found) :
    TopLevel (opening :: (inner ++ closing :: rest)) found
  | double {c : Char} {rest : List Char} {found : List Mark} (double : c = '.' ∨ c = '?')
    (more : TopLevel rest found) : TopLevel ('?' :: c :: rest) found
  | question {rest : List Char} {found : List Mark} (dot : rest.head? ≠ some '.') (double : rest.head? ≠ some '?')
    (more : TopLevel rest found) : TopLevel ('?' :: rest) (.question :: found)
  | colon {rest : List Char} {found : List Mark} (more : TopLevel rest found) :
    TopLevel (':' :: rest) (.colon :: found)

variable {text rest : List Char} {found : List Mark}

theorem isUnmarked_of_not_mem {c : Char} (plain : c ∉ marks) : isUnmarked c = true :=
  isUnmarked_of (p := fun c => c ∉ marks) (by decide) (decide_eq_true plain)

/-- Brackets that match, with what stands between them, are read without signs at any depth. -/
theorem IsRead.group {opening closing : Char} (pair : (opening, closing) ∈ brackets) {depth : Int}
    {inner : List Char} (nested : IsRead (depth + 1) inner (closing :: rest) []) :
    IsRead depth (opening :: (inner ++ [closing])) rest [] := by
  have kinds : depthChange opening = 1 ∧ depthChange closing = -1 ∧ isQuote opening = false ∧ isQuote closing = false ∧
      (opening ≠ '?' ∧ opening ≠ ':') ∧ closing ≠ '?' ∧ closing ≠ ':' := by
    simp only [brackets, List.mem_cons, Prod.mk.injEq, List.not_mem_nil, or_false] at pair
    rcases pair with ⟨rfl, rfl⟩ | ⟨rfl, rfl⟩ | ⟨rfl, rfl⟩ <;> decide
  obtain ⟨opens, closes, bare, bare', unmarked, unmarked'⟩ := kinds
  obtain ⟨front, rfl, unsigned, split⟩ := nested
  refine ⟨⟨[opening], .other⟩ :: (front ++ [⟨[closing], .other⟩]), ?_, ?_, ?_⟩
  · simp [piecesText]
  · have closed : signs [⟨[closing], .other⟩] = [] := rfl
    exact (signs_append front _).trans (by rw [unsigned, closed, List.nil_append])
  · rw [List.cons_append, piecesFrom_other bare fun _ => unmarked, opens, List.append_assoc, List.singleton_append,
      split, piecesFrom_other bare' fun _ => unmarked', closes, Int.add_neg_cancel_right]
    simp

/-- Within brackets a mark is a character like others. -/
theorem IsRead.inner {depth : Int} (inner : 0 < depth) {c : Char} (bare : isQuote c = false ∧ depthChange c = 0) :
    IsRead depth [c] rest [] :=
  .plain bare.1 bare.2 fun top => absurd top (Int.ne_of_gt inner)

/-- Within brackets a text at top level shows no marks. -/
theorem TopLevel.isRead_inner (top : TopLevel text found) {depth : Int} (inner : 0 < depth) (rest : List Char) :
    IsRead depth text rest [] := by
  induction top generalizing depth rest with
  | empty => exact .nil
  | char plain more ih => exact (IsRead.char (isUnmarked_of_not_mem plain)).append (ih inner rest)
  | @string mark inside tail _ quote quoted more ih =>
    have whole := (IsRead.quoted quote quoted).append (ih inner rest)
    simpa using whole
  | @group opening closing within tail _ _ pair nested more nested_ih ih =>
    have whole := (IsRead.group pair (nested_ih (by omega) (closing :: (tail ++ rest)))).append (ih inner rest)
    simpa using whole
  | @double c tail _ double more ih =>
    have bare : isQuote c = false ∧ depthChange c = 0 := by rcases double with rfl | rfl <;> decide
    exact (IsRead.inner inner (c := '?') (by decide)).append ((IsRead.inner inner bare).append (ih inner rest))
  | question dot double more ih => exact (IsRead.inner inner (c := '?') (by decide)).append (ih inner rest)
  | colon more ih => exact (IsRead.inner inner (c := ':') (by decide)).append (ih inner rest)

/-- A text at top level shows its marks, unless what follows makes one piece of its last question mark. -/
theorem TopLevel.isRead (top : TopLevel text found)
    (apart : Mark.question ∈ found → rest.head? ≠ some '.' ∧ rest.head? ≠ some '?') : IsRead 0 text rest found := by
  induction top with
  | empty => exact .nil
  | char plain more ih => exact (IsRead.char (isUnmarked_of_not_mem plain)).append (ih apart)
  | string quote quoted more ih =>
    have whole := (IsRead.quoted quote quoted).append (ih apart)
    simpa using whole
  | @group opening closing within tail _ _ pair nested more nested_ih ih =>
    have inside : IsRead (0 + 1) within (closing :: (tail ++ rest)) [] := nested.isRead_inner (by decide) _
    have whole := (IsRead.group pair inside).append (ih apart)
    simpa using whole
  | double double more ih => exact (IsRead.double double).append (ih apart)
  | question dot double more ih =>
    obtain ⟨next_dot, next_double⟩ := apart List.mem_cons_self
    exact (IsRead.question (head?_append_ne dot next_dot) (head?_append_ne double next_double)).append
      (ih fun _ => ⟨next_dot, next_double⟩)
  | colon more ih => exact IsRead.colon.append (ih fun question => apart (List.mem_cons_of_mem _ question))

/-- A condition at top level without a lone question mark, a branch at top level whose question marks and colons match
like brackets, and any text are the three parts of their conditional; parts that are found make up the whole text. -/
theorem conditional_parts :
    (∀ {condition yes : List Char} {asked nested : List Mark}, TopLevel condition asked → Mark.question ∉ asked →
      TopLevel yes nested → Paired nested → yes.head? ≠ some '.' → yes.head? ≠ some '?' → ∀ no : List Char,
        ternary? (condition ++ '?' :: (yes ++ ':' :: no)) = some (condition, yes, no)) ∧
    ∀ {text condition yes no : List Char}, ternary? text = some (condition, yes, no) →
      text = condition ++ '?' :: (yes ++ ':' :: no) := by
  refine ⟨?_, eq_of_ternary?⟩
  intro condition yes asked nested before unasked between paired dot double no
  have asks : IsRead 0 condition ('?' :: (yes ++ ':' :: no)) asked :=
    before.isRead fun question => absurd question unasked
  have answers : IsRead 0 yes (':' :: no) nested := between.isRead fun _ => ⟨by simp, by simp⟩
  exact ternary?_of_isRead asks unasked answers paired dot double

/-- A conditional as the branch of another one, with marks in a string, in brackets, in `?.` and behind the end. -/
theorem conditional_parts_nested :
    let condition := ['a', '?', '.', 'b', '[', '\'', '?', '\'', ']']
    let yes := ['{', 'c', ':', '1', '}', '?', 'd', ':', 'e']
    let no := ['?', '.', ':', ')']
    TopLevel condition [] ∧ TopLevel yes [.question, .colon] ∧ Paired [.question, .colon] ∧
      ternary? (condition ++ '?' :: (yes ++ ':' :: no)) = some (condition, yes, no) := by
  intro condition yes no
  have quoted : TopLevel ['\'', '?', '\''] [] :=
    @TopLevel.string '\'' ['?'] [] [] rfl (.char (by decide) (by decide) .empty) .empty
  have before : TopLevel condition [] :=
    .char (by decide) <| .double (.inl rfl) <| .char (by decide) <|
      @TopLevel.group '[' ']' ['\'', '?', '\''] [] [] [] (by decide) quoted .empty
  have field : TopLevel ['c', ':', '1'] [.colon] := .char (by decide) <| .colon <| .char (by decide) .empty
  have choice : TopLevel ['?', 'd', ':', 'e'] [.question, .colon] :=
    .question (by decide) (by decide) <| .char (by decide) <| .colon <| .char (by decide) .empty
  have between : TopLevel yes [.question, .colon] :=
    @TopLevel.group '{' '}' ['c', ':', '1'] ['?', 'd', ':', 'e'] [.colon] _ (by decide) field choice
  have paired : Paired [.question, .colon] := @Paired.pair [] [] .nil .nil
  exact ⟨before, between, paired,
    conditional_parts.1 before (by decide) between paired (by decide) (by decide) no⟩

end StaticStyles.Expression
