import StaticStyles.Proofs.CssText

/-!
The blocks of CSS text at its top level (`blocks?`). Text that has blocks leaves nothing open
(`closed_of_blocks?`), and text that leaves nothing open is one block once it is put in braces
(`blocks?_block`).
-/
namespace StaticStyles.Css

/-- A block at the top level: what stands before its brace, back to the block before, and what stands
between its braces. -/
structure Block where
  prelude : List Char
  content : List Char
deriving DecidableEq, Repr

/-- The blocks of a marked text and what stands after the last one; none if a brace lacks its partner.
So many braces are open, and `prelude` and `content` have been read of the block so far. -/
def blocksFrom : (depth : Nat) → (prelude content : List Char) → List (Char × Bool) →
    Option (List Block × List Char)
  | 0, prelude, _, [] => some ([], prelude)
  | _ + 1, _, _, [] => none
  | 0, prelude, content, ('{', true) :: rest => blocksFrom 1 prelude content rest
  | 0, _, _, ('}', true) :: _ => none
  | 0, prelude, content, (c, _) :: rest => blocksFrom 0 (prelude ++ [c]) content rest
  | depth + 1, prelude, content, ('{', true) :: rest => blocksFrom (depth + 2) prelude (content ++ ['{']) rest
  | depth + 1, prelude, content, ('}', true) :: rest =>
    if depth = 0 then
      (blocksFrom 0 [] [] rest).map fun (blocks, after) => (⟨prelude, content⟩ :: blocks, after)
    else blocksFrom depth prelude (content ++ ['}']) rest
  | depth + 1, prelude, content, (c, _) :: rest => blocksFrom (depth + 1) prelude (content ++ [c]) rest

/-- The blocks of a text at its top level and what stands after the last one; braces in strings and
comments do not count. None if something in the text never ends. -/
def blocks? (text : List Char) : Option (List Block × List Char) := (mark text).bind (blocksFrom 0 [] [])

theorem balancedFrom_of_blocksFrom {depth : Nat} {prelude content : List Char} {marked : List (Char × Bool)}
    {found : List Block × List Char} (read : blocksFrom depth prelude content marked = some found) :
    balancedFrom depth (outside marked) = true := by
  fun_induction blocksFrom depth prelude content marked generalizing found with
  | case1 => rfl
  | case2 => contradiction
  | case3 prelude content rest ih => exact ih read
  | case4 => contradiction
  | case5 prelude content c shown rest opens closes ih | case9 depth prelude content c shown rest opens closes ih =>
    cases shown with
    | false => exact ih read
    | true =>
      have opens : c ≠ '{' := fun same => opens same rfl
      have closes : c ≠ '}' := fun same => closes same rfl
      simpa [outside, balancedFrom_other opens closes] using ih read
  | case6 depth prelude content rest ih => simpa [outside, balancedFrom] using ih read
  | case7 prelude content rest ih =>
    obtain ⟨later, reads, _⟩ := Option.map_eq_some_iff.mp read
    simpa [outside, balancedFrom] using ih reads
  | case8 depth prelude content rest nested ih => simpa [outside, balancedFrom] using ih read

theorem closed_of_blocks? {text : List Char} {found : List Block × List Char} (read : blocks? text = some found) :
    Closed text := by
  obtain ⟨marked, marks, reads⟩ := Option.bind_eq_some_iff.mp read
  refine ⟨outside marked, ?_, balancedFrom_of_blocksFrom reads⟩
  rw [strip, stripFrom_eq_map_markFrom]
  exact congrArg (Option.map outside) marks

/-! ## Reading one block -/

/-- Text without braces outside belongs to the prelude. -/
theorem blocksFrom_prelude {text : List Char} (braceless : ∀ c ∈ text, c ≠ '{' ∧ c ≠ '}') (prelude content : List Char)
    (rest : List (Char × Bool)) :
    blocksFrom 0 prelude content (text.map (·, true) ++ rest) = blocksFrom 0 (prelude ++ text) content rest := by
  induction text generalizing prelude with
  | nil => simp
  | cons c text ih =>
    obtain ⟨⟨opens, closes⟩, braceless⟩ := List.forall_mem_cons.mp braceless
    have step : blocksFrom 0 prelude content ((c, true) :: (text.map (·, true) ++ rest)) =
        blocksFrom 0 (prelude ++ [c]) content (text.map (·, true) ++ rest) := by
      simp [blocksFrom, opens, closes]
    rw [List.map_cons, List.cons_append, step, ih braceless]
    simp

/-- Inside a block, text whose braces match belongs to the content. -/
theorem blocksFrom_content {depth : Nat} {marked : List (Char × Bool)}
    (matched : balancedFrom depth (outside marked) = true) (prelude content : List Char) (rest : List (Char × Bool)) :
    blocksFrom (depth + 1) prelude content (marked ++ rest) =
      blocksFrom 1 prelude (content ++ marked.map (·.1)) rest := by
  induction marked generalizing depth content with
  | nil =>
    have closed : depth = 0 := by simpa [outside, balancedFrom] using matched
    simp [closed]
  | cons first marked ih =>
    obtain ⟨c, shown⟩ := first
    by_cases opens : c = '{' ∧ shown = true
    · obtain ⟨rfl, rfl⟩ := opens
      have inner : balancedFrom (depth + 1) (outside marked) = true := by
        simpa [outside, balancedFrom] using matched
      rw [List.cons_append, blocksFrom, ih inner]
      simp
    · by_cases closes : c = '}' ∧ shown = true
      · obtain ⟨rfl, rfl⟩ := closes
        cases depth with
        | zero => simp [outside, balancedFrom] at matched
        | succ depth =>
          have inner : balancedFrom depth (outside marked) = true := by
            simpa [outside, balancedFrom] using matched
          rw [List.cons_append, blocksFrom, if_neg (Nat.succ_ne_zero depth), ih inner]
          simp
      · have inner : balancedFrom depth (outside marked) = true := by
          cases shown with
          | false => exact matched
          | true =>
            have plain : c ≠ '{' ∧ c ≠ '}' := ⟨fun same => opens ⟨same, rfl⟩, fun same => closes ⟨same, rfl⟩⟩
            simpa [outside, balancedFrom_other plain.1 plain.2] using matched
        rw [List.cons_append, blocksFrom, ih inner]
        · simp
        · exact fun same shows => opens ⟨same, shows⟩
        · exact fun same shows => closes ⟨same, shows⟩

/-- A prelude without structure and a content that leaves nothing open are one block, whatever follows. -/
theorem blocks?_block {prelude content : List Char}
    (plain : ∀ c ∈ prelude, (c ≠ '\'' ∧ c ≠ '"' ∧ c ≠ '/') ∧ c ≠ '{' ∧ c ≠ '}') (closed : Closed content)
    (rest : List Char) :
    blocks? (prelude ++ '{' :: (content ++ '}' :: rest)) =
      (blocks? rest).map fun (blocks, after) => (⟨prelude, content⟩ :: blocks, after) := by
  obtain ⟨kept, ended, matched⟩ := closed
  rw [strip, stripFrom_eq_map_markFrom] at ended
  obtain ⟨marked, marks, rfl⟩ := Option.map_eq_some_iff.mp ended
  have header : mark (prelude ++ ['{']) = some ((prelude ++ ['{']).map (·, true)) := by
    refine mark_bare ?_
    intro c member
    rcases List.mem_append.mp member with h | h
    · exact (plain c h).1
    · rw [List.mem_singleton.mp h]
      decide
  have footer : mark ('}' :: rest) = (mark rest).map (('}', true) :: ·) :=
    @markFrom_append .plain ['}'] rest [('}', true)] rfl (by simp [Apart])
  have read : mark (prelude ++ '{' :: (content ++ '}' :: rest)) =
      (mark rest).map fun later => prelude.map (·, true) ++ ('{', true) :: (marked ++ ('}', true) :: later) := by
    rw [List.append_cons, mark, markFrom_append header (by simp [Apart]), mark,
      markFrom_append marks (by simp [Apart]), footer, Option.map_map, Option.map_map]
    congr 1
    funext later
    simp
  have block (later : List (Char × Bool)) :
      blocksFrom 0 [] [] (prelude.map (·, true) ++ ('{', true) :: (marked ++ ('}', true) :: later)) =
        (blocksFrom 0 [] [] later).map fun (blocks, after) => (⟨prelude, content⟩ :: blocks, after) := by
    rw [blocksFrom_prelude (fun c member => (plain c member).2), List.nil_append, blocksFrom,
      blocksFrom_content matched, blocksFrom, if_pos rfl, List.nil_append, chars_of_markFrom marks]
  rw [blocks?, blocks?, read, Option.bind_map, Option.map_bind]
  congr 1
  funext later
  exact block later

example : blocks? "a\x7bb\x7bc\x7d'\x7d'\x7d /*\x7b*/".toList =
    some ([⟨['a'], "b\x7bc\x7d'\x7d'".toList⟩], " /*\x7b*/".toList) := by decide

end StaticStyles.Css
