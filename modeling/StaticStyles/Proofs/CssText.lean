import Mathlib.Logic.Basic
import StaticStyles.Css.Structure

/-!
CSS text character by character. Each character stands outside strings and comments or not (`mark`); what
a reader sees of two texts in a row is what it sees of each (`mark_append`), and braces match exactly if
no beginning closes more blocks than it opens (`balanced_iff`).
-/
namespace StaticStyles.Css

/-! ## Outside and inside -/

/-- The rest of a text, read from a context on, each character with whether it stands outside strings and
comments; none if one of them never ends. -/
def markFrom : Context → List Char → Option (List (Char × Bool))
  | .plain, [] => some []
  | .quote _, [] => none
  | .comment _, [] => none
  | .plain, '\'' :: rest => (markFrom (.quote '\'') rest).map (('\'', false) :: ·)
  | .plain, '"' :: rest => (markFrom (.quote '"') rest).map (('"', false) :: ·)
  | .plain, '/' :: '*' :: rest =>
    (markFrom (.comment false) rest).map fun marked => ('/', false) :: ('*', false) :: marked
  | .plain, c :: rest => (markFrom .plain rest).map ((c, true) :: ·)
  | .quote _, ['\\'] => none
  | .quote mark, '\\' :: c :: rest =>
    (markFrom (.quote mark) rest).map fun marked => ('\\', false) :: (c, false) :: marked
  | .quote mark, c :: rest =>
    (markFrom (if c = mark then .plain else .quote mark) rest).map ((c, false) :: ·)
  | .comment star, c :: rest =>
    (markFrom (if star && c = '/' then .plain else .comment (c = '*')) rest).map ((c, false) :: ·)

def mark (text : List Char) : Option (List (Char × Bool)) := markFrom .plain text

/-- The characters of a marked text that stand outside. -/
def outside (marked : List (Char × Bool)) : List Char := (marked.filter (·.2)).map (·.1)

theorem outside_append (a b : List (Char × Bool)) : outside (a ++ b) = outside a ++ outside b := by
  simp [outside]

theorem stripFrom_eq_map_markFrom (context : Context) (text : List Char) :
    stripFrom context text = (markFrom context text).map outside := by
  fun_induction stripFrom context text with
  | case1 | case2 | case3 | case8 => rfl
  | case4 rest ih | case5 rest ih | case6 rest ih | case9 mark c rest ih | case11 star c rest ih =>
    rw [markFrom, ih, Option.map_map]
    rfl
  | case7 c rest _ _ _ ih =>
    rw [markFrom, ih, Option.map_map, Option.map_map]
    · rfl
    all_goals assumption
  | case10 mark c rest _ _ ih =>
    rw [markFrom, ih, Option.map_map]
    · rfl
    all_goals assumption

theorem chars_of_markFrom {context : Context} {text : List Char} {marked : List (Char × Bool)}
    (read : markFrom context text = some marked) : marked.map (·.1) = text := by
  fun_induction markFrom context text generalizing marked with
  | case1 => simpa using read
  | case2 | case3 | case8 => contradiction
  | _ =>
    rename_i ih
    obtain ⟨later, reads, rfl⟩ := Option.map_eq_some_iff.mp read
    simp [ih reads]

/-- Text without quotes and slashes stands outside. -/
theorem mark_bare {text : List Char} (bare : ∀ c ∈ text, c ≠ '\'' ∧ c ≠ '"' ∧ c ≠ '/') :
    mark text = some (text.map (·, true)) := by
  induction text with
  | nil => rfl
  | cons c text ih =>
    obtain ⟨⟨single, double, slash⟩, bare⟩ := List.forall_mem_cons.mp bare
    have rest : markFrom .plain text = some (text.map (·, true)) := ih bare
    rw [mark, markFrom, rest]
    · rfl
    · exact single
    · exact double
    · exact fun _ same _ => slash same

/-! ## Texts in a row -/

/-- Where one text ends and another begins, a comment opens if a slash meets a star. -/
def Apart (a b : List Char) : Prop := ¬ (a.getLast? = some '/' ∧ b.head? = some '*')

theorem Apart.tail {c : Char} {a b : List Char} (apart : Apart (c :: a) b) : Apart a b := by
  rintro ⟨last, first⟩
  refine apart ⟨?_, first⟩
  rw [List.getLast?_cons, last]
  rfl

/-- If a text ends outside strings and comments, what follows is read as if nothing stood before. -/
theorem markFrom_append {context : Context} {a b : List Char} {marked : List (Char × Bool)}
    (read : markFrom context a = some marked) (apart : Apart a b) :
    markFrom context (a ++ b) = (mark b).map (marked ++ ·) := by
  fun_induction markFrom context a generalizing marked with
  | case1 =>
    obtain rfl := Option.some.inj read
    simp [mark]
  | case2 | case3 | case8 => contradiction
  | case4 rest ih | case5 rest ih | case11 star c rest ih =>
    obtain ⟨later, reads, rfl⟩ := Option.map_eq_some_iff.mp read
    rw [List.cons_append, markFrom, ih reads apart.tail, Option.map_map]
    rfl
  | case6 rest ih | case9 mark c rest ih =>
    obtain ⟨later, reads, rfl⟩ := Option.map_eq_some_iff.mp read
    rw [List.cons_append, List.cons_append, markFrom, ih reads apart.tail.tail, Option.map_map]
    rfl
  | case7 c rest single double comment ih =>
    obtain ⟨later, reads, rfl⟩ := Option.map_eq_some_iff.mp read
    rw [List.cons_append, markFrom, ih reads apart.tail, Option.map_map]
    · rfl
    · exact single
    · exact double
    · -- A comment that opens in the second text and not in the first has its slash at the end of the first.
      intro rest' slash joined
      cases rest with
      | nil => exact apart ⟨by simp [slash], by simp_all⟩
      | cons d rest =>
        obtain ⟨star, _⟩ := List.cons.inj joined
        exact comment rest slash (by rw [star])
  | case10 mark c rest end_escape escape ih =>
    obtain ⟨later, reads, rfl⟩ := Option.map_eq_some_iff.mp read
    have plain : c ≠ '\\' := by
      rintro rfl
      cases rest with
      | nil => exact end_escape rfl rfl
      | cons d rest => exact escape d rest rfl rfl
    rw [List.cons_append, markFrom, ih reads apart.tail, Option.map_map]
    · rfl
    · exact fun same _ => plain same
    · exact fun _ _ same _ => plain same

/-- A text that ends outside strings and comments, and another one, stripped in a row. -/
theorem strip_append {a b kept : List Char} (read : strip a = some kept) (apart : Apart a b) :
    strip (a ++ b) = (strip b).map (kept ++ ·) := by
  rw [strip, stripFrom_eq_map_markFrom] at read
  obtain ⟨marked, reads, rfl⟩ := Option.map_eq_some_iff.mp read
  rw [strip, strip, stripFrom_eq_map_markFrom, stripFrom_eq_map_markFrom, markFrom_append reads apart,
    Option.map_map, mark, Option.map_map]
  congr 1
  funext later
  exact outside_append marked later

/-- Behind a text that ends outside strings and comments, another text keeps what it keeps alone, and never ends exactly
if it does not end alone. -/
theorem strip_distributes {a b kept : List Char} (ended : strip a = some kept) (apart : Apart a b) :
    (∀ later, strip (a ++ b) = some (kept ++ later) ↔ strip b = some later) ∧
      (strip (a ++ b) = none ↔ strip b = none) := by
  rw [strip_append ended apart]
  constructor
  · intro later
    simp only [Option.map_eq_some_iff, List.append_cancel_left_eq, exists_eq_right]
  · exact Option.map_eq_none_iff

/-- A quoted comment opening, and a comment in front of a star. -/
theorem strip_distributes_slashes :
    let a := ['\'', '/', '*', '\'', '/']
    let b := ['/', '*', '*', '/', '*']
    strip a = some ['/'] ∧ Apart a b ∧ strip b = some ['*'] ∧ strip (a ++ b) = some ['/', '*'] := by
  intro a b
  have ended : strip a = some ['/'] := by decide
  have apart : Apart a b := by simp [Apart, a, b]
  have ends : strip b = some ['*'] := by decide
  exact ⟨ended, apart, ends, ((strip_distributes ended apart).1 ['*']).mpr ends⟩

/-! ## Braces -/

private theorem forall_prefix_cons {c : Char} {rest : List Char} {holds : List Char → Prop} :
    (∀ start, start <+: c :: rest → holds start) ↔ holds [] ∧ ∀ start, start <+: rest → holds (c :: start) := by
  constructor
  · intro all
    exact ⟨all [] List.nil_prefix, fun start begins => all _ ((List.prefix_cons_inj c).mpr begins)⟩
  · rintro ⟨none, some⟩ start begins
    rcases List.prefix_cons_iff.mp begins with rfl | ⟨later, rfl, before⟩
    · exact none
    · exact some later before

theorem balancedFrom_other {c : Char} (opens : c ≠ '{') (closes : c ≠ '}') (depth : Nat) (rest : List Char) :
    balancedFrom depth (c :: rest) = balancedFrom depth rest := by
  cases depth <;> simp [balancedFrom, closes]

theorem balancedFrom_iff {depth : Nat} {text : List Char} :
    balancedFrom depth text = true ↔
      (∀ start, start <+: text → start.count '}' ≤ depth + start.count '{') ∧
        text.count '}' = depth + text.count '{' := by
  induction text generalizing depth with
  | nil => simp [balancedFrom, eq_comm]
  | cons c rest ih =>
    rw [forall_prefix_cons]
    by_cases opens : c = '{'
    · subst opens
      have step : balancedFrom depth ('{' :: rest) = balancedFrom (depth + 1) rest := by simp [balancedFrom]
      rw [step, ih]
      simp [Nat.add_assoc, Nat.add_comm 1]
    · by_cases closes : c = '}'
      · subst closes
        cases depth with
        | zero =>
          -- The brace alone closes more than is open.
          have step : balancedFrom 0 ('}' :: rest) = false := by simp [balancedFrom]
          rw [step]
          constructor
          · intro closed
            contradiction
          · rintro ⟨⟨_, all⟩, _⟩
            simpa using all [] List.nil_prefix
        | succ depth =>
          have step : balancedFrom (depth + 1) ('}' :: rest) = balancedFrom depth rest := by simp [balancedFrom]
          rw [step, ih]
          simp [Nat.add_right_comm depth 1]
      · rw [balancedFrom_other opens closes, ih]
        simp [opens, closes]

/-- Braces match exactly if no beginning closes more blocks than it opens, and the whole as many. -/
theorem balanced_iff {text : List Char} :
    balanced text = true ↔
      (∀ start, start <+: text → start.count '}' ≤ start.count '{') ∧ text.count '}' = text.count '{' := by
  rw [balanced, balancedFrom_iff]
  simp

theorem balancedFrom_append {depth : Nat} {a : List Char} (matched : balancedFrom depth a = true) (b : List Char) :
    balancedFrom depth (a ++ b) = balanced b := by
  fun_induction balancedFrom depth a with
  | case1 depth =>
    obtain rfl := of_decide_eq_true matched
    rfl
  | case2 depth rest ih => simpa [balancedFrom] using ih matched
  | case3 => contradiction
  | case4 depth rest ih => simpa [balancedFrom] using ih matched
  | case5 depth c rest opens closes unopened ih =>
    have plain : c ≠ '}' := by
      rintro rfl
      cases depth with
      | zero => exact closes rfl rfl
      | succ depth => exact unopened depth rfl rfl
    rw [List.cons_append, balancedFrom_other opens plain]
    exact ih matched

/-- Text that ends its strings and comments and closes its blocks. -/
def Closed (text : List Char) : Prop := ∃ kept, strip text = some kept ∧ balanced kept = true

theorem Closed.append {a b : List Char} (first : Closed a) (second : Closed b) (apart : Apart a b) :
    Closed (a ++ b) := by
  obtain ⟨kept, ended, matched⟩ := first
  obtain ⟨later, ends, matches_later⟩ := second
  refine ⟨kept ++ later, ?_, ?_⟩
  · rw [strip_append ended apart, ends]
    rfl
  · rw [balanced, balancedFrom_append matched]
    exact matches_later

theorem closed_blank : Closed [' '] := ⟨[' '], by decide, by decide⟩

end StaticStyles.Css
