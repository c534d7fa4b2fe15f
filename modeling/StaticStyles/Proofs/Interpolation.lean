import Mathlib.Data.List.Basic
import StaticStyles.Proofs.Generation

/-!
What an interpolated body depends on, and what an accepted one shows. It depends on the props that its
readable expressions name and on no others (`Rule.interpolate_congr`), and once it is accepted, every hole
has been filled and no filling begins like script (`Rule.not_accepted_of_sign`).
-/
namespace StaticStyles

/-! ## Holes -/

theorem Template.mem_expressions_iff {body expression : List Char} :
    expression ∈ expressions body ↔ .hole expression ∈ segments body := by
  have holes (start : Nat) (pieces : List Segment) :
      expression ∈ (holesFrom start pieces).map (·.expression) ↔ .hole expression ∈ pieces := by
    induction pieces generalizing start with
    | nil => simp [holesFrom]
    | cons piece pieces ih =>
      cases piece with
      | raw text => simpa [holesFrom] using ih _
      | hole other => simpa [holesFrom] using or_congr_right (ih _)
  exact holes 0 (segments body)

/-- What fills a hole stands somewhere in the replaced body. -/
theorem Template.replace_of_mem (value? : List Char → Option (List Char)) {body expression : List Char}
    (member : expression ∈ expressions body) :
    ∃ before after, replace value? body =
      before ++ (value? expression).getD (Segment.hole expression).text ++ after := by
  obtain ⟨earlier, later, split⟩ := List.append_of_mem (mem_expressions_iff.mp member)
  refine ⟨earlier.flatMap (Segment.fill value?), later.flatMap (Segment.fill value?), ?_⟩
  simp [replace, split, Segment.fill]

/-! ## Props that matter -/

theorem Expression.eval?_congr {e : Expression} {a b : String → Option String}
    (same : e.shape ≠ .member → a e.prop = b e.prop) : e.eval? a = e.eval? b := by
  by_cases whole : e.shape = .member
  · simp [eval?, whole]
  · simp only [eval?, same whole]

theorem Rule.holeValue?_congr {body expression : List Char} {a b : Combination}
    (member : expression ∈ Template.expressions body)
    (same : ∀ e ∈ Pattern.readable body, a.get? e.prop = b.get? e.prop) :
    holeValue? a expression = holeValue? b expression := by
  unfold holeValue?
  cases read : Expression.ofText? expression with
  | none => rfl
  | some e =>
    have evaluated : e.eval? a.get? = e.eval? b.get? := by
      refine Expression.eval?_congr ?_
      intro whole
      refine same e (List.mem_filter.mpr ⟨List.mem_filterMap.mpr ⟨expression, member, read⟩, ?_⟩)
      simpa using whole
    rw [Option.bind_some, Option.bind_some, evaluated]

/-- An interpolated body depends on the props that its readable expressions name. -/
theorem Rule.interpolate_congr {body : String} {a b : Combination}
    (same : ∀ e ∈ Pattern.readable body.toList, a.get? e.prop = b.get? e.prop) :
    interpolate body a = interpolate body b := by
  have values (expression) (member : expression ∈ Template.expressions body.toList) :
      holeValue? a expression = holeValue? b expression :=
    holeValue?_congr member same
  have faults : (Template.expressions body.toList).findSome? (holeFault? a) =
      (Template.expressions body.toList).findSome? (holeFault? b) := by
    rw [← List.head?_filterMap, ← List.head?_filterMap]
    congr 1
    refine List.filterMap_congr ?_
    intro expression member
    rw [holeFault?, holeFault?, values expression member]
  have filled : Template.replace (holeValue? a) body.toList = Template.replace (holeValue? b) body.toList := by
    refine List.flatMap_congr ?_
    intro piece member
    cases piece with
    | raw text => rfl
    | hole expression =>
      rw [Template.Segment.fill, Template.Segment.fill, values expression (Template.mem_expressions_iff.mpr member)]
  rw [interpolate, interpolate, faults, filled]

/-! ## Signs of script -/

theorem Text.occurs_append {here : Option Char → List Char → Bool} {text : List Char}
    (begins : ∀ before, here before text = true) (earlier : List Char) (before : Option Char) :
    occurs here before (earlier ++ text) = true := by
  induction earlier generalizing before with
  | nil =>
    cases text with
    | nil => exact begins before
    | cons c rest => simp [occurs, begins before]
  | cons c earlier ih => simp [occurs, ih]

/-- Trimming takes nothing from between two characters that are not blank. -/
theorem Text.trim_append {c d : Char} (solid : isBlank c = false ∧ isBlank d = false) (before after : List Char) :
    ∃ earlier later, trim (before ++ c :: d :: after) = earlier ++ c :: d :: later := by
  have kept (before rest : List Char) {e : Char} (solid : isBlank e = false) :
      ∃ earlier, (before ++ e :: rest).dropWhile isBlank = earlier ++ e :: rest := by
    rw [List.dropWhile_append]
    by_cases blank : (before.dropWhile isBlank).isEmpty = true
    · exact ⟨[], by rw [if_pos blank]; simp [solid]⟩
    · exact ⟨before.dropWhile isBlank, by rw [if_neg blank]⟩
  obtain ⟨earlier, front⟩ := kept before (d :: after) solid.1
  obtain ⟨later, back⟩ := kept after.reverse (c :: earlier.reverse) solid.2
  refine ⟨earlier, later.reverse, ?_⟩
  have turned : (earlier ++ c :: d :: after).reverse = after.reverse ++ d :: c :: earlier.reverse := by simp
  rw [trim, skipBlanks, front, trimEnd, turned, back]
  simp

namespace Css

/-- The two signs of script that count wherever they stand: an arrow and an open interpolation. -/
def isSign (c d : Char) : Bool := (c = '=' && d = '>') || (c = '$' && d = '{')

theorem looksLikeScript_of_isSign {c d : Char} (sign : isSign c d = true) (before after : List Char) :
    looksLikeScript (before ++ c :: d :: after) = true := by
  have begins (previous : Option Char) : scriptHere previous (c :: d :: after) = true := by
    have signs : (c = '=' ∧ d = '>') ∨ (c = '$' ∧ d = '{') := by simpa [isSign] using sign
    rcases signs with ⟨rfl, rfl⟩ | ⟨rfl, rfl⟩ <;> simp [scriptHere, Text.after?, Text.afterChars?]
  simp [looksLikeScript, Text.occurs_append begins]

end Css

namespace Rule

/-- A body is not accepted if one of its holes has been filled with a sign of script, or has not been
filled at all. -/
theorem not_accepted_of_sign {body css : String} {props : Combination} {expression : List Char}
    (filled : interpolate body props = .ok css) (member : expression ∈ Template.expressions body.toList)
    {c d : Char} {more : List Char} (sign : Css.isSign c d = true)
    (shows : (holeValue? props expression).getD (Template.Segment.hole expression).text = c :: d :: more) :
    Css.check css.toList ≠ .ok () := by
  intro accepted
  have clean := (Css.check_eq_ok_iff.mp accepted).2.1
  unfold interpolate at filled
  split at filled
  · contradiction
  · obtain rfl := Except.ok.inj filled
    obtain ⟨before, after, replaced⟩ := Template.replace_of_mem (holeValue? props) member
    have solid : Text.isBlank c = false ∧ Text.isBlank d = false := by
      have signs : (c = '=' ∧ d = '>') ∨ (c = '$' ∧ d = '{') := by simpa [Css.isSign] using sign
      rcases signs with ⟨rfl, rfl⟩ | ⟨rfl, rfl⟩ <;> decide
    obtain ⟨earlier, later, trimmed⟩ := Text.trim_append solid before (more ++ after)
    rw [shows, List.append_assoc] at replaced
    rw [String.toList_ofList, replaced, List.cons_append, List.cons_append, trimmed,
      Css.looksLikeScript_of_isSign sign] at clean
    exact Bool.noConfusion clean

/-- Every hole of an accepted body has been filled. -/
theorem told_of_accepted {body css : String} {props : Combination} (filled : interpolate body props = .ok css)
    (accepted : Css.check css.toList = .ok ()) {expression : List Char}
    (member : expression ∈ Template.expressions body.toList) : ∃ value, holeValue? props expression = some value := by
  cases told : holeValue? props expression with
  | some value => exact ⟨value, rfl⟩
  | none =>
    have open_hole : (none : Option (List Char)).getD (Template.Segment.hole expression).text =
        '$' :: '{' :: (expression ++ ['}']) := rfl
    rw [← told] at open_hole
    exact absurd accepted (not_accepted_of_sign filled member rfl open_hole)

end Rule
end StaticStyles
