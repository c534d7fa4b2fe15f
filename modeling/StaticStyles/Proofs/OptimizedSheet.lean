import StaticStyles.Css.Optimize
import StaticStyles.Proofs.OnePassMinifier

/-!
No stylesheet is lost on its way through the optimizer. Whatever the transform gives, and whether it is done in time or
not, a text that is not blank comes out as one that is not blank, and what is no CSS comes out as it is
(`optimized_not_lost`).
-/
namespace StaticStyles.Css
open Text

/-! ## What minifying leaves -/

theorem dropBeforeBrace_eq_nil_iff {text : List Char} : dropBeforeBrace text = [] ↔ text = [] := by
  rw [← List.getLast?_eq_none_iff, getLast?_dropBeforeBrace, List.getLast?_eq_none_iff]

theorem spaced_eq_nil_iff {text : List Char} : spaced none none text = [] ↔ isBlankText text = true := by
  have dropped : isDropped none none = true := rfl
  rcases exists_last_solid text with blank | ⟨start, c, trail, rfl, solid, _⟩
  · simp [spaced_blankText blank dropped, blank]
  · simp [spaced_append solid, isBlankText, solid]

/-- Minifying leaves nothing of a text that is comments and white space only. -/
theorem minify_eq_nil_iff {css : List Char} : minify css = [] ↔ isBlankText (dropComments css) = true := by
  rw [minify_eq, dropBeforeBrace_eq_nil_iff, spaced_eq_nil_iff]

theorem isBlankText_minify {css : List Char} : isBlankText (minify css) = true ↔ minify css = [] := by
  have trimmed : trim (minify css) = minify css := (isTrimmed_trim _).trim_self
  rw [← trim_eq_nil_iff, trimmed]

/-! ## What stands in for the transform -/

section
variable {transform : String → Outcome} {minifying : Bool} {css : String}

theorem fallback_eq (minifying : Bool) (css : String) :
    fallback minifying css =
      ⟨if minifying = true ∧ minify css.toList ≠ [] then String.ofList (minify css.toList) else css, none⟩ := by
  rw [fallback]
  by_cases minified : minifying = true ∧ minify css.toList ≠ []
  · rw [if_pos minified, if_pos (by simpa using minified)]
  · rw [if_neg minified, if_neg (by simpa using minified)]

theorem isBlankText_fallback (solid : isBlankText css.toList = false) :
    isBlankText (fallback minifying css).code.toList = false := by
  rw [fallback_eq]
  split
  · next minified =>
    rw [String.toList_ofList, ← Bool.not_eq_true, isBlankText_minify]
    exact minified.2
  · exact solid

theorem isBlankText_settle (solid : isBlankText css.toList = false) (outcome : Outcome) :
    isBlankText (settle minifying css outcome).code.toList = false := by
  cases outcome with
  | produced code map =>
    rw [settle]
    split
    · exact isBlankText_fallback solid
    · next filled => exact Bool.not_eq_true _ ▸ filled
  | failed => exact isBlankText_fallback solid
  | timedOut => exact isBlankText_fallback solid

/-! ## The two entry points -/

theorem optimize_of_refused {fault : Fault} (refused : check css.toList = .error fault) :
    optimize transform minifying css = ⟨css, none⟩ := by
  rw [optimize, refused]

theorem optimize_of_accepted (accepted : check css.toList = .ok ()) :
    optimize transform minifying css = settle minifying css (transform css) := by
  rw [optimize, accepted]

theorem isBlankText_optimize (solid : isBlankText css.toList = false) (transform : String → Outcome) :
    isBlankText (optimize transform minifying css).code.toList = false := by
  cases checked : check css.toList with
  | error fault =>
    rw [optimize_of_refused checked]
    exact solid
  | ok =>
    rw [optimize_of_accepted checked]
    exact isBlankText_settle solid _

theorem optimizeWithin_of_accepted (accepted : check css.toList = .ok ()) (inTime : Bool) :
    optimizeWithin inTime transform minifying css =
      if inTime = true then optimize transform minifying css else fallback minifying css := by
  rw [optimizeWithin, optimize_of_accepted accepted, optimize_of_accepted accepted]
  cases inTime <;> rfl

end

/-- With any transform, for any targets, and with any outcome of it: from both entry points a text that is not blank
comes out as one that is not blank, and a text that is no CSS as it is. For CSS, an unbounded run takes what the
transform gives unless that is blank or nothing, and a bounded run gives what an unbounded one gives unless time is up.
What stands in otherwise is the minified text if that is asked for and the text has more than comments and white space,
else the text itself. -/
theorem optimized_not_lost (transform : Option (List String) → Bool → String → Outcome)
    (targets : Option (List String)) (minifying inTime : Bool) (css : String) :
    let free := optimize (transform targets minifying) minifying css
    let bounded := optimizeWithin inTime (transform targets minifying) minifying css
    (isBlankText css.toList = false →
        isBlankText free.code.toList = false ∧ isBlankText bounded.code.toList = false) ∧
      (∀ fault, check css.toList = .error fault → free = ⟨css, none⟩ ∧ bounded = ⟨css, none⟩) ∧
      (check css.toList = .ok () →
        (∀ code map, transform targets minifying css = .produced code map → isBlankText code.toList = false →
          free = ⟨code, map⟩) ∧
        ((∀ code map, transform targets minifying css = .produced code map → isBlankText code.toList = true) →
          free = fallback minifying css) ∧
        bounded = if inTime = true then free else fallback minifying css) ∧
      fallback minifying css =
        ⟨if minifying = true ∧ minify css.toList ≠ [] then String.ofList (minify css.toList) else css, none⟩ ∧
      (minify css.toList = [] ↔ isBlankText (dropComments css.toList) = true) := by
  intro free bounded
  refine ⟨?_, ?_, ?_, fallback_eq minifying css, minify_eq_nil_iff⟩
  · intro solid
    exact ⟨isBlankText_optimize solid _, isBlankText_optimize solid _⟩
  · intro fault refused
    exact ⟨optimize_of_refused refused, optimize_of_refused refused⟩
  · intro accepted
    have settled : free = settle minifying css (transform targets minifying css) := optimize_of_accepted accepted
    refine ⟨?_, ?_, optimizeWithin_of_accepted accepted inTime⟩
    · intro code map produced filled
      rw [settled, produced, settle, filled]
      rfl
    · intro blank
      rw [settled]
      cases outcome : transform targets minifying css with
      | produced code map => rw [settle, if_pos (blank code map outcome)]
      | failed => rfl
      | timedOut => rfl

/-- A comment that holds what looks like a declaration is taken for CSS. Minifying leaves nothing of it, so it comes out
as it is when the transform gives a blank text, and when time is up. -/
theorem optimized_not_lost_comment :
    let css := "/* margin: 0 */"
    let transform := fun (_ : Option (List String)) (_ : Bool) (_ : String) => Outcome.produced "\n" none
    check css.toList = .ok () ∧ isBlankText css.toList = false ∧ minify css.toList = [] ∧
      optimize (transform none true) true css = ⟨css, none⟩ ∧
      optimizeWithin false (transform none true) true css = ⟨css, none⟩ := by
  intro css transform
  obtain ⟨_, _, settled, stand_in, nothing⟩ := optimized_not_lost transform none true false css
  have accepted : check css.toList = .ok () := by decide +kernel
  have empty : minify css.toList = [] := nothing.mpr (by decide +kernel)
  have itself : fallback true css = ⟨css, none⟩ := by simpa [empty] using stand_in
  obtain ⟨_, given, bounded⟩ := settled accepted
  rw [if_neg Bool.false_ne_true, itself] at bounded
  rw [itself] at given
  refine ⟨accepted, by decide, empty, given ?_, bounded⟩
  intro code map produced
  obtain ⟨rfl, _⟩ := Outcome.produced.inj produced
  rfl

end StaticStyles.Css
