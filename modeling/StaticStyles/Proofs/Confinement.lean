import StaticStyles.Proofs.Interpolation
import StaticStyles.Proofs.Places
import StaticStyles.Proofs.TrimmedText

/-!
What a value does to the body that it is put into. An accepted value leaves the delimiters behind a hole as they
are if the hole stands outside strings and comments and no slash meets a star (`Free.fits`), and so does a value
without quotes, slashes, stars and backslashes wherever it stands (`Bare.fits`); other values have to fit their
place. If they all do, the body of a record has the delimiters of the body with a `0` in every hole
(`delimiters_of_confined`). A value with a quote need not fit into a string (`unconfined_label`).
-/
namespace StaticStyles.Css
open Css.Place Template

/-! ## Values in their places -/

/-- A value shows no delimiter in its place, and the text behind it is read as if it were a `0`. -/
def Fits (place : Place) (value rest : List Char) : Prop :=
  place.delimiters value = [] ∧ Alike rest (place.after value) (place.next '0')

/-- A place outside strings and comments where no slash meets a star on either side of the value. -/
def Free (place : Place) (value rest : List Char) : Prop :=
  place.isOutside = true ∧ (place = .outside true → (value ++ rest).head? ≠ some '*') ∧ Apart value rest

/-- A character that has no meaning for strings and comments. -/
def isOrdinary (c : Char) : Bool := c ≠ '\'' && c ≠ '"' && c ≠ '/' && c ≠ '*' && c ≠ '\\'

/-- A value, not empty, of ordinary characters. -/
def Bare (value : List Char) : Prop := value ≠ [] ∧ value.all isOrdinary = true

instance (place : Place) (value rest : List Char) : Decidable (Fits place value rest) :=
  inferInstanceAs (Decidable (_ ∧ _))

instance (a b : List Char) : Decidable (Apart a b) := inferInstanceAs (Decidable (¬ (_ ∧ _)))

instance (place : Place) (value rest : List Char) : Decidable (Free place value rest) :=
  inferInstanceAs (Decidable (_ ∧ _ ∧ _))

instance (value : List Char) : Decidable (Bare value) := inferInstanceAs (Decidable (_ ∧ _))

variable {place : Place} {value rest : List Char}

theorem checkValue_eq_ok_iff : checkValue value = .ok () ↔ delimiters? value = some [] := by
  unfold checkValue delimiters?
  cases strip value with
  | none => simp
  | some kept =>
    have inside : kept.any isDelimiter = false ↔ kept.filter isDelimiter = [] := by
      rw [List.any_eq_false, List.filter_eq_nil_iff]
    rw [Option.map_some, Option.some_inj, ← inside]
    by_cases ends : kept.any isDelimiter = true
    · simp only [ends, if_true, reduceCtorEq]
    · simp only [Bool.eq_false_iff.mpr ends, Bool.false_eq_true, if_false]

theorem Free.fits (free : Free place value rest) (accepted : checkValue value = .ok ()) :
    Fits place value rest := by
  obtain ⟨plain, before, behind⟩ := free
  cases place with
  | string | comment => contradiction
  | outside slash =>
    have alike : Alike (value ++ rest) (.outside slash) (.outside false) :=
      alike_outside fun pending => before (congrArg _ pending)
    have read := checkValue_eq_ok_iff.mp accepted
    rw [delimiters?_eq, ← alike.left.isOutside_after, ← alike.left.delimiters_eq] at read
    obtain ⟨ends, shown⟩ := Option.ite_none_right_eq_some.mp read
    refine ⟨Option.some.inj shown, ?_⟩
    rw [next_outside (by decide)]
    cases reached : (Place.outside slash).after value with
    | string | comment =>
      rw [reached] at ends
      contradiction
    | outside pending =>
      refine alike_outside ?_
      rintro rfl star
      by_cases empty : value = []
      · subst empty
        exact before reached star
      · exact behind ⟨getLast?_of_after reached empty, star⟩

/-! ## Bare values -/

theorem isOrdinary_iff {c : Char} :
    isOrdinary c = true ↔ c ≠ '\'' ∧ c ≠ '"' ∧ c ≠ '/' ∧ c ≠ '*' ∧ c ≠ '\\' := by
  simp [isOrdinary, and_assoc]

theorem next_of_isOrdinary {c : Char} (ordinary : isOrdinary c = true) (place : Place) :
    place.next c = place.next '0' := by
  obtain ⟨single, double, slash, star, backslash⟩ := isOrdinary_iff.mp ordinary
  cases place with
  | outside => rw [next_outside ⟨single, double, slash, star⟩, next_outside (by decide)]
  | string quote escaped =>
    cases escaped with
    | true => rfl
    | false => cases quote <;> simp [next, Quote.char, single, double, backslash]
  | comment last => simp [next, slash, star]

theorem next_zero_zero (place : Place) : (place.next '0').next '0' = place.next '0' := by
  cases place with
  | outside slash => rw [next_outside (by decide), next_outside (by decide)]
  | string quote escaped => cases quote <;> cases escaped <;> rfl
  | comment star => cases star <;> rfl

theorem isOutside_next_zero (place : Place) : (place.next '0').isOutside = place.isOutside := by
  cases place with
  | outside slash => rw [next_outside (by decide)]; rfl
  | string quote escaped => cases quote <;> cases escaped <;> rfl
  | comment star => cases star <;> rfl

theorem after_ordinary (ordinary : value.all isOrdinary = true) (place : Place) :
    (place.next '0').after value = place.next '0' := by
  induction value with
  | nil => rfl
  | cons c value ih =>
    obtain ⟨first, others⟩ := Bool.and_eq_true_iff.mp ordinary
    rw [after_cons, next_of_isOrdinary first, next_zero_zero, ih others]

theorem delimiters_ordinary (ordinary : value.all isOrdinary = true) (inside : place.isOutside = false) :
    place.delimiters value = [] := by
  induction value generalizing place with
  | nil => rfl
  | cons c value ih =>
    obtain ⟨first, others⟩ := Bool.and_eq_true_iff.mp ordinary
    rw [delimiters, inside, next_of_isOrdinary first]
    exact ih others (by rw [isOutside_next_zero, inside])

theorem Bare.fits (bare : Bare value) (accepted : checkValue value = .ok ()) (place : Place) (rest : List Char) :
    Fits place value rest := by
  obtain ⟨nonempty, ordinary⟩ := bare
  obtain ⟨c, others, rfl⟩ := List.exists_cons_of_ne_nil nonempty
  obtain ⟨first, later⟩ := Bool.and_eq_true_iff.mp ordinary
  by_cases plain : place.isOutside = true
  · refine Free.fits ⟨plain, ?_, ?_⟩ accepted
    · rintro _ star
      rw [Option.some.inj star] at first
      contradiction
    · rintro ⟨slash, _⟩
      exact absurd (List.all_eq_true.mp ordinary '/' (List.mem_of_getLast? slash)) (by decide)
  · refine ⟨delimiters_ordinary ordinary (Bool.eq_false_iff.mpr plain), ?_⟩
    rw [after_cons, next_of_isOrdinary first, after_ordinary later]
    exact .refl _ _

/-! ## Bodies -/

/-- Every value that fills one of the segments, read from a place on, is bare, is free in its place or fits into
it. The places are those of the body with a `0` in every hole. -/
def Confined (value? : List Char → Option (List Char)) : Place → List Segment → Prop
  | _, [] => True
  | place, .raw text :: rest => Confined value? (place.after text) rest
  | place, .hole expression :: rest =>
    (∀ value ∈ value? expression,
      Bare value ∨ Free place value (rest.flatMap (Segment.fill value?)) ∨
        Fits place value (rest.flatMap (Segment.fill value?))) ∧
      Confined value? (place.next '0') rest

instance Confined.decide (value? : List Char → Option (List Char)) (place : Place) :
    (pieces : List Segment) → Decidable (Confined value? place pieces)
  | [] => isTrue trivial
  | .raw text :: rest => Confined.decide value? (place.after text) rest
  | .hole _ :: rest =>
    have := Confined.decide value? (place.next '0') rest
    inferInstanceAs (Decidable (_ ∧ _))

/-- Filled with accepted values that are confined to their places, segments show the delimiters that they show
with a `0` in every hole. -/
theorem delimiters_fill {value? : List Char → Option (List Char)} {pieces : List Segment} {p q : Place}
    (accepted : ∀ expression, .hole expression ∈ pieces →
      ∃ value, value? expression = some value ∧ checkValue value = .ok ())
    (confined : Confined value? q pieces) (alike : Alike (pieces.flatMap (Segment.fill value?)) p q) :
    p.delimiters (pieces.flatMap (Segment.fill value?)) =
      q.delimiters (pieces.flatMap (Segment.fill fun _ => some ['0'])) := by
  induction pieces generalizing p q with
  | nil => rfl
  | cons piece pieces ih =>
    have later (expression) (member : .hole expression ∈ pieces) := accepted expression (.tail _ member)
    rw [List.flatMap_cons] at alike
    rw [List.flatMap_cons, List.flatMap_cons, delimiters_append, delimiters_append, alike.left.delimiters_eq]
    cases piece with
    | raw text =>
      have rest := ih later confined alike.append
      rw [Segment.fill] at rest
      rw [Segment.fill, Segment.fill, rest]
    | hole expression =>
      obtain ⟨value, told, kept⟩ := accepted expression List.mem_cons_self
      have fits : Fits q value (pieces.flatMap (Segment.fill value?)) := by
        rcases confined.1 value told with bare | free | fits
        · exact bare.fits kept _ _
        · exact free.fits kept
        · exact fits
      have filled : Segment.fill value? (.hole expression) = value := by rw [Segment.fill, told, Option.getD_some]
      rw [filled] at alike ⊢
      have zero : Segment.fill (fun _ => some ['0']) (.hole expression) = ['0'] := rfl
      have unseen : q.delimiters ['0'] = [] := by
        refine delimiters_eq_nil ?_ q
        intro c member
        rw [List.mem_singleton.mp member]
        rfl
      rw [fits.1, zero, unseen, ih later confined.2 (alike.append.trans fits.2)]
      rfl

end StaticStyles.Css

namespace StaticStyles

/-! ## White space -/

theorem Css.ordinary_of_isBlank {c : Char} (blank : Text.isBlank c = true) :
    isOrdinary c = true ∧ isDelimiter c = false := by
  have other {d : Char} (solid : Text.isBlank d = false) : c ≠ d := Text.ne_of_isBlank blank solid
  refine ⟨isOrdinary_iff.mpr ?_, ?_⟩
  · exact ⟨other (by decide), other (by decide), other (by decide), other (by decide), other (by decide)⟩
  · have opening : c ≠ '\x7b' := other (by decide)
    have closing : c ≠ '\x7d' := other (by decide)
    have ending : c ≠ ';' := other (by decide)
    simp [isDelimiter, opening, closing, ending]

theorem Css.after_blank {text : List Char} (blank : ∀ c ∈ text, Text.isBlank c = true) :
    (Place.outside false).after text = .outside false := by
  have zero : (Place.outside false).next '0' = .outside false := Place.next_outside (by decide) false
  rw [← zero]
  exact after_ordinary (List.all_eq_true.mpr fun c member => (ordinary_of_isBlank (blank c member)).1) _

theorem Css.delimiters_trim (text : List Char) :
    (Place.outside false).delimiters (Text.trim text) = (Place.outside false).delimiters text := by
  obtain ⟨lead, trail, whole, before, behind⟩ := Text.exists_trim text
  conv_rhs => rw [whole]
  rw [Place.delimiters_append, Place.delimiters_append, after_blank before,
    Place.delimiters_eq_nil fun c member => (ordinary_of_isBlank (before c member)).2,
    Place.delimiters_eq_nil fun c member => (ordinary_of_isBlank (behind c member)).2, List.nil_append,
    List.append_nil]

/-! ## Records -/

theorem Css.delimiters?_of_accepted {css : List Char} (accepted : check css = .ok ()) :
    delimiters? css = some ((Place.outside false).delimiters css) := by
  obtain ⟨_, _, ⟨kept, ended, _⟩, _⟩ := check_eq_ok_iff.mp accepted
  have read : delimiters? css = some (kept.filter isDelimiter) := by rw [delimiters?, ended, Option.map_some]
  rw [delimiters?_eq] at read ⊢
  rw [if_pos (Option.ite_none_right_eq_some.mp read).1]

/-- What fills the holes of an accepted body has been accepted as a value. -/
theorem Rule.accepted_of_interpolate {body css : String} {props : Combination}
    (filled : interpolate body props = .ok css) {expression value : List Char}
    (member : expression ∈ Template.expressions body.toList) (told : holeValue? props expression = some value) :
    Css.checkValue value = .ok () := by
  unfold interpolate at filled
  split at filled
  · contradiction
  · next faultless =>
    have sound := List.findSome?_eq_none_iff.mp faultless expression member
    rw [holeFault?, told, Option.bind_some] at sound
    split at sound
    · assumption
    · contradiction

/-- The body of a record whose values are all confined to their places ends the same declarations and opens and
closes the same blocks as the declared body with a neutral value in every hole. -/
theorem Rule.delimiters_of_confined {limit : Nat} {declaration : Declaration} {patterns : List Pattern}
    {record : Record} (member : record ∈ (generate limit declaration patterns).records)
    (confined : Css.Confined (holeValue? ((Pattern.heldDefaults patterns).insertAll record.combination.entries))
      (.outside false) (Template.segments declaration.body.toList)) :
    ∃ delimiters, Css.delimiters? record.body.toList = some delimiters ∧
      Css.delimiters? (Css.neutral declaration.body.toList) = some delimiters := by
  obtain ⟨⟨_, neutral, _⟩, combination, _, css, made, rfl⟩ := mem_records_generate_iff.mp member
  obtain ⟨filled, accepted⟩ := bodyFor_eq_ok_iff.mp made
  let props := (Pattern.heldDefaults patterns).insertAll combination.entries
  have values (expression) (hole : .hole expression ∈ Template.segments declaration.body.toList) :
      ∃ value, holeValue? props expression = some value ∧ Css.checkValue value = .ok () := by
    have listed := Template.mem_expressions_iff.mpr hole
    obtain ⟨value, told⟩ := told_of_accepted filled accepted listed
    exact ⟨value, told, accepted_of_interpolate filled listed told⟩
  have same : (Css.Place.outside false).delimiters css.toList =
      (Css.Place.outside false).delimiters (Css.neutral declaration.body.toList) := by
    unfold interpolate at filled
    split at filled
    · contradiction
    · rw [← Except.ok.inj filled, String.toList_ofList, Css.delimiters_trim]
      exact Css.delimiters_fill values confined (.refl _ _)
  exact ⟨_, Css.delimiters?_of_accepted accepted,
    (Css.delimiters?_of_accepted neutral).trans (congrArg some same.symm)⟩

/-- A value with a delimiter in a comment of its own, once in a string, into which it fits, and once free. -/
theorem Rule.delimiters_of_confined_note :
    let declaration : Declaration :=
      .ofBody "Box" none "content: \"$\x7bp => p.note\x7d\"; top: 0 $\x7bp => p.note\x7d;"
    let patterns : List Pattern := [⟨"note", ["/*;*/"], none⟩]
    let record : Record := .ofBody "Box" (.ofList [("note", "/*;*/")]) "content: \"/*;*/\"; top: 0 /*;*/;"
    record ∈ (generate defaultLimit declaration patterns).records ∧
      Css.Confined (holeValue? ((Pattern.heldDefaults patterns).insertAll record.combination.entries))
        (.outside false) (Template.segments declaration.body.toList) ∧
      ∃ delimiters, Css.delimiters? record.body.toList = some delimiters ∧
        Css.delimiters? (Css.neutral declaration.body.toList) = some delimiters := by
  intro declaration patterns record
  have member : record ∈ (generate defaultLimit declaration patterns).records := by decide +kernel
  have confined : Css.Confined (holeValue? ((Pattern.heldDefaults patterns).insertAll record.combination.entries))
      (.outside false) (Template.segments declaration.body.toList) := by
    decide +kernel
  exact ⟨member, confined, delimiters_of_confined member confined⟩

/-- A value that closes the string around its hole, ends two declarations and opens a string again. -/
theorem Rule.unconfined_label :
    let declaration : Declaration := .ofBody "Box" none "content: \"$\x7bp => p.label\x7d\";"
    ∃ record ∈ (generate defaultLimit declaration [⟨"label", ["\"; color: red; x: \""], none⟩]).records,
      record.body = "content: \"\"; color: red; x: \"\";" ∧
      Css.delimiters? record.body.toList = some [';', ';', ';'] ∧
      Css.delimiters? (Css.neutral declaration.body.toList) = some [';'] := by
  decide +kernel

end StaticStyles
