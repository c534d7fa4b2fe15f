import StaticStyles.Proofs.ByteReading

/-!
Replacing the interpolations of any text, whether or not a template can hold it. They are slices of the text, from left
to right, and what replacing writes is the text with some of the slices exchanged (`Template.replaceAt`). Whatever inert
texts they are exchanged for, no interpolation is left, unless a dollar sign meets a brace (`Template.holes_replaced`).
-/
namespace StaticStyles.Text

/-- The piece of a text between two byte offsets. -/
def slice (start stop : Nat) (text : List Char) : List Char := takeBytes (stop - start) (dropBytes start text)

theorem takeBytes_byteSize (piece after : List Char) : takeBytes (byteSize piece) (piece ++ after) = piece := by
  induction piece with
  | nil =>
    cases after with
    | nil => rfl
    | cons c after =>
      have larger : ¬ c.utf8Size ≤ 0 := Nat.not_le_of_lt c.utf8Size_pos
      rw [byteSize_nil, List.nil_append, takeBytes, if_neg larger]
  | cons c piece ih =>
    rw [List.cons_append, byteSize_cons, takeBytes, if_pos (Nat.le_add_right _ _), Nat.add_sub_cancel_left, ih]

theorem IsSlice.slice_eq {text piece : List Char} {start stop : Nat} (cut : IsSlice text start stop piece) :
    slice start stop text = piece := by
  obtain ⟨before, after, rfl, rfl, rfl⟩ := cut
  rw [slice, Template.dropBytes_byteSize, Nat.add_sub_cancel_left, takeBytes_byteSize]

theorem IsSlice.stop_le {text piece : List Char} {start stop : Nat} (cut : IsSlice text start stop piece) :
    stop ≤ byteSize text := by
  obtain ⟨before, after, rfl, rfl, rfl⟩ := cut
  simp only [byteSize_append]
  omega

end StaticStyles.Text

namespace StaticStyles.Template
open Text

/-! ## Interpolations as slices -/

theorem exists_of_mem_holesFrom {start : Nat} {pieces : List Segment} {hole : Interpolation}
    (member : hole ∈ holesFrom start pieces) :
    ∃ before after, pieces.flatMap Segment.text = before ++ ((Segment.hole hole.expression).text ++ after) ∧
      hole.start = start + byteSize before ∧ hole.stop = hole.start + byteSize (Segment.hole hole.expression).text := by
  induction pieces generalizing start with
  | nil => contradiction
  | cons piece pieces ih =>
    cases piece with
    | raw text =>
      obtain ⟨before, after, split, first, last⟩ := ih member
      refine ⟨text ++ before, after, ?_, ?_, last⟩
      · rw [List.flatMap_cons, split, List.append_assoc]
        rfl
      · rw [first, byteSize_append, Nat.add_assoc]
    | hole expression =>
      rcases List.mem_cons.mp member with rfl | member
      · exact ⟨[], pieces.flatMap Segment.text, rfl, rfl, rfl⟩
      · obtain ⟨before, after, split, first, last⟩ := ih member
        refine ⟨(Segment.hole expression).text ++ before, after, ?_, ?_, last⟩
        · rw [List.flatMap_cons, split, List.append_assoc]
        · rw [first, byteSize_append, Nat.add_assoc]

/-- An interpolation is the slice of the text that it says, with its braces. -/
theorem isSlice_of_mem {text : List Char} {hole : Interpolation} (member : hole ∈ interpolations text) :
    IsSlice text hole.start hole.stop (Segment.hole hole.expression).text := by
  obtain ⟨before, after, split, first, last⟩ := exists_of_mem_holesFrom member
  rw [text_segments] at split
  rw [Nat.zero_add] at first
  exact ⟨before, after, split, first, last.trans (by rw [first])⟩

/-! ## Replacing by place -/

/-- A text from a byte position on, with those of the listed interpolations exchanged for which there is a text. -/
def spliceFrom (text? : Interpolation → Option (List Char)) (body : List Char) :
    (last : Nat) → List Interpolation → List Char
  | last, [] => dropBytes last body
  | last, hole :: more =>
    slice last hole.start body ++ (text? hole).getD (slice hole.start hole.stop body) ++
      spliceFrom text? body hole.stop more

/-- A text with those of its interpolations exchanged for which there is a text; it may depend on their place. -/
def replaceAt (text? : Interpolation → Option (List Char)) (body : List Char) : List Char :=
  spliceFrom text? body 0 (interpolations body)

/-- Segments from a byte position on, each hole as the text that its place is given, or as it is written. -/
def fillFrom (text? : Interpolation → Option (List Char)) : (start : Nat) → List Segment → List Char
  | _, [] => []
  | start, .raw text :: rest => text ++ fillFrom text? (start + byteSize text) rest
  | start, .hole expression :: rest =>
    let stop := start + byteSize (Segment.hole expression).text
    (text? ⟨start, stop, expression⟩).getD (Segment.hole expression).text ++ fillFrom text? stop rest

variable {text? : Interpolation → Option (List Char)} {start : Nat}

/-- What a splice has yet to write: the text that it has passed but not written, and the segments behind it. -/
theorem spliceFrom_eq (text? : Interpolation → Option (List Char)) (written kept : List Char) (pieces : List Segment) :
    spliceFrom text? (written ++ (kept ++ pieces.flatMap Segment.text)) (byteSize written)
        (holesFrom (byteSize written + byteSize kept) pieces) =
      kept ++ fillFrom text? (byteSize written + byteSize kept) pieces := by
  induction pieces generalizing written kept with
  | nil => simp [holesFrom, spliceFrom, fillFrom, dropBytes_byteSize]
  | cons piece pieces ih =>
    cases piece with
    | raw text =>
      have later := ih written (kept ++ text)
      rw [byteSize_append, ← Nat.add_assoc] at later
      simpa [holesFrom, fillFrom, Segment.text] using later
    | hole expression =>
      have before : IsSlice (written ++ (kept ++ ((Segment.hole expression).text ++ pieces.flatMap Segment.text)))
          (byteSize written) (byteSize written + byteSize kept) kept := ⟨written, _, rfl, rfl, rfl⟩
      have taken : IsSlice (written ++ (kept ++ ((Segment.hole expression).text ++ pieces.flatMap Segment.text)))
          (byteSize written + byteSize kept)
          (byteSize written + byteSize kept + byteSize (Segment.hole expression).text) (Segment.hole expression).text :=
        ⟨written ++ kept, pieces.flatMap Segment.text, (List.append_assoc _ _ _).symm, (byteSize_append _ _).symm,
          by rw [byteSize_append]⟩
      have later := ih (written ++ (kept ++ (Segment.hole expression).text)) []
      simp only [List.append_assoc, List.nil_append, byteSize_append, byteSize_nil, Nat.add_zero,
        ← Nat.add_assoc] at later
      rw [List.flatMap_cons, holesFrom, spliceFrom, fillFrom, before.slice_eq, taken.slice_eq]
      simp only [later, List.append_assoc]

theorem replaceAt_eq (text? : Interpolation → Option (List Char)) (body : List Char) :
    replaceAt text? body = fillFrom text? 0 (segments body) := by
  have all := spliceFrom_eq text? [] [] (segments body)
  rw [text_segments] at all
  exact all

theorem fillFrom_expression (value? : List Char → Option (List Char)) (start : Nat) (pieces : List Segment) :
    fillFrom (fun hole => value? hole.expression) start pieces = pieces.flatMap (Segment.fill value?) := by
  induction pieces generalizing start with
  | nil => rfl
  | cons piece pieces ih =>
    cases piece <;> simp only [fillFrom, List.flatMap_cons, Segment.fill, ih]

theorem fillFrom_eq_text {pieces : List Segment} (kept : ∀ hole ∈ holesFrom start pieces, text? hole = none) :
    fillFrom text? start pieces = pieces.flatMap Segment.text := by
  induction pieces generalizing start with
  | nil => rfl
  | cons piece pieces ih =>
    cases piece with
    | raw text => rw [fillFrom, ih kept, List.flatMap_cons, Segment.text]
    | hole expression =>
      obtain ⟨first, others⟩ := List.forall_mem_cons.mp kept
      rw [fillFrom, first, ih others, List.flatMap_cons, Option.getD_none]

/-! ## Filled texts -/

/-- A text without a backslash, a dollar sign and an opening brace. -/
def IsInert (text : List Char) : Prop := ∀ c ∈ text, c ≠ '\\' ∧ c ≠ '$' ∧ c ≠ '{'

/-- Each of some interpolations is given an inert text. -/
def FillsInert (text? : Interpolation → Option (List Char)) (holes : List Interpolation) : Prop :=
  ∀ hole ∈ holes, ∃ text, text? hole = some text ∧ IsInert text

/-- What stands behind the first dollar sign that opens nothing among segments and has a brace right behind it once they
are filled; none if there is no such dollar sign. -/
def joinedFrom? (text? : Interpolation → Option (List Char)) : (start : Nat) → List Segment → Option (List Char)
  | _, [] => none
  | start, piece :: rest =>
    match piece, fillFrom text? (start + byteSize piece.text) rest with
    | .raw ['$'], '{' :: behind => some behind
    | _, _ => joinedFrom? text? (start + byteSize piece.text) rest

/-- What stands in a replaced text behind the first dollar sign of the body that opens nothing there and then has a
brace right behind it. -/
def joined? (text? : Interpolation → Option (List Char)) (body : List Char) : Option (List Char) :=
  joinedFrom? text? 0 (segments body)

theorem joinedFrom?_of_apart {piece : Segment} {rest : List Segment}
    (apart : piece = .raw ['$'] → (fillFrom text? (start + byteSize piece.text) rest).head? ≠ some '{') :
    joinedFrom? text? start (piece :: rest) = joinedFrom? text? (start + byteSize piece.text) rest := by
  rw [joinedFrom?]
  rintro behind rfl meets
  refine apart rfl ?_
  rw [meets]
  rfl

theorem joinedFrom?_of_meets {rest : List Segment} {behind : List Char}
    (meets : fillFrom text? (start + byteSize ['$']) rest = '{' :: behind) :
    joinedFrom? text? start (.raw ['$'] :: rest) = some behind := by
  simp only [joinedFrom?, Segment.text, meets]

theorem segments_inert {text : List Char} (inert : IsInert text) (rest : List Char) :
    segments (text ++ rest) = text.map (fun c => .raw [c]) ++ segments rest := by
  induction text with
  | nil => rfl
  | cons c text ih =>
    obtain ⟨⟨slash, dollar, _⟩, others⟩ := List.forall_mem_cons.mp inert
    rw [List.cons_append, segments_char (absurd · slash) (absurd · dollar), ih others]
    rfl

theorem interpolations_eq_nil_iff {text : List Char} :
    interpolations text = [] ↔ ∀ expression, .hole expression ∉ segments text := by
  simp only [← mem_expressions_iff, expressions, List.mem_map, not_exists, not_and]
  constructor
  · intro none expression hole member
    rw [none] at member
    contradiction
  · intro none
    rw [List.eq_nil_iff_forall_not_mem]
    exact fun hole member => none _ hole member rfl

/-- Where a filled text begins with a brace, so did the text, unless a hole has been given the empty text. -/
theorem head?_of_fillFrom {text : List Char} (inert : FillsInert text? (holesFrom start (segments text)))
    (filled : ∀ hole ∈ holesFrom start (segments text), text? hole ≠ some [])
    (opens : (fillFrom text? start (segments text)).head? = some '{') : text.head? = some '{' := by
  cases text using segments_cases with
  | empty => contradiction
  | escape c rest => simp [segments, segmentsFrom, fillFrom] at opens
  | char c rest slash bare =>
    rw [segments_char slash bare] at opens
    simpa [fillFrom] using opens
  | hole expression rest script =>
    rw [segments_hole script] at inert filled opens
    obtain ⟨⟨text, given, plain⟩, _⟩ := List.forall_mem_cons.mp inert
    obtain ⟨first, _⟩ := List.forall_mem_cons.mp filled
    rw [fillFrom, given, Option.getD_some] at opens
    cases text with
    | nil => contradiction
    | cons c text =>
      obtain rfl : c = '{' := by simpa using opens
      exact absurd rfl (plain '{' List.mem_cons_self).2.2
  | unfinished rest unread =>
    rw [segments_unfinished unread] at opens
    simp [fillFrom] at opens

theorem joinedFrom?_eq_none {text : List Char} (inert : FillsInert text? (holesFrom start (segments text)))
    (filled : ∀ hole ∈ holesFrom start (segments text), text? hole ≠ some []) :
    joinedFrom? text? start (segments text) = none := by
  induction text using segments_induction generalizing start with
  | empty => rfl
  | escape c rest ih =>
    rw [segments_escape] at inert filled ⊢
    exact (joinedFrom?_of_apart (by simp)).trans (ih inert filled)
  | char c rest slash bare ih =>
    rw [segments_char slash bare] at inert filled ⊢
    refine (joinedFrom?_of_apart ?_).trans (ih inert filled)
    intro dollar opens
    obtain rfl : c = '$' := by simpa using dollar
    exact bare rfl (head?_of_fillFrom inert filled opens)
  | hole expression rest script ih =>
    rw [segments_hole script] at inert filled ⊢
    rw [joinedFrom?_of_apart (by simp)]
    exact ih (List.forall_mem_cons.mp inert).2 (List.forall_mem_cons.mp filled).2
  | unfinished rest unread =>
    rw [segments_unfinished unread, joinedFrom?_of_apart (by simp)]
    rfl

theorem hole_not_mem_opening_iff {behind : List Char} :
    (∀ expression, .hole expression ∉ segments ('$' :: '{' :: behind)) ↔ script? behind = none := by
  cases read : script? behind with
  | none => simp [segments_unfinished read]
  | some found =>
    obtain ⟨expression, later⟩ := found
    obtain ⟨rfl, script⟩ := script?_eq_some_iff.mp read
    have opened := segments_hole script later
    simp only [Segment.text, List.cons_append, List.append_assoc, List.nil_append] at opened
    rw [opened]
    constructor
    · exact fun none => absurd List.mem_cons_self (none expression)
    · intro unread
      contradiction

/-- Filled with inert texts, a text has an interpolation exactly if the first dollar sign that meets a brace opens one
that ends. -/
theorem interpolations_fillFrom {text : List Char} (inert : FillsInert text? (holesFrom start (segments text))) :
    interpolations (fillFrom text? start (segments text)) = [] ↔
      ∀ behind, joinedFrom? text? start (segments text) = some behind → script? behind = none := by
  rw [interpolations_eq_nil_iff]
  induction text using segments_induction generalizing start with
  | empty => simp [segments, segmentsFrom, fillFrom, joinedFrom?]
  | escape c rest ih =>
    rw [segments_escape] at inert ⊢
    rw [joinedFrom?_of_apart (by simp), fillFrom, List.cons_append, List.singleton_append, segments_escape]
    simpa [Segment.text] using ih inert
  | char c rest slash bare ih =>
    rw [segments_char slash bare] at inert ⊢
    have still_slash : c = '\\' → fillFrom text? (start + byteSize [c]) (segments rest) = [] := by
      intro same
      rw [slash same]
      rfl
    by_cases joined : c = '$' ∧ (fillFrom text? (start + byteSize [c]) (segments rest)).head? = some '{'
    · -- This dollar sign decides: what opens here either ends and is found, or nothing behind it is looked at.
      obtain ⟨rfl, brace⟩ := joined
      obtain ⟨behind, meets⟩ := List.head?_eq_some_iff.mp brace
      rw [joinedFrom?_of_meets meets, fillFrom, meets, List.singleton_append, hole_not_mem_opening_iff]
      simp
    · have apart : c = '$' → (fillFrom text? (start + byteSize [c]) (segments rest)).head? ≠ some '{' :=
        fun dollar brace => joined ⟨dollar, brace⟩
      rw [joinedFrom?_of_apart (by simpa [Segment.text] using apart), fillFrom, List.singleton_append,
        segments_char still_slash apart]
      simpa [Segment.text] using ih inert
  | hole expression rest script ih =>
    rw [segments_hole script] at inert ⊢
    obtain ⟨⟨text, given, plain⟩, others⟩ := List.forall_mem_cons.mp inert
    rw [joinedFrom?_of_apart (by simp), fillFrom, given, Option.getD_some, segments_inert plain]
    simpa using ih others
  | unfinished rest unread =>
    rw [segments_unfinished unread, joinedFrom?_of_apart (by simp)]
    simp [fillFrom, segments_unfinished unread, joinedFrom?]

theorem interpolations_replaceAt {body : List Char} (inert : FillsInert text? (interpolations body)) :
    interpolations (replaceAt text? body) = [] ↔
      ∀ behind, joined? text? body = some behind → script? behind = none := by
  rw [replaceAt_eq]
  exact interpolations_fillFrom inert

theorem interpolations_replaceAt_eq_nil {body : List Char} (inert : FillsInert text? (interpolations body))
    (filled : ∀ hole ∈ interpolations body, text? hole ≠ some []) : interpolations (replaceAt text? body) = [] := by
  rw [interpolations_replaceAt inert, joined?, joinedFrom?_eq_none inert filled]
  intro behind
  exact nofun

theorem replace_eq_replaceAt (value? : List Char → Option (List Char)) (body : List Char) :
    replace value? body = replaceAt (fun hole => value? hole.expression) body := by
  rw [replaceAt_eq, fillFrom_expression, replace]

/-- The interpolations of any text are slices of it with their braces, from left to right, and what is replaced is those
slices for which there is a text: so if there is none, the text stays as it is. If each is replaced by a text without a
backslash, dollar sign or opening brace, then none is left or has come about, unless a dollar sign of the body has got a
brace right behind it and the first such dollar sign opens with it an interpolation that ends. That takes the empty
text. -/
theorem holes_replaced (body : List Char) :
    (∀ hole ∈ interpolations body, hole.stop ≤ byteSize body ∧
      IsSlice body hole.start hole.stop ('$' :: '{' :: (hole.expression ++ ['}']))) ∧
    (interpolations body).Pairwise (fun a b => a.stop ≤ b.start) ∧
    (∀ value?, replace value? body = replaceAt (fun hole => value? hole.expression) body) ∧
    ∀ text?, ((∀ hole ∈ interpolations body, text? hole = none) → replaceAt text? body = body) ∧
      ((∀ hole ∈ interpolations body, ∃ text, text? hole = some text ∧ IsInert text) →
        (interpolations (replaceAt text? body) = [] ↔
          ∀ behind, joined? text? body = some behind → script? behind = none) ∧
        ((∀ hole ∈ interpolations body, text? hole ≠ some []) → interpolations (replaceAt text? body) = [])) := by
  refine ⟨?_, pairwise_interpolations body, fun value? => replace_eq_replaceAt value? body, ?_⟩
  · intro hole member
    exact ⟨(isSlice_of_mem member).stop_le, isSlice_of_mem member⟩
  · intro text?
    refine ⟨?_, fun inert => ⟨interpolations_replaceAt inert, interpolations_replaceAt_eq_nil inert⟩⟩
    intro kept
    rw [replaceAt_eq, fillFrom_eq_text kept, text_segments]

/-- An escaped dollar sign in front of a hole and a brace, and an interpolation at the end that is left open. -/
theorem holes_replaced_escaped :
    let body := ['\\', '$', '$', '{', 'x', '}', '{', 'y', '}', ' ', '$', '{', 'z']
    let zero : Interpolation → Option (List Char) := fun _ => some ['0']
    let emptied : Interpolation → Option (List Char) := fun _ => some []
    interpolations body = [⟨2, 6, ['x']⟩] ∧ replaceAt (fun _ => none) body = body ∧
      interpolations (replaceAt zero body) = [] ∧ joined? emptied body = none ∧
      replaceAt emptied body = ['\\', '$', '{', 'y', '}', ' ', '$', '{', 'z'] ∧
      interpolations (replaceAt emptied body) = [] := by
  intro body zero emptied
  obtain ⟨_, _, _, replaced⟩ := holes_replaced body
  have apart : joined? emptied body = none := by decide
  refine ⟨by decide, (replaced _).1 fun _ _ => rfl, ?_, apart, by decide, ?_⟩
  · refine ((replaced zero).2 fun _ _ => ⟨['0'], rfl, by simp [IsInert]⟩).2 fun _ _ => ?_
    simp [zero]
  · refine ((replaced emptied).2 fun _ _ => ⟨[], rfl, List.forall_mem_nil _⟩).1.mpr ?_
    rw [apart]
    exact fun _ => nofun

/-- Replaced by the empty text, a hole leaves a dollar sign in front of a brace, and the two open another hole. -/
theorem joined_hole :
    let body := ['$', '$', '{', 'x', '}', '{', 'y', '}']
    let value? : List Char → Option (List Char) := fun _ => some []
    (∀ expression ∈ expressions body, ∃ text, value? expression = some text ∧ IsInert text) ∧
      replace value? body = ['$', '{', 'y', '}'] ∧ interpolations (replace value? body) = [⟨0, 4, ['y']⟩] := by
  intro body value?
  exact ⟨fun _ _ => ⟨[], rfl, List.forall_mem_nil _⟩, by decide, by decide⟩

end StaticStyles.Template
