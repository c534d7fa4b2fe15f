import StaticStyles.Proofs.Interpolation
import StaticStyles.Proofs.TextSearch

/-!
The grammar of template literals. What can stand in a frame up to the character that closes it is told by rules
(`Inside`), and the scanner closes a frame exactly behind such a text (`close_eq_some_iff`). A body that it accepts
has the interpolations that stand between bodies (`accepts_grammar`).
-/
namespace StaticStyles.Template

/-! ## Grammar -/

def Frame.closing : Frame → Char
  | .text => '\x60'
  | .script => '}'
  | .quote mark => mark

/-- What can stand in a frame before the character that closes it. A backslash takes any character with it, and a
dollar sign with a brace behind it opens an interpolation. -/
inductive Inside : Frame → List Char → Prop
  | empty {frame : Frame} : Inside frame []
  | escape (c : Char) {rest : List Char} (more : Inside .text rest) : Inside .text ('\\' :: c :: rest)
  | char {c : Char} {rest : List Char} (tick : c ≠ '\x60') (slash : c ≠ '\\')
    (bare : c = '$' → rest.head? ≠ some '{') (more : Inside .text rest) : Inside .text (c :: rest)
  | hole {expression rest : List Char} (script : Inside .script expression) (more : Inside .text rest) :
    Inside .text ((Segment.hole expression).text ++ rest)
  | sign {c : Char} {rest : List Char} (plain : c ∉ ['{', '}', '\'', '"', '\x60']) (more : Inside .script rest) :
    Inside .script (c :: rest)
  | string {mark : Char} {quoted rest : List Char} (quotes : mark = '\'' ∨ mark = '"')
    (inner : Inside (.quote mark) quoted) (more : Inside .script rest) :
    Inside .script (mark :: (quoted ++ mark :: rest))
  | template {body rest : List Char} (inner : Inside .text body) (more : Inside .script rest) :
    Inside .script ('\x60' :: (body ++ '\x60' :: rest))
  | group {script rest : List Char} (inner : Inside .script script) (more : Inside .script rest) :
    Inside .script ('{' :: (script ++ '}' :: rest))
  | quotedEscape {mark : Char} (c : Char) {rest : List Char} (more : Inside (.quote mark) rest) :
    Inside (.quote mark) ('\\' :: c :: rest)
  | quotedChar {mark c : Char} {rest : List Char} (other : c ≠ mark) (slash : c ≠ '\\')
    (more : Inside (.quote mark) rest) : Inside (.quote mark) (c :: rest)

abbrev IsBody : List Char → Prop := Inside .text

abbrev IsScript : List Char → Prop := Inside .script

/-- A body is read from the left: an escape, another character or an interpolation, and the rest of it. -/
theorem IsBody.induction {motive : (body : List Char) → IsBody body → Prop} (empty : motive [] .empty)
    (escape : ∀ (c : Char) (rest : List Char) (more : IsBody rest), motive rest more →
      motive ('\\' :: c :: rest) (.escape c more))
    (char : ∀ (c : Char) (rest : List Char) (tick : c ≠ '\x60') (slash : c ≠ '\\')
      (bare : c = '$' → rest.head? ≠ some '{') (more : IsBody rest), motive rest more →
      motive (c :: rest) (.char tick slash bare more))
    (hole : ∀ (expression rest : List Char) (script : IsScript expression) (more : IsBody rest), motive rest more →
      motive ((Segment.hole expression).text ++ rest) (.hole script more))
    {body : List Char} (inside : IsBody body) : motive body inside := by
  have general {frame : Frame} {body : List Char} (within : Inside frame body) (same : frame = .text)
      (inside : IsBody body) : motive body inside := by
    induction within with
    | empty => exact empty
    | escape c more ih => exact escape c _ more (ih rfl more)
    | char tick slash bare more ih => exact char _ _ tick slash bare more (ih rfl more)
    | hole script more _ ih => exact hole _ _ script more (ih rfl more)
    | _ => contradiction
  exact general inside rfl inside

/-! ## The scanner and the grammar -/

theorem close_of_inside {frame : Frame} {inner : List Char} (inside : Inside frame inner)
    (closable : frame.closing ≠ '\\') (outer : List Frame) (tail : List Char) :
    close (frame :: outer) (inner ++ frame.closing :: tail) = close outer tail := by
  -- What nests is closed inside other frames, with other text behind it.
  induction inside generalizing outer tail with
  | @empty frame =>
    cases frame with
    | text => simp [Frame.closing, close]
    | script => simp [Frame.closing, close]
    | quote mark => exact (close_quote closable).trans (if_pos rfl)
  | escape c more ih =>
    simp only [List.cons_append, close]
    exact ih closable outer tail
  | char tick slash bare more ih =>
    rw [List.cons_append, close_char tick slash fun dollar =>
      Text.head?_append_ne (bare dollar) (by simp [Frame.closing])]
    exact ih closable outer tail
  | hole script more inner ih =>
    have whole := inner (by decide) (.text :: outer)
    simp only [Frame.closing] at whole
    simp only [Segment.text, List.cons_append, List.append_assoc, List.nil_append, close, whole]
    exact ih closable outer tail
  | sign plain more ih =>
    rw [List.cons_append, close_sign plain]
    exact ih closable outer tail
  | @string mark quoted rest quotes inside more inner ih =>
    have whole := inner (by rcases quotes with rfl | rfl <;> decide) (.script :: outer)
    simp only [Frame.closing] at whole
    rcases quotes with rfl | rfl <;>
    · simp only [List.cons_append, List.append_assoc, close, whole]
      exact ih closable outer tail
  | template inside more inner ih =>
    have whole := inner (by decide) (.script :: outer)
    simp only [Frame.closing] at whole
    simp only [List.cons_append, List.append_assoc, close, whole]
    exact ih closable outer tail
  | group inside more inner ih =>
    have whole := inner (by decide) (.script :: outer)
    simp only [Frame.closing] at whole
    simp only [List.cons_append, List.append_assoc, close, whole]
    exact ih closable outer tail
  | quotedEscape c more ih =>
    simp only [List.cons_append, close]
    exact ih closable outer tail
  | quotedChar other slash more ih =>
    rw [List.cons_append, close_quote slash, if_neg other]
    exact ih closable outer tail

/-- A text closes frames, innermost first, each behind something that can stand in it. -/
def Closes : List Frame → List Char → List Char → Prop
  | [], text, rest => text = rest
  | frame :: outer, text, rest =>
    ∃ inner tail, text = inner ++ frame.closing :: tail ∧ Inside frame inner ∧ Closes outer tail rest

theorem Closes.of_empty (frame : Frame) {outer : List Frame} {text rest : List Char} (closes : Closes outer text rest) :
    Closes (frame :: outer) (frame.closing :: text) rest :=
  ⟨[], text, rfl, .empty, closes⟩

theorem ne_slash_of_closing {c closing : Char} {inner tail : List Char}
    (escape : ∀ d more, c = '\\' → inner ++ closing :: tail = d :: more → False) : c ≠ '\\' := by
  intro slash
  cases inner with
  | nil => exact escape _ _ slash rfl
  | cons d inner => exact escape _ _ slash rfl

/-- What closes frames has something that can stand in each of them. -/
theorem closes_of_close {frames : List Frame} {text rest : List Char} (closed : close frames text = some rest) :
    Closes frames text rest := by
  -- Where the scanner opens a frame, the hypothesis of the induction is split once for it and once for the frame
  -- around it.
  fun_induction close frames text with
  | case1 text => exact Option.some.inj closed
  | case2 | case3 | case14 => contradiction
  -- In the text of a template.
  | case4 outer c text ih =>
    obtain ⟨inner, tail, rfl, inside, closes⟩ := ih closed
    exact ⟨_, tail, rfl, .escape c inside, closes⟩
  | case5 outer text ih => exact .of_empty .text (ih closed)
  | case6 outer text ih =>
    obtain ⟨expression, _, rfl, script, inner, tail, rfl, inside, closes⟩ := ih closed
    refine ⟨_, tail, ?_, .hole script inside, closes⟩
    simp [Segment.text, Frame.closing]
  | case7 outer c text slash escape tick dollar ih =>
    obtain ⟨inner, tail, rfl, inside, closes⟩ := ih closed
    refine ⟨c :: inner, tail, rfl, .char tick (ne_slash_of_closing escape) ?_ inside, closes⟩
    rintro rfl brace
    obtain ⟨more, rfl⟩ := List.head?_eq_some_iff.mp brace
    exact dollar _ rfl rfl
  -- In script.
  | case8 outer text ih => exact .of_empty .script (ih closed)
  | case9 outer text ih =>
    obtain ⟨script, _, rfl, inner, more, tail, rfl, inside, closes⟩ := ih closed
    exact ⟨_, tail, by simp [Frame.closing], .group inner inside, closes⟩
  | case10 outer text ih | case11 outer text ih =>
    obtain ⟨quoted, _, rfl, inner, more, tail, rfl, inside, closes⟩ := ih closed
    exact ⟨_, tail, by simp [Frame.closing], .string (by decide) inner inside, closes⟩
  | case12 outer text ih =>
    obtain ⟨body, _, rfl, inner, more, tail, rfl, inside, closes⟩ := ih closed
    exact ⟨_, tail, by simp [Frame.closing], .template inner inside, closes⟩
  | case13 outer c text closing opening single double tick ih =>
    obtain ⟨inner, tail, rfl, inside, closes⟩ := ih closed
    have plain : c ∉ ['{', '}', '\'', '"', '\x60'] := by
      simp only [List.mem_cons, List.not_mem_nil, or_false, not_or]
      exact ⟨opening, closing, single, double, tick⟩
    exact ⟨c :: inner, tail, rfl, .sign plain inside, closes⟩
  -- In a string.
  | case15 mark outer c text ih =>
    obtain ⟨inner, tail, rfl, inside, closes⟩ := ih closed
    exact ⟨_, tail, rfl, .quotedEscape c inside, closes⟩
  | case16 outer c text slash escape ih => exact .of_empty (.quote c) (ih closed)
  | case17 mark outer c text slash escape other ih =>
    obtain ⟨inner, tail, rfl, inside, closes⟩ := ih closed
    exact ⟨c :: inner, tail, rfl, .quotedChar other (ne_slash_of_closing escape) inside, closes⟩

/-- The scanner closes a frame exactly behind what can stand in it. -/
theorem close_eq_some_iff {frame : Frame} (closable : frame.closing ≠ '\\') {text rest : List Char} :
    close [frame] text = some rest ↔ ∃ inner, text = inner ++ frame.closing :: rest ∧ Inside frame inner := by
  constructor
  · intro closed
    obtain ⟨inner, _, split, inside, rfl⟩ := closes_of_close closed
    exact ⟨inner, split, inside⟩
  · rintro ⟨inner, rfl, inside⟩
    rw [close_of_inside inside closable, close]

theorem inside_iff {frame : Frame} (closable : frame.closing ≠ '\\') {text : List Char} :
    Inside frame text ↔ close [frame] (text ++ [frame.closing]) = some [] := by
  rw [close_eq_some_iff closable]
  constructor
  · intro inside
    exact ⟨text, rfl, inside⟩
  · rintro ⟨inner, split, inside⟩
    rwa [List.append_cancel_right split]

instance (text : List Char) : Decidable (IsBody text) := decidable_of_iff _ (inside_iff (by decide)).symm

instance (text : List Char) : Decidable (IsScript text) := decidable_of_iff _ (inside_iff (by decide)).symm

/-- What a reader takes up to the character that closes a frame is what stands before it. -/
theorem taken_eq_some_iff {frame : Frame} (closable : frame.closing ≠ '\\') {text inner rest : List Char} :
    ((close [frame] text).map fun rest => (text.take (text.length - rest.length - 1), rest)) = some (inner, rest) ↔
      text = inner ++ frame.closing :: rest ∧ Inside frame inner := by
  have taken (inner : List Char) : (inner ++ frame.closing :: rest).take
      ((inner ++ frame.closing :: rest).length - rest.length - 1) = inner := by
    have length : (inner ++ frame.closing :: rest).length - rest.length - 1 = inner.length := by
      rw [List.length_append, List.length_cons]
      omega
    rw [length, List.take_left]
  rw [Option.map_eq_some_iff]
  simp only [close_eq_some_iff closable, Prod.mk.injEq]
  constructor
  · rintro ⟨_, ⟨inner, rfl, inside⟩, rfl, rfl⟩
    rw [taken]
    exact ⟨rfl, inside⟩
  · rintro ⟨rfl, inside⟩
    exact ⟨rest, ⟨inner, rfl, inside⟩, taken inner, rfl⟩

theorem body?_eq_some_iff {text body rest : List Char} :
    body? text = some (body, rest) ↔ text = body ++ '\x60' :: rest ∧ IsBody body :=
  @taken_eq_some_iff .text (by decide) _ _ _

theorem script?_eq_some_iff {text script rest : List Char} :
    script? text = some (script, rest) ↔ text = script ++ '}' :: rest ∧ IsScript script :=
  @taken_eq_some_iff .script (by decide) _ _ _

/-! ## What follows in a body -/

/-- A body that is passed leaves a template open. -/
theorem close_append {left : List Char} (inside : IsBody left) {rest : List Char} (bare : rest.head? ≠ some '{')
    (outer : List Frame) : close (.text :: outer) (left ++ rest) = close (.text :: outer) rest := by
  induction inside using IsBody.induction with
  | empty => rfl
  | escape c left more ih =>
    rw [List.cons_append, List.cons_append, close, ih]
  | char c left tick slash open_brace more ih =>
    rw [List.cons_append, close_char tick slash fun dollar => Text.head?_append_ne (open_brace dollar) bare, ih]
  | hole expression left script more ih =>
    have closed := close_of_inside script (by decide) (.text :: outer) (left ++ rest)
    simp only [Frame.closing] at closed
    simp only [Segment.text, List.cons_append, List.append_assoc, List.nil_append, close, closed, ih]

/-- An interpolation that a body opens it closes. -/
theorem IsBody.hole_closed {left right : List Char} (whole : IsBody (left ++ '$' :: '{' :: right))
    (inside : IsBody left) : ∃ script later, right = script ++ '}' :: later ∧ IsScript script ∧ IsBody later := by
  have closed : close [.text] ((left ++ '$' :: '{' :: right) ++ ['\x60']) = some [] := (inside_iff (by decide)).mp whole
  rw [List.append_assoc, close_append inside (by simp)] at closed
  have opened : close [.script, .text] (right ++ ['\x60']) = some [] := closed
  obtain ⟨script, behind, split, is_script, body, _, rfl, is_body, rfl⟩ := closes_of_close opened
  have kept : right = script ++ '}' :: body := by
    refine List.append_cancel_right (split.trans ?_)
    simp [Frame.closing]
  exact ⟨script, body, kept, is_script, is_body⟩

/-! ## Segments -/

theorem segmentsFrom_eq (passed : Nat) (text : List Char) : segmentsFrom passed text = segments (text.drop passed) := by
  induction passed generalizing text with
  | zero => rfl
  | succ n ih =>
    cases text with
    | nil => simp [segments, segmentsFrom]
    | cons c text =>
      rw [segmentsFrom, ih]
      rfl

theorem segments_hole {expression : List Char} (script : IsScript expression) (rest : List Char) :
    segments ((Segment.hole expression).text ++ rest) = .hole expression :: segments rest := by
  have read : script? (expression ++ '}' :: rest) = some (expression, rest) := script?_eq_some_iff.mpr ⟨rfl, script⟩
  have behind : (expression ++ '}' :: rest).drop (expression.length + 1) = rest := by simp
  simp only [Segment.text, List.cons_append, List.append_assoc, List.nil_append, segments, segmentsFrom, read]
  rw [segmentsFrom_eq, behind, segments]

theorem segments_escape (c : Char) (rest : List Char) :
    segments ('\\' :: c :: rest) = .raw ['\\', c] :: segments rest := rfl

theorem segments_char {c : Char} {rest : List Char} (slash : c = '\\' → rest = [])
    (bare : c = '$' → rest.head? ≠ some '{') : segments (c :: rest) = .raw [c] :: segments rest := by
  rw [segments, segmentsFrom]
  · rfl
  · rintro d more rfl rfl
    exact List.cons_ne_nil d more (slash rfl)
  · rintro rest dollar rfl
    exact bare dollar rfl

theorem segments_unfinished {rest : List Char} (unread : script? rest = none) :
    segments ('$' :: '{' :: rest) = [.raw ('$' :: '{' :: rest)] := by
  simp only [segments, segmentsFrom, unread]

/-- A text is empty or begins with an escape, another character, an interpolation, or one that never ends. -/
theorem segments_cases {motive : List Char → Prop} (empty : motive [])
    (escape : ∀ (c : Char) (rest : List Char), motive ('\\' :: c :: rest))
    (char : ∀ (c : Char) (rest : List Char), (c = '\\' → rest = []) → (c = '$' → rest.head? ≠ some '{') →
      motive (c :: rest))
    (hole : ∀ expression rest : List Char, IsScript expression → motive ((Segment.hole expression).text ++ rest))
    (unfinished : ∀ rest : List Char, script? rest = none → motive ('$' :: '{' :: rest))
    (text : List Char) : motive text := by
  cases text with
  | nil => exact empty
  | cons c rest =>
    by_cases slash : c = '\\' ∧ rest ≠ []
    · obtain ⟨rfl, some_char⟩ := slash
      obtain ⟨d, later, rfl⟩ := List.exists_cons_of_ne_nil some_char
      exact escape d later
    · by_cases opens : c = '$' ∧ rest.head? = some '{'
      · obtain ⟨rfl, brace⟩ := opens
        obtain ⟨behind, rfl⟩ := List.head?_eq_some_iff.mp brace
        cases read : script? behind with
        | none => exact unfinished behind read
        | some found =>
          obtain ⟨expression, later⟩ := found
          obtain ⟨rfl, script⟩ := script?_eq_some_iff.mp read
          simpa [Segment.text] using hole expression later script
      · refine char c rest ?_ ?_
        · intro same
          exact not_not.mp fun filled => slash ⟨same, filled⟩
        · intro dollar brace
          exact opens ⟨dollar, brace⟩

/-- Any text is read from the left, one of its beginnings after the other. -/
theorem segments_induction {motive : List Char → Prop} (empty : motive [])
    (escape : ∀ (c : Char) (rest : List Char), motive rest → motive ('\\' :: c :: rest))
    (char : ∀ (c : Char) (rest : List Char), (c = '\\' → rest = []) → (c = '$' → rest.head? ≠ some '{') →
      motive rest → motive (c :: rest))
    (hole : ∀ expression rest : List Char, IsScript expression → motive rest →
      motive ((Segment.hole expression).text ++ rest))
    (unfinished : ∀ rest : List Char, script? rest = none → motive ('$' :: '{' :: rest))
    (text : List Char) : motive text := by
  induction length : text.length using Nat.strongRecOn generalizing text with
  | ind n ih =>
    subst length
    cases text using segments_cases with
    | empty => exact empty
    | escape c rest =>
      exact escape c rest (ih rest.length (by simp only [List.length_cons]; omega) rest rfl)
    | char c rest slash bare => exact char c rest slash bare (ih rest.length (by simp) rest rfl)
    | hole expression rest script =>
      refine hole expression rest script (ih rest.length ?_ rest rfl)
      simp only [Segment.text, List.cons_append, List.length_cons, List.length_append]
      omega
    | unfinished rest unread => exact unfinished rest unread

/-- Segments of a body do not depend on what follows, unless that makes an interpolation of a dollar sign. -/
theorem segments_append {body : List Char} (inside : IsBody body) {rest : List Char}
    (bare : rest.head? ≠ some '{') : segments (body ++ rest) = segments body ++ segments rest := by
  induction inside using IsBody.induction with
  | empty => rfl
  | escape c _ more ih =>
    rw [List.cons_append, List.cons_append, segments_escape, segments_escape, ih, List.cons_append]
  | char c tail tick slash open_brace more ih =>
    have dollar : c = '$' → (tail ++ rest).head? ≠ some '{' :=
      fun dollar => Text.head?_append_ne (open_brace dollar) bare
    rw [List.cons_append, segments_char (absurd · slash) dollar, segments_char (absurd · slash) open_brace, ih,
      List.cons_append]
  | hole expression _ script more ih =>
    rw [List.append_assoc, segments_hole script, segments_hole script, ih, List.cons_append]

/-- The segments of a text, written out again, are the text. -/
theorem text_segments (text : List Char) : (segments text).flatMap Segment.text = text := by
  induction text using segments_induction with
  | empty => rfl
  | escape c rest ih =>
    rw [segments_escape, List.flatMap_cons, ih]
    rfl
  | char c rest slash bare ih =>
    rw [segments_char slash bare, List.flatMap_cons, ih]
    rfl
  | hole expression rest script ih => rw [segments_hole script, List.flatMap_cons, ih]
  | unfinished rest unread =>
    rw [segments_unfinished unread]
    simp [Segment.text]

/-! ## Interpolations -/

theorem holesFrom_append (start : Nat) (pieces more : List Segment) :
    holesFrom start (pieces ++ more) =
      holesFrom start pieces ++ holesFrom (start + Text.byteSize (pieces.flatMap Segment.text)) more := by
  induction pieces generalizing start with
  | nil => rfl
  | cons piece pieces ih =>
    cases piece with
    | raw text => simp [holesFrom, ih, Segment.text, Nat.add_assoc]
    | hole expression => simp [holesFrom, ih, Nat.add_assoc]

theorem le_start_of_mem_holesFrom {start : Nat} {pieces : List Segment} {hole : Interpolation}
    (member : hole ∈ holesFrom start pieces) : start ≤ hole.start := by
  induction pieces generalizing start with
  | nil => simp [holesFrom] at member
  | cons piece pieces ih =>
    cases piece with
    | raw text => exact Nat.le_trans (Nat.le_add_right _ _) (ih member)
    | hole expression =>
      rcases List.mem_cons.mp member with rfl | member
      · exact Nat.le_refl _
      · exact Nat.le_trans (Nat.le_add_right _ _) (ih member)

/-- Interpolations do not overlap, and are listed from left to right. -/
theorem pairwise_interpolations (body : List Char) : (interpolations body).Pairwise fun a b => a.stop ≤ b.start := by
  have holes (start : Nat) (pieces : List Segment) : (holesFrom start pieces).Pairwise fun a b => a.stop ≤ b.start := by
    induction pieces generalizing start with
    | nil => exact .nil
    | cons piece pieces ih =>
      cases piece with
      | raw text => exact ih _
      | hole expression => exact .cons (fun _ member => le_start_of_mem_holesFrom member) (ih _)
  exact holes 0 _

theorem mem_holesFrom_of_split {before expression : List Char} (left : IsBody before)
    (script : IsScript expression) (after : List Char) (start : Nat) :
    ⟨start + Text.byteSize before,
        start + Text.byteSize before + Text.byteSize (Segment.hole expression).text, expression⟩ ∈
      holesFrom start (segments (before ++ (Segment.hole expression).text ++ after)) := by
  rw [List.append_assoc, segments_append left (by simp [Segment.text]), segments_hole script, holesFrom_append,
    text_segments]
  exact List.mem_append_right _ List.mem_cons_self

/-- An interpolation of a body stands between two bodies. -/
theorem exists_split_of_mem {body : List Char} (inside : IsBody body) {start : Nat} {hole : Interpolation}
    (member : hole ∈ holesFrom start (segments body)) :
    ∃ before expression after, body = before ++ (Segment.hole expression).text ++ after ∧
      IsBody before ∧ IsScript expression ∧ IsBody after ∧
      hole = ⟨start + Text.byteSize before,
        start + Text.byteSize before + Text.byteSize (Segment.hole expression).text, expression⟩ := by
  induction inside using IsBody.induction generalizing start with
  | empty => simp [segments, segmentsFrom, holesFrom] at member
  | escape c rest more ih =>
    have behind : hole ∈ holesFrom (start + Text.byteSize ['\\', c]) (segments rest) := member
    obtain ⟨before, expression, after, rfl, left, script, right, rfl⟩ := ih behind
    exact ⟨_, expression, after, rfl, .escape c left, script, right, by simp [Nat.add_assoc]⟩
  | char c rest tick slash bare more ih =>
    rw [segments_char (absurd · slash) bare] at member
    obtain ⟨before, expression, after, rfl, left, script, right, rfl⟩ := ih member
    have open_brace : c = '$' → before.head? ≠ some '{' := by
      intro dollar
      cases before with
      | nil => simp
      | cons d before => exact bare dollar
    exact ⟨_, expression, after, rfl, .char tick slash open_brace left, script, right, by simp [Nat.add_assoc]⟩
  | hole first rest script more ih =>
    rw [segments_hole script] at member
    rcases List.mem_cons.mp member with rfl | member
    · exact ⟨[], first, rest, rfl, .empty, script, more, rfl⟩
    · obtain ⟨before, expression, after, rfl, left, inner, right, rfl⟩ := ih member
      exact ⟨_, expression, after, by simp, .hole script left, inner, right, by simp [Nat.add_assoc]⟩

/-- The interpolations of a body are those that stand between two bodies. -/
theorem mem_interpolations_iff {body : List Char} (inside : IsBody body) {hole : Interpolation} :
    hole ∈ interpolations body ↔
      ∃ before expression after, body = before ++ (Segment.hole expression).text ++ after ∧
        IsBody before ∧ IsScript expression ∧ IsBody after ∧
        hole = ⟨Text.byteSize before, Text.byteSize before + Text.byteSize (Segment.hole expression).text,
          expression⟩ := by
  constructor
  · intro member
    obtain ⟨before, expression, after, split, left, script, right, equal⟩ := exists_split_of_mem inside member
    rw [Nat.zero_add] at equal
    exact ⟨before, expression, after, split, left, script, right, equal⟩
  · rintro ⟨before, expression, after, rfl, left, script, _, rfl⟩
    have member := mem_holesFrom_of_split left script after 0
    rwa [Nat.zero_add] at member

/-! ## Offsets -/

theorem dropBytes_byteSize (before after : List Char) :
    Text.dropBytes (Text.byteSize before) (before ++ after) = after := by
  induction before with
  | nil => cases after <;> rfl
  | cons c before ih =>
    obtain ⟨n, size⟩ : ∃ n, Text.byteSize (c :: before) = n + 1 :=
      ⟨_, (Nat.sub_add_cancel (Nat.le_trans c.utf8Size_pos (Nat.le_add_right _ _))).symm⟩
    have left : n + 1 - c.utf8Size = Text.byteSize before := by
      rw [← size, Text.byteSize_cons, Nat.add_sub_cancel_left]
    rw [size, List.cons_append, Text.dropBytes, left, ih]

/-- From a character boundary on, the end of a template is the backtick behind a body. -/
theorem endOffset?_eq_some_iff {before after : List Char} {stop : Nat} :
    endOffset? (before ++ after) (Text.byteSize before) = some stop ↔
      ∃ body rest, after = body ++ '\x60' :: rest ∧ IsBody body ∧ stop = Text.byteSize (before ++ body) := by
  have offset (body rest : List Char) :
      Text.byteSize (before ++ (body ++ '\x60' :: rest)) - Text.byteSize rest - 1 = Text.byteSize (before ++ body) := by
    have tick : ('\x60' : Char).utf8Size = 1 := rfl
    simp only [Text.byteSize_append, Text.byteSize_cons, tick]
    omega
  have closes {rest : List Char} :
      close [.text] after = some rest ↔ ∃ body, after = body ++ '\x60' :: rest ∧ IsBody body :=
    close_eq_some_iff (by decide)
  rw [endOffset?, dropBytes_byteSize, Option.map_eq_some_iff]
  simp only [closes]
  constructor
  · rintro ⟨rest, ⟨body, rfl, inside⟩, rfl⟩
    exact ⟨body, rest, rfl, inside, offset body rest⟩
  · rintro ⟨body, rest, rfl, inside, rfl⟩
    exact ⟨rest, ⟨body, rfl, inside⟩, offset body rest⟩

/-! ## Replacing -/

theorem replace_split {value? : List Char → Option (List Char)} {before expression : List Char} (left : IsBody before)
    (script : IsScript expression) (after : List Char) :
    replace value? (before ++ (Segment.hole expression).text ++ after) =
      replace value? before ++ (value? expression).getD (Segment.hole expression).text ++ replace value? after := by
  rw [List.append_assoc, replace, segments_append left (by simp [Segment.text]), segments_hole script,
    List.flatMap_append, List.flatMap_cons, List.append_assoc]
  rfl

theorem replace_eq_self {value? : List Char → Option (List Char)} {body : List Char}
    (kept : ∀ expression ∈ expressions body, value? expression = none) : replace value? body = body := by
  have same (piece : Segment) (member : piece ∈ segments body) : piece.fill value? = piece.text := by
    cases piece with
    | raw text => rfl
    | hole expression => rw [Segment.fill, kept expression (mem_expressions_iff.mpr member), Option.getD_none]
  rw [replace, List.flatMap_congr same, text_segments]

/-! ## Acceptance -/

/-- From a character boundary of a text on, the scanner finds the end of a template exactly if a body and a
backtick stand there, and a reader of declarations takes the same body. The interpolations of a body are those that
stand between two bodies, from left to right, and what has a value among them, and nothing else, is replaced. -/
theorem accepts_grammar (before after : List Char) :
    (∀ stop, endOffset? (before ++ after) (Text.byteSize before) = some stop ↔
      ∃ body rest, after = body ++ '\x60' :: rest ∧ IsBody body ∧ stop = Text.byteSize (before ++ body)) ∧
    (∀ body rest, body? after = some (body, rest) ↔ after = body ++ '\x60' :: rest ∧ IsBody body) ∧
    ∀ body, IsBody body →
      (∀ hole, hole ∈ interpolations body ↔
        ∃ left expression right, body = left ++ (Segment.hole expression).text ++ right ∧
          IsBody left ∧ IsScript expression ∧ IsBody right ∧
          hole = ⟨Text.byteSize left, Text.byteSize left + Text.byteSize (Segment.hole expression).text,
            expression⟩) ∧
      (interpolations body).Pairwise (fun a b => a.stop ≤ b.start) ∧
      ∀ value?, ((∀ expression ∈ expressions body, value? expression = none) → replace value? body = body) ∧
        ∀ left expression right, body = left ++ (Segment.hole expression).text ++ right → IsBody left →
          IsScript expression → replace value? body =
            replace value? left ++ (value? expression).getD (Segment.hole expression).text ++ replace value? right := by
  refine ⟨fun stop => endOffset?_eq_some_iff, fun body rest => body?_eq_some_iff, ?_⟩
  intro body inside
  refine ⟨fun hole => mem_interpolations_iff inside, pairwise_interpolations body, ?_⟩
  intro value?
  refine ⟨replace_eq_self, ?_⟩
  rintro left expression right rfl before script
  exact replace_split before script right

/-- A template in a template, behind a character of two bytes. -/
theorem accepts_grammar_nested :
    let body := "a$\x7b\x60\x7d\x60\x7d".toList
    IsBody body ∧ endOffset? ("é".toList ++ (body ++ "\x60;".toList)) (Text.byteSize "é".toList) = some 9 ∧
      ⟨1, 7, "\x60\x7d\x60".toList⟩ ∈ interpolations body ∧
      replace (fun _ => some ['b']) body = "ab".toList := by
  intro body
  have inside : IsBody body := by decide
  have script : IsScript "\x60\x7d\x60".toList := by decide
  obtain ⟨stops, _, holes⟩ := accepts_grammar "é".toList (body ++ "\x60;".toList)
  obtain ⟨members, _, replaced⟩ := holes body inside
  refine ⟨inside, ?_, ?_, ?_⟩
  · exact (stops 9).mpr ⟨body, [';'], rfl, inside, by decide⟩
  · exact (members _).mpr ⟨['a'], _, [], by decide, by decide, script, by decide, by decide⟩
  · exact ((replaced fun _ => some ['b']).2 ['a'] _ [] (by decide) (by decide) script).trans (by decide)

end StaticStyles.Template
