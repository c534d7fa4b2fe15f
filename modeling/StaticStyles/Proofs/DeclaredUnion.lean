import StaticStyles.Proofs.RenderedSource
import StaticStyles.Props.Discovery

/-!
Declared unions that are found again. An interface declares a prop, optional or not, with a union of literals in single
quotes; discovery tells these literals unless the name begins with a dollar sign, where no word begins
(`Discovery.declared_union_iff`).
-/
namespace StaticStyles.Discovery
open Text Expression Source

variable {prop inside type source text rest : List Char} {literals : List (List Char)} {before : Option Char} {c : Char}
  {optional : Bool}

/-! ## The text of a declared union -/

/-- The inside of a literal in single quotes that ends neither the literal nor a member, an entry or a line. -/
def IsMember (inside : List Char) : Prop := ∀ c ∈ inside, c ∉ ['\'', '|', ';', ',', '\n', '}']

instance (inside : List Char) : Decidable (IsMember inside) := List.decidableBAll _ inside

def memberText (inside : List Char) : List Char := '\'' :: (inside ++ ['\''])

/-- A union of literals in single quotes. -/
def unionText (literals : List (List Char)) : List Char := [' ', '|', ' '].intercalate (literals.map memberText)

/-- What stands before the first entry of an interface. -/
def opening : List Char := "interface P \x7b ".toList

def mark (optional : Bool) : List Char := if optional then ['?'] else []

/-- An interface with one entry. -/
def interfaceText (prop : List Char) (optional : Bool) (literals : List (List Char)) : List Char :=
  opening ++ (prop ++ mark optional) ++ ':' :: ' ' :: (unionText literals ++ [' ', '}'])

theorem unionText_cons (inside next : List Char) (literals : List (List Char)) :
    unionText (inside :: next :: literals) =
      memberText inside ++ ' ' :: '|' :: ' ' :: unionText (next :: literals) := by
  rw [unionText, List.map_cons, List.map_cons, List.intercalate_cons_cons]
  simp [unionText]

theorem unionText_singleton (inside : List Char) : unionText [inside] = memberText inside := by
  rw [unionText, List.map_singleton, List.intercalate_singleton]

theorem unionText_ne_nil (some_literal : literals ≠ []) : unionText literals ≠ [] := by
  cases literals with
  | nil => contradiction
  | cons inside literals =>
    cases literals with
    | nil => simp [unionText_singleton, memberText]
    | cons next literals => simp [unionText_cons, memberText]

theorem of_mem_memberText (plain : IsMember inside) :
    ∀ c ∈ memberText inside, c = '\'' ∨ c ∉ ['\'', '|', ';', ',', '\n', '}'] := by
  intro c inQuotes
  rw [memberText, List.mem_cons, List.mem_append, List.mem_singleton] at inQuotes
  rcases inQuotes with quote | within | quote
  · exact .inl quote
  · exact .inr (plain c within)
  · exact .inl quote

theorem isTrimmed_memberText (inside : List Char) : IsTrimmed (memberText inside) := by
  have last : (memberText inside).getLast? = some '\'' := by
    rw [memberText, ← List.cons_append, List.getLast?_concat]
  refine ⟨?_, ?_⟩
  · rintro c ⟨⟩
    decide
  · rw [last]
    rintro c ⟨⟩
    decide

/-- No character of a union ends an entry or a line. -/
theorem not_stop_of_mem_unionText (plain : ∀ inside ∈ literals, IsMember inside) :
    ∀ c ∈ unionText literals, c ∉ [';', ',', '\n', '}'] := by
  have inMember {inside : List Char} (plain : IsMember inside) :
      ∀ c ∈ memberText inside, c ∉ [';', ',', '\n', '}'] := by
    intro c within
    rcases of_mem_memberText plain c within with rfl | other
    · decide
    · intro stop
      exact other (List.mem_cons_of_mem _ (List.mem_cons_of_mem _ stop))
  induction literals with
  | nil => simp [unionText]
  | cons inside literals ih =>
    obtain ⟨first, plain⟩ := List.forall_mem_cons.mp plain
    cases literals with
    | nil =>
      rw [unionText_singleton]
      exact inMember first
    | cons next literals =>
      rw [unionText_cons]
      intro c within
      rcases List.mem_append.mp within with within | within
      · exact inMember first c within
      · simp only [List.mem_cons] at within
        rcases within with rfl | rfl | rfl | within
        · decide
        · decide
        · decide
        · exact ih plain c within

theorem isTrimmed_unionText (literals : List (List Char)) : IsTrimmed (unionText literals) := by
  induction literals with
  | nil => exact ⟨by simp [unionText], by simp [unionText]⟩
  | cons inside literals ih =>
    cases literals with
    | nil =>
      rw [unionText_singleton]
      exact isTrimmed_memberText inside
    | cons next literals =>
      have first := (isTrimmed_memberText inside).first
      have some_char : ' ' :: '|' :: ' ' :: unionText (next :: literals) ≠ [] := List.cons_ne_nil _ _
      have some_union : unionText (next :: literals) ≠ [] := unionText_ne_nil (List.cons_ne_nil _ _)
      rw [unionText_cons]
      refine ⟨first, ?_⟩
      intro c last
      rw [List.getLast?_append_of_ne_nil _ some_char] at last
      refine ih.last c ?_
      obtain ⟨d, others, split⟩ := List.exists_cons_of_ne_nil some_union
      rw [split] at last ⊢
      simpa only [List.getLast?_cons_cons] using last

/-! ## The type of an entry -/

/-- A run up to a stop, with white space before it. -/
theorem run?_append {stops lead : List Char} (blank : isBlankText lead = true) (some_char : text ≠ [])
    (solid : ∀ c ∈ text.head?, isBlank c = false) (inside : ∀ c ∈ text, c ∉ stops) (stop : c ∈ stops)
    (rest : List Char) : run? stops (lead ++ (text ++ c :: rest)) = some (text, c :: rest) := by
  obtain ⟨first, others, rfl⟩ := List.exists_cons_of_ne_nil some_char
  have skipped : skipBlanks (lead ++ (first :: others ++ c :: rest)) = first :: others ++ c :: rest := by
    rw [skipBlanks_passed blank]
    exact skipBlanks_cons (solid first rfl) _
  have run : (first :: others).all (fun c => !stops.contains c) = true := by
    simpa using inside
  have ends : (!stops.contains c) = false := by simpa using stop
  simp only [run?, skipped, takeWhile_append_cons run ends, dropWhile_append_cons run ends]

theorem afterMark?_append {lead : List Char} (blank : isBlankText lead = true) (solid : isBlank c = false)
    (rest : List Char) : afterMark? c (lead ++ c :: rest) = some rest := by
  have skipped : skipBlanks (lead ++ c :: rest) = c :: rest := by
    rw [skipBlanks_passed blank]
    exact skipBlanks_cons solid rest
  simp [afterMark?, skipped]

theorem exists_of_afterMark? (after : afterMark? c text = some rest) :
    ∃ lead, text = lead ++ c :: rest ∧ isBlankText lead = true := by
  refine ⟨text.takeWhile isBlank, ?_, List.all_takeWhile⟩
  have remaining : skipBlanks text = c :: rest := by
    rw [afterMark?] at after
    split at after
    · next d others remaining =>
      split at after
      · next same =>
        obtain rfl := Option.some.inj after
        rw [remaining, same]
      · contradiction
    · contradiction
  rw [← remaining, skipBlanks, List.takeWhile_append_dropWhile]

/-- Where a type is found, the name stands at a word boundary with a colon behind it. -/
theorem exists_of_typeHere {found : List Char × List Char} (here : typeHere prop before text = some found) :
    isBoundary before text = true ∧ ∃ optional lead rest, text = prop ++ mark optional ++ lead ++ ':' :: rest ∧
      isBlankText lead = true ∧ run? [';', ',', '\n', '}'] rest = some found := by
  simp only [typeHere, Option.bind_eq_bind, Option.bind_eq_some_iff] at here
  obtain ⟨after, named, rest, colon, run⟩ := here
  rw [afterProp?] at named
  split at named
  · next boundary =>
    obtain rfl := afterChars?_eq_some_iff.mp named
    refine ⟨boundary, ?_⟩
    split at colon
    · next after =>
      obtain ⟨lead, rfl, blank⟩ := exists_of_afterMark? colon
      exact ⟨true, lead, rest, by simp [mark], blank, run⟩
    · next after _ =>
      obtain ⟨lead, rfl, blank⟩ := exists_of_afterMark? colon
      exact ⟨false, lead, rest, by simp [mark], blank, run⟩
  · contradiction

/-- An entry tells its type. -/
theorem typeHere_append (boundary : isBoundary before (prop ++ (mark optional ++ ':' :: text)) = true)
    {found : List Char × List Char} (run : run? [';', ',', '\n', '}'] text = some found) :
    typeHere prop before (prop ++ (mark optional ++ ':' :: text)) = some found := by
  have named : afterProp? prop before (prop ++ (mark optional ++ ':' :: text)) =
      some (mark optional ++ ':' :: text) := by
    rw [afterProp?, if_pos boundary]
    exact afterChars?_eq_some_iff.mpr rfl
  have colon : afterMark? ':' (':' :: text) = some text := @afterMark?_append ':' [] rfl rfl text
  rw [typeHere, named]
  cases optional with
  | true => simp [mark, colon, run]
  | false => simp [mark, colon, run]

/-! ## The place of the entry -/

theorem getLast?_entry (named : isIdentifier prop = true) (front : List Char) (optional : Bool) :
    ∃ c, (front ++ (prop ++ mark optional)).getLast? = some c ∧ isBlank c = false ∧ (c = '?' ↔ optional = true) := by
  cases optional with
  | true => exact ⟨'?', by simp [mark, ← List.append_assoc], by decide, by simp⟩
  | false =>
    obtain ⟨first, parts, rfl, _⟩ := exists_of_isIdentifier named
    have some_name : first :: parts ≠ [] := List.cons_ne_nil _ _
    obtain ⟨c, last⟩ : ∃ c, (first :: parts).getLast? = some c := ⟨_, List.getLast?_eq_some_getLast some_name⟩
    have part := isIdentifierPart_of_mem named (List.mem_of_getLast? last)
    refine ⟨c, ?_, isBlank_of_isIdentifierPart part, ?_⟩
    · rw [mark, if_neg Bool.false_ne_true, List.append_nil, List.getLast?_append_of_ne_nil _ some_name, last]
    · constructor
      · rintro rfl
        contradiction
      · intro never
        contradiction

/-- Up to the colon of the entry, a type is found nowhere but at the entry. -/
theorem front_eq_of_typeHere (named : isIdentifier prop = true) {front back : List Char} {found : List Char × List Char}
    (split : front ++ back = opening ++ (prop ++ mark optional))
    (here : typeHere prop before (back ++ ':' :: rest) = some found) : front = opening := by
  obtain ⟨_, other, lead, rest', found_at, blank, _⟩ := exists_of_typeHere here
  have nameless : ':' ∉ prop := fun within => absurd (isIdentifierPart_of_mem named within) (by decide)
  have unmarked (optional : Bool) : ':' ∉ mark optional := by cases optional <;> decide
  have whole : ':' ∉ back := by
    intro within
    have within : ':' ∈ opening ++ (prop ++ mark optional) := split ▸ List.mem_append_right front within
    have opens : ':' ∉ opening := by decide
    simp [opens, nameless, unmarked] at within
  have whole' : ':' ∉ prop ++ mark other ++ lead := by
    intro within
    rw [List.mem_append, List.mem_append] at within
    rcases within with (within | within) | within
    · exact nameless within
    · exact unmarked other within
    · exact absurd (List.all_eq_true.mp blank _ within) (by decide)
  obtain ⟨rfl, _⟩ := eq_of_append_cons_eq whole whole' found_at
  -- no white space stands between the mark and the colon
  obtain ⟨c, last, solid, question⟩ := getLast?_entry named front other
  obtain ⟨d, last', solid', question'⟩ := getLast?_entry named opening optional
  have trimmed := congrArg trimEnd split
  have none : isBlankText [] = true := rfl
  rw [← List.append_assoc, trimEnd_append (by rw [last]; rintro _ ⟨⟩; exact solid) blank,
    ← List.append_nil (opening ++ _), trimEnd_append (by rw [last']; rintro _ ⟨⟩; exact solid') none] at trimmed
  rw [trimmed, last', Option.some.injEq] at last
  have same : other = optional := by
    rw [Bool.eq_iff_iff, ← question, ← question', last]
  rw [same] at trimmed
  exact List.append_cancel_right trimmed

/-! ## Names that begin with a word -/

theorem literal?_memberText (closed : '\'' ∉ inside) : literal? (memberText inside) = some inside := by
  have trimmed : trim (memberText inside) = memberText inside := (isTrimmed_memberText inside).trim_self
  have quote : isQuote '\'' = true := rfl
  have enclosed : enclosed? '\'' (inside ++ ['\'']) = some inside := by simp [enclosed?]
  have plain : isPlainInside '\'' inside = true := by simp [isPlainInside, closed]
  rw [literal?, trimmed]
  simp only [memberText, if_pos quote, enclosed, plain, if_true]

theorem split_unionText {lead : List Char} (blank : isBlankText lead = true) (some_literal : literals ≠ [])
    (plain : ∀ inside ∈ literals, IsMember inside) :
    (split '|' (lead ++ unionText literals)).map trim = literals.map memberText := by
  have bar {inside : List Char} (plain : IsMember inside) : '|' ∉ memberText inside := by
    intro within
    rcases of_mem_memberText plain _ within with same | other
    · exact absurd same (by decide)
    · exact other (by decide)
  have none {lead : List Char} (blank : isBlankText lead = true) : '|' ∉ lead := by
    intro within
    exact absurd (List.all_eq_true.mp blank _ within) (by decide)
  induction literals generalizing lead with
  | nil => contradiction
  | cons inside literals ih =>
    obtain ⟨first, plain⟩ := List.forall_mem_cons.mp plain
    cases literals with
    | nil =>
      have whole : '|' ∉ lead ++ memberText inside := by simp [none blank, bar first]
      rw [unionText_singleton, split_of_not_mem whole, List.map_singleton, List.map_singleton]
      have none : isBlankText [] = true := rfl
      have trimmed := (isTrimmed_memberText inside).trim_eq blank none
      rw [List.append_nil] at trimmed
      rw [trimmed]
    | cons next literals =>
      have whole : '|' ∉ lead ++ (memberText inside ++ [' ']) := by simp [none blank, bar first]
      have cut : lead ++ unionText (inside :: next :: literals) =
          lead ++ (memberText inside ++ [' ']) ++ '|' :: ([' '] ++ unionText (next :: literals)) := by
        rw [unionText_cons]
        simp
      rw [cut, split_append whole, List.map_cons, (isTrimmed_memberText inside).trim_eq blank rfl,
        ih rfl (List.cons_ne_nil _ _) plain]
      rfl

theorem union?_unionText (some_literal : literals ≠ []) (plain : ∀ inside ∈ literals, IsMember inside) :
    union? (unionText literals) = some literals := by
  have parts := @split_unionText literals [] rfl some_literal plain
  have filled : (literals.map memberText).filter (!·.isEmpty) = literals.map memberText := by
    rw [List.filter_eq_self]
    intro text within
    obtain ⟨inside, _, rfl⟩ := List.mem_map.mp within
    rfl
  have read : (literals.map memberText).mapM literal? = some literals := by
    clear filled parts some_literal
    induction literals with
    | nil => rfl
    | cons inside literals ih =>
      obtain ⟨first, plain⟩ := List.forall_mem_cons.mp plain
      have closed : '\'' ∉ inside := fun within => first _ within (by decide)
      rw [List.map_cons, List.mapM_cons, literal?_memberText closed, ih plain]
      rfl
  rw [List.nil_append] at parts
  rw [union?, parts, filled, read]
  simp [some_literal]

theorem distinct_eq_self (nodup : literals.Nodup) : distinct literals = literals := by
  suffices appended : ∀ seen : List (List Char), (seen ++ literals).Nodup →
      literals.foldl (fun seen value => if seen.contains value then seen else seen ++ [value]) seen =
        seen ++ literals by
    exact appended [] nodup
  clear nodup
  intro seen nodup
  induction literals generalizing seen with
  | nil => simp
  | cons value literals ih =>
    have fresh : value ∉ seen := fun again => List.disjoint_of_nodup_append nodup again List.mem_cons_self
    rw [List.append_cons] at nodup ⊢
    rw [List.foldl_cons, if_neg (by simpa using fresh), ih (seen ++ [value]) nodup]

theorem run?_unionText (some_literal : literals ≠ []) (plain : ∀ inside ∈ literals, IsMember inside) :
    run? [';', ',', '\n', '}'] (' ' :: (unionText literals ++ [' ', '}'])) =
      some (unionText literals ++ [' '], ['}']) := by
  have solid : ∀ c ∈ (unionText literals ++ [' ']).head?, isBlank c = false := by
    rw [List.head?_append_of_ne_nil _ (unionText_ne_nil some_literal)]
    exact (isTrimmed_unionText literals).first
  have inside : ∀ c ∈ unionText literals ++ [' '], c ∉ [';', ',', '\n', '}'] := by
    intro c within
    rcases List.mem_append.mp within with within | within
    · exact not_stop_of_mem_unionText plain c within
    · rw [List.mem_singleton.mp within]
      decide
  have gap : isBlankText [' '] = true := rfl
  have found := run?_append gap (by simp) solid inside (c := '}') (by decide) []
  rwa [List.append_assoc] at found

theorem isBoundary_of_word (named : isIdentifier prop = true) (word : prop.head? ≠ some '$') (text : List Char) :
    isBoundary (some ' ') (prop ++ text) = true := by
  obtain ⟨first, parts, rfl, starts, _⟩ := exists_of_isIdentifier named
  have first_word : isWord first = true := by
    simp only [isNameStart, Bool.or_eq_true, decide_eq_true_eq] at starts
    rcases starts with (letter | rfl) | rfl
    · exact isWord_of_isAlphanum (by simp [Char.isAlphanum, letter])
    · decide
    · contradiction
  have gap : isWord ' ' = false := by decide
  simp [isBoundary, first_word, gap]

/-- The one type that is found is the union. -/
theorem types_of_word (named : isIdentifier prop = true) (word : prop.head? ≠ some '$') (some_literal : literals ≠ [])
    (plain : ∀ inside ∈ literals, IsMember inside) (optional : Bool) :
    findAll (typeHere prop) (interfaceText prop optional literals) = [unionText literals ++ [' ']] := by
  have quiet : ∀ front back, opening = front ++ back → back ≠ [] → typeHere prop (front.getLast?.or none)
      (back ++ (prop ++ mark optional ++ ':' :: ' ' :: (unionText literals ++ [' ', '}']))) = none := by
    intro front back cut some_back
    rw [Option.eq_none_iff_forall_ne_some]
    intro found here
    have entry : front ++ (back ++ (prop ++ mark optional)) = opening ++ (prop ++ mark optional) := by
      rw [cut, List.append_assoc]
    rw [← List.append_assoc] at here
    rw [front_eq_of_typeHere named entry here] at cut
    exact some_back (List.self_eq_append_right.mp cut)
  have answer : typeHere prop (some ' ') (prop ++ (mark optional ++ ':' :: ' ' :: (unionText literals ++ [' ', '}']))) =
      some (unionText literals ++ [' '], ['}']) :=
    typeHere_append (isBoundary_of_word named word _) (run?_unionText some_literal plain)
  have behind (before : Option Char) : searchAll (typeHere prop) 0 before ['}'] = [] := by
    obtain ⟨first, parts, rfl, starts, _⟩ := exists_of_isIdentifier named
    have other : first ≠ '}' := by
      rintro rfl
      contradiction
    have absent : typeHere (first :: parts) before ['}'] = none := by simp [typeHere, afterProp?, afterChars?, other]
    simp [searchAll, absent]
  have some_entry : prop ++ mark optional ++ ':' :: ' ' :: (unionText literals ++ [' ']) ≠ [] := by simp
  have found := @searchAll_of_answer _ (typeHere prop) (some ' ') _ ['}'] _ some_entry (by simpa using answer)
  have last : opening.getLast?.or none = some ' ' := by decide
  rw [behind] at found
  rw [findAll, interfaceText, List.append_assoc opening, searchAll_of_none _ quiet, last]
  simpa using found

theorem declared_of_word (named : isIdentifier prop = true) (word : prop.head? ≠ some '$')
    (several : 1 < literals.length) (nodup : literals.Nodup) (plain : ∀ inside ∈ literals, IsMember inside)
    (optional : Bool) :
    declared prop (interfaceText prop optional literals) = literals := by
  have some_literal : literals ≠ [] := List.ne_nil_of_length_pos (by omega)
  have told (source : List Char) : typeValues? source (unionText literals) = some literals := by
    have kept : (some literals).filter (1 < ·.length) = some literals := by simpa using several
    rw [typeValues?, union?_unionText some_literal plain, kept]
    rfl
  rw [declared, types_of_word named word some_literal plain, List.map_singleton,
    (isTrimmed_unionText literals).trim_append_blank]
  simp [told, distinct_eq_self nodup]

/-! ## Names that begin with a dollar sign -/

theorem not_isNumber_of_quote (within : '\'' ∈ text) : isNumber text = false := by
  have digitless : isDecimal '\'' = false := by decide
  -- a quote stands behind the first digits, and no further digits hold it
  have behind {digits : List Char} (within : '\'' ∈ digits) : digits.dropWhile isDecimal ≠ [] ∧
      ∀ rest, digits.dropWhile isDecimal = '.' :: rest → rest.all isDecimal = false := by
    have dropped : '\'' ∈ digits.dropWhile isDecimal := by
      rw [← List.takeWhile_append_dropWhile (p := isDecimal) (l := digits), List.mem_append] at within
      refine within.resolve_left ?_
      intro whole
      have digit := List.all_eq_true.mp List.all_takeWhile _ whole
      rw [digitless] at digit
      contradiction
    refine ⟨List.ne_nil_of_mem dropped, ?_⟩
    intro rest point
    rw [point] at dropped
    have further : '\'' ∈ rest := (List.mem_cons.mp dropped).resolve_left (by decide)
    exact List.all_eq_false.mpr ⟨_, further, by simp [digitless]⟩
  unfold isNumber
  split
  case h_1 rest =>
    obtain ⟨some_rest, mixed⟩ := behind ((List.mem_cons.mp within).resolve_left (by decide))
    refine Bool.and_eq_false_iff.mpr (.inr ?_)
    split
    · next none => exact absurd none some_rest
    · next rest point => rw [mixed rest point, Bool.and_false]
    · rfl
  case h_2 =>
    obtain ⟨some_rest, mixed⟩ := behind within
    refine Bool.and_eq_false_iff.mpr (.inr ?_)
    split
    · next none => exact absurd none some_rest
    · next rest point => rw [mixed rest point, Bool.and_false]
    · rfl

theorem isTrimmed_unopened (solid : ∀ c ∈ inside.head?, isBlank c = false) : IsTrimmed (inside ++ ['\'']) := by
  refine ⟨?_, ?_⟩
  · cases inside with
    | nil =>
      rintro c ⟨⟩
      decide
    | cons c inside => exact solid
  · rw [List.getLast?_concat]
    rintro c ⟨⟩
    decide

/-- A quote at the end that nothing opens makes no literal. -/
theorem literal?_unopened (closed : '\'' ∉ inside) (solid : ∀ c ∈ inside.head?, isBlank c = false) :
    literal? (inside ++ ['\'']) = none := by
  rw [literal?, (isTrimmed_unopened solid).trim_self]
  cases inside with
  | nil => decide
  | cons c inside =>
    have other : '\'' ≠ c := by
      rintro rfl
      exact closed List.mem_cons_self
    have ends : (inside ++ ['\'']).getLast? = some '\'' := List.getLast?_concat
    have unopened : enclosed? c (inside ++ ['\'']) = none := by simp [enclosed?, ends, other]
    have within : '\'' ∈ c :: (inside ++ ['\'']) := by simp
    have words : c :: (inside ++ ['\'']) ≠ ['t', 'r', 'u', 'e'] ∧
        c :: (inside ++ ['\'']) ≠ ['f', 'a', 'l', 's', 'e'] := by
      constructor
      · intro same
        rw [same] at within
        exact absurd within (by decide)
      · intro same
        rw [same] at within
        exact absurd within (by decide)
    have bare : bareLiteral? (c :: (inside ++ ['\''])) = none := by
      simp [bareLiteral?, not_isNumber_of_quote within, words]
    simp [unopened, bare]

/-- A type that begins inside a literal tells nothing. -/
theorem typeValues?_unopened (closed : '\'' ∉ inside) (whole : '|' ∉ inside)
    (solid : ∀ c ∈ inside.head?, isBlank c = false) (ahead : text = [] ∨ ∃ more, text = ' ' :: '|' :: more) :
    typeValues? source (inside ++ '\'' :: text) = none := by
  have within : '\'' ∈ inside ++ '\'' :: text := by simp
  have trimmed := isTrimmed_unopened solid
  have members : ∃ others, (split '|' (inside ++ '\'' :: text)).map trim = (inside ++ ['\'']) :: others := by
    rcases ahead with rfl | ⟨more, rfl⟩
    · have whole : '|' ∉ inside ++ ['\''] := by simp [whole]
      exact ⟨[], by rw [split_of_not_mem whole, List.map_singleton, trimmed.trim_self]⟩
    · have whole : '|' ∉ inside ++ ['\''] ++ [' '] := by simp [whole]
      have cut : inside ++ '\'' :: ' ' :: '|' :: more = inside ++ ['\''] ++ [' '] ++ '|' :: more := by simp
      exact ⟨_, by rw [cut, split_append whole, List.map_cons, trimmed.trim_append_blank]⟩
  obtain ⟨others, members⟩ := members
  have union : union? (inside ++ '\'' :: text) = none := by
    simp [union?, members, literal?_unopened closed solid]
  have boolean : boolean? (inside ++ '\'' :: text) = none := by
    rw [boolean?, if_neg]
    intro same
    rw [same] at within
    exact absurd within (by decide)
  have named : alias? (inside ++ '\'' :: text) source = none := by
    rw [alias?, if_neg]
    intro parts
    exact absurd (List.all_eq_true.mp parts _ within) (by decide)
  rw [typeValues?, union, boolean, named]
  rfl

/-- A dollar sign in a union stands inside a literal. -/
theorem exists_of_dollar (plain : ∀ inside ∈ literals, IsMember inside) {front back : List Char}
    (dollar : unionText literals = front ++ '$' :: back) :
    ∃ inside text, '$' :: back = inside ++ '\'' :: text ∧ IsMember inside ∧
      (text = [] ∨ ∃ more, text = ' ' :: '|' :: more) := by
  -- a place in the first literal or behind it
  have split {inside text front : List Char} (first : IsMember inside)
      (dollar : memberText inside ++ text = front ++ '$' :: back) :
      (∃ inner, '$' :: back = inner ++ '\'' :: text ∧ IsMember inner) ∨ ∃ front', text = front' ++ '$' :: back := by
    have apart : inside ++ '\'' :: text = front.tail ++ '$' :: back := by
      cases front with
      | nil => simp [memberText] at dollar
      | cons c front => simpa [memberText] using (List.cons.inj dollar).2
    rcases List.append_eq_append_iff.mp apart with ⟨front', _, behind⟩ | ⟨inner, rfl, here⟩
    · cases front' with
      | nil => simp at behind
      | cons c front' => exact .inr ⟨front', (List.cons.inj behind).2⟩
    · exact .inl ⟨inner, here, fun c within => first c (List.mem_append_right _ within)⟩
  induction literals generalizing front with
  | nil => simp [unionText] at dollar
  | cons inside literals ih =>
    obtain ⟨first, plain⟩ := List.forall_mem_cons.mp plain
    cases literals with
    | nil =>
      rw [unionText_singleton, ← List.append_nil (memberText inside)] at dollar
      rcases split first dollar with ⟨inner, here, part⟩ | ⟨front', behind⟩
      · exact ⟨inner, [], here, part, .inl rfl⟩
      · simp at behind
    | cons next literals =>
      rw [unionText_cons] at dollar
      rcases split first dollar with ⟨inner, here, part⟩ | ⟨front', behind⟩
      · exact ⟨inner, _, here, part, .inr ⟨_, rfl⟩⟩
      · obtain ⟨front'', later⟩ : ∃ front'', unionText (next :: literals) = front'' ++ '$' :: back := by
          rcases front' with _ | ⟨a, _ | ⟨b, _ | ⟨c, front''⟩⟩⟩
          · simp at behind
          · simp at behind
          · simp at behind
          · exact ⟨front'', (by simpa using behind : _ ∧ _ ∧ _ ∧ _).2.2.2⟩
        exact ih plain later

/-- A run from a place inside the last but one quote, or before the bar behind it, tells nothing. -/
theorem typeValues?_of_run {found : List Char × List Char} (member : IsMember inside)
    (ahead : text = [] ∨ ∃ more, text = ' ' :: '|' :: more) (ends : IsTrimmed ('\'' :: text))
    (whole : ∀ c ∈ text, c ∉ [';', ',', '\n', '}'])
    (run : run? [';', ',', '\n', '}'] (inside ++ '\'' :: (text ++ [' ', '}'])) = some found) :
    typeValues? source (trim found.1) = none := by
  have solid := head?_skipBlanks inside
  have plain : IsMember (skipBlanks inside) := fun c within => member c ((List.dropWhile_suffix isBlank).subset within)
  have trimmed : IsTrimmed (skipBlanks inside ++ '\'' :: text) := ends.prepend (List.cons_ne_nil _ _) solid
  have cut : inside ++ '\'' :: (text ++ [' ', '}']) =
      inside.takeWhile isBlank ++ ((skipBlanks inside ++ '\'' :: text ++ [' ']) ++ ['}']) := by
    have parts : inside.takeWhile isBlank ++ skipBlanks inside = inside := List.takeWhile_append_dropWhile
    conv_lhs => rw [← parts]
    simp
  have first : ∀ c ∈ (skipBlanks inside ++ '\'' :: text ++ [' ']).head?, isBlank c = false := by
    rw [List.head?_append_of_ne_nil _ (by simp)]
    exact trimmed.first
  have unstopped : ∀ c ∈ skipBlanks inside ++ '\'' :: text ++ [' '], c ∉ [';', ',', '\n', '}'] := by
    intro c within
    simp only [List.mem_append, List.mem_cons, List.not_mem_nil, or_false] at within
    rcases within with (within | rfl | within) | rfl
    · intro stop
      exact plain c within (List.mem_cons_of_mem _ (List.mem_cons_of_mem _ stop))
    · decide
    · exact whole c within
    · decide
  have lead : isBlankText (inside.takeWhile isBlank) = true := List.all_takeWhile
  rw [cut, run?_append lead (by simp) first unstopped (by decide) []] at run
  obtain rfl := Option.some.inj run
  rw [trimmed.trim_append_blank]
  exact typeValues?_unopened (fun within => plain _ within (by decide)) (fun within => plain _ within (by decide)) solid
    ahead

/-- What is declared for the name behind the entry's colon, inside a literal, tells nothing. -/
theorem typeValues?_of_dollar (dollar : prop.head? = some '$') (named : isIdentifier prop = true)
    (plain : ∀ inside ∈ literals, IsMember inside) {front back : List Char} {found : List Char × List Char}
    (cut : unionText literals ++ [' ', '}'] = front ++ back) (here : typeHere prop before back = some found) :
    typeValues? source (trim found.1) = none := by
  obtain ⟨_, other, lead, rest, back_eq, blank, run⟩ := exists_of_typeHere here
  -- the dollar sign stands inside a literal
  obtain ⟨within, union_eq, rfl⟩ : ∃ within, unionText literals = front ++ '$' :: within ∧
      back = '$' :: within ++ [' ', '}'] := by
    obtain ⟨parts, rfl⟩ := List.head?_eq_some_iff.mp dollar
    rcases List.append_eq_append_iff.mp cut with ⟨middle, _, behind⟩ | ⟨within, union_eq, rfl⟩
    · have member : '$' ∈ [' ', '}'] := by
        rw [behind, back_eq]
        simp
      exact absurd member (by decide)
    · cases within with
      | nil => simp at back_eq
      | cons c within =>
        obtain rfl : c = '$' := (List.cons.inj back_eq).1
        exact ⟨within, union_eq, rfl⟩
  obtain ⟨inside, text, inside_eq, member, ahead⟩ := exists_of_dollar plain union_eq
  -- and so does the colon
  have quoteless : '\'' ∉ prop ++ mark other ++ lead ++ [':'] := by
    have name : '\'' ∉ prop := fun within => absurd (isIdentifierPart_of_mem named within) (by decide)
    have sign : '\'' ∉ mark other := by cases other <;> decide
    have gap : '\'' ∉ lead := fun within => absurd (List.all_eq_true.mp blank _ within) (by decide)
    simp [name, sign, gap]
  have place : prop ++ mark other ++ lead ++ [':'] ++ rest = inside ++ '\'' :: (text ++ [' ', '}']) := by
    rw [List.append_assoc _ [':'], List.singleton_append, ← back_eq, inside_eq, List.append_assoc, List.cons_append]
  obtain ⟨inner, rfl, rfl⟩ := exists_of_append_eq quoteless place
  have part : ∀ c ∈ inner, c ∉ ['\'', '|', ';', ',', '\n', '}'] := fun c within =>
    member c (List.mem_append_right _ within)
  refine typeValues?_of_run part ahead ?_ ?_ run
  · refine ⟨by rintro c ⟨⟩; decide, ?_⟩
    intro c last
    refine (isTrimmed_unionText literals).last c ?_
    rwa [union_eq, inside_eq, ← List.append_assoc, List.getLast?_append_of_ne_nil _ (List.cons_ne_nil _ _)]
  · intro c within
    refine not_stop_of_mem_unionText plain c ?_
    rw [union_eq, inside_eq]
    exact List.mem_append_right _ (List.mem_append_right _ (List.mem_cons_of_mem _ within))

theorem declared_of_dollar (dollar : prop.head? = some '$') (named : isIdentifier prop = true)
    (plain : ∀ inside ∈ literals, IsMember inside) (optional : Bool) :
    declared prop (interfaceText prop optional literals) = [] := by
  have nothing : ∀ type ∈ (findAll (typeHere prop) (interfaceText prop optional literals)).map trim,
      (typeValues? (interfaceText prop optional literals) type).getD [] = [] := by
    intro type listed
    obtain ⟨found, inTypes, rfl⟩ := List.mem_map.mp listed
    obtain ⟨front, back, after, cut, here⟩ := exists_place_of_mem_searchAll inTypes
    rcases List.append_eq_append_iff.mp cut with ⟨middle, _, behind⟩ | ⟨entry, front_eq, rfl⟩
    · obtain ⟨_, other, lead, rest, rfl, _⟩ := exists_of_typeHere here
      obtain ⟨parts, rfl⟩ := List.head?_eq_some_iff.mp dollar
      rcases middle with _ | ⟨a, _ | ⟨b, middle⟩⟩
      · simp at behind
      · simp at behind
      · have later := (List.cons.inj (List.cons.inj behind).2).2
        rw [typeValues?_of_dollar dollar named plain later here]
        rfl
    · -- before the colon only the entry can be found, where no word begins
      have place := front_eq_of_typeHere named front_eq.symm here
      have boundary := (exists_of_typeHere here).1
      rw [place] at front_eq boundary
      rw [← List.append_cancel_left front_eq] at boundary
      obtain ⟨parts, rfl⟩ := List.head?_eq_some_iff.mp dollar
      have no_boundary : ∀ text, isBoundary (opening.getLast?.or none) ('$' :: text) = false := by
        intro text
        have before : opening.getLast?.or none = some ' ' := by decide
        have blank : isWord ' ' = false := by decide
        have sign : isWord '$' = false := by decide
        simp [isBoundary, before, blank, sign]
      rw [List.cons_append, List.cons_append, no_boundary] at boundary
      contradiction
  rw [declared, List.flatMap_eq_nil_iff.mpr nothing]
  rfl

/-! ## Discovery -/

theorem values?_eq_type_iff {values : List String} : values? prop source = some (.type, values) ↔
    declared prop source ≠ [] ∧ values = (declared prop source).map String.ofList := by
  have usage : ∀ values, found? .usage (used prop source) ≠ some (.type, values) := by
    intro values
    rw [found?]
    split <;> simp
  rw [values?]
  cases told : declared prop source with
  | nil =>
    cases uses : found? .usage (used prop source) with
    | none => simp [found?]
    | some found =>
      rw [uses] at usage
      simpa [found?] using usage values
  | cons value others =>
    simp only [found?, List.isEmpty_cons, Bool.false_eq_true, if_false, Option.orElse_some, Option.some.injEq,
      Prod.mk.injEq, true_and, ne_eq, reduceCtorEq, not_false_eq_true]
    exact eq_comm

/-- Discovery tells of a declared type exactly if the name does not begin with a dollar sign, and then it tells the
literals of the union in their order. -/
theorem declared_union_iff (named : isIdentifier prop = true) (several : 1 < literals.length) (nodup : literals.Nodup)
    (plain : ∀ inside ∈ literals, IsMember inside) (optional : Bool) (values : List String) :
    values? prop (interfaceText prop optional literals) = some (.type, values) ↔
      prop.head? ≠ some '$' ∧ values = literals.map String.ofList := by
  rw [values?_eq_type_iff]
  by_cases dollar : prop.head? = some '$'
  · simp [declared_of_dollar dollar named plain, dollar]
  · have some_literal : literals ≠ [] := List.ne_nil_of_length_pos (by omega)
    simp [declared_of_word named dollar several nodup plain, dollar, some_literal]

theorem declared_union_iff_size :
    let literals := ["small: 1".toList, "x-large".toList, []]
    interfaceText "size".toList true literals = "interface P \x7b size?: 'small: 1' | 'x-large' | '' \x7d".toList ∧
      values? "size".toList (interfaceText "size".toList true literals) =
        some (.type, ["small: 1", "x-large", ""]) := by
  intro literals
  have named : isIdentifier "size".toList = true := by decide
  have plain : ∀ inside ∈ literals, IsMember inside := by decide
  exact ⟨by decide, (declared_union_iff named (by decide) (by decide) plain true _).mpr ⟨by decide, rfl⟩⟩

/-- A transient prop with a declared union: nothing is found. -/
theorem undeclared_tone :
    interfaceText "$tone".toList false [['a'], ['b']] = "interface P \x7b $tone: 'a' | 'b' \x7d".toList ∧
      values? "$tone".toList (interfaceText "$tone".toList false [['a'], ['b']]) = none := by
  decide +kernel

end StaticStyles.Discovery
