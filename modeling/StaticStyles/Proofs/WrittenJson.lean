import Mathlib.Data.List.DropRight
import StaticStyles.Json.Decode
import StaticStyles.Json.Writer

/-!
JSON that was written, read again. A text comes back with all its characters (`readText_written`), and so do the
members of an object, whatever white space stands between its tokens (`Reads.object`). Of a value on one line the
first character tells its kind (`opening_write`), so that nothing else is read as a text or an object.
-/
namespace StaticStyles.Json

/-! ## Texts -/

private theorem hexPadded_control : ∀ n < 32, ∃ a b,
    Text.hexPadded 4 n = ['0', '0', a, b] ∧ hex4? '0' '0' a b = some n := by
  have digits : ∀ n < 32, Text.hexPadded 4 n = ['0', '0', Nat.digitChar (n / 16), Nat.digitChar (n % 16)] ∧
      hex4? '0' '0' (Nat.digitChar (n / 16)) (Nat.digitChar (n % 16)) = some n := by
    decide +kernel
  exact fun n small => ⟨_, _, digits n small⟩

/-- A word below the surrogates is its character, whatever follows. -/
theorem joinUnits_word {word : Nat} (small : word < 0xD800) (units : List (Char ⊕ Nat)) :
    joinUnits (.inr word :: units) = (joinUnits units).map (Char.ofNat word :: ·) := by
  have noHigh : isHighHalf word = false := by simp [isHighHalf, Nat.not_le.mpr small]
  have noLow : isLowHalf word = false := by
    have : ¬ 0xDC00 ≤ word := by omega
    simp [isLowHalf, this]
  rcases units with _ | ⟨_ | low, units⟩ <;> simp [joinUnits, noHigh, noLow]

/-- A written character is read as one unit, and the unit is that character. -/
theorem textUnits_escapeChar (c : Char) {rest after : List Char} {units : List (Char ⊕ Nat)}
    (read : textUnits rest = some (units, after)) :
    ∃ unit, textUnits (escapeChar c ++ rest) = some (unit :: units, after) ∧
      joinUnits (unit :: units) = (joinUnits units).map (c :: ·) := by
  unfold escapeChar
  split
  -- Characters with a short escape are done alike; the last branch holds control characters and plain ones.
  case h_8 plain quote backslash _ _ _ _ _ =>
    by_cases control : c < ' '
    · have small : c.toNat < 32 := control
      obtain ⟨a, b, digits, word⟩ := hexPadded_control c.toNat small
      refine ⟨.inr c.toNat, ?_, ?_⟩
      · simp [control, digits, textUnits, word, read]
      · rw [joinUnits_word (by omega), Char.ofNat_toNat]
    · refine ⟨.inl c, ?_, rfl⟩
      rw [if_neg control, List.singleton_append, textUnits]
      · simp [control, read]
      · exact quote
      · rintro _ _ _ _ _ rfl _
        exact backslash rfl
      · rintro _ _ rfl _
        exact backslash rfl
  all_goals exact ⟨.inl _, by simp [textUnits, shortEscape?, read], rfl⟩

theorem textUnits_written (text rest : List Char) :
    ∃ units, textUnits (text.flatMap escapeChar ++ '"' :: rest) = some (units, rest) ∧ joinUnits units = some text := by
  induction text with
  | nil => exact ⟨[], rfl, rfl⟩
  | cons c text ih =>
    obtain ⟨units, read, joined⟩ := ih
    obtain ⟨unit, first, whole⟩ := textUnits_escapeChar c read
    refine ⟨unit :: units, ?_, ?_⟩
    · rw [List.flatMap_cons, List.append_assoc]
      exact first
    · rw [whole, joined]
      rfl

/-- A written text is read back, whatever follows it. -/
theorem readText_written (text : String) (rest : List Char) :
    readText (text.toList.flatMap escapeChar ++ '"' :: rest) = some (some text, rest) := by
  obtain ⟨units, read, joined⟩ := textUnits_written text.toList rest
  simp only [readText, read, Option.map_some, joined, String.ofList_toList]

theorem writeText_append (text : String) (rest : List Char) :
    writeText text ++ rest = '"' :: (text.toList.flatMap escapeChar ++ '"' :: rest) := by
  simp [writeText]

/-! ## White space -/

theorem skipSpace_append {blank : List Char} (spaces : ∀ c ∈ blank, isSpace c = true) (rest : List Char) :
    skipSpace (blank ++ rest) = skipSpace rest :=
  List.dropWhile_append_of_pos spaces

theorem skipSpace_cons {c : Char} (solid : isSpace c = false) (rest : List Char) :
    skipSpace (c :: rest) = c :: rest := by
  simp [skipSpace, solid]

theorem readValue_skipSpace (fuel : Nat) (text : List Char) :
    readValue fuel (skipSpace text) = readValue fuel text := by
  have again : skipSpace (skipSpace text) = skipSpace text := List.dropWhile_idempotent _ text
  cases fuel with
  | zero => rfl
  | succ fuel => simp only [readValue, again]

theorem readMembers_skipSpace (fuel : Nat) (text : List Char) :
    readMembers fuel (skipSpace text) = readMembers fuel text := by
  have again : skipSpace (skipSpace text) = skipSpace text := List.dropWhile_idempotent _ text
  cases fuel with
  | zero => rfl
  | succ fuel => simp only [readMembers, again]

/-! ## Values -/

theorem readValue_writeText (fuel : Nat) (text : String) (rest : List Char) :
    readValue (fuel + 1) (writeText text ++ rest) = some (.text (some text), rest) := by
  rw [writeText_append, readValue, skipSpace_cons (by decide)]
  simp only [readText_written, Option.map_some]

/-- An object with a member is read member by member. -/
theorem readValue_brace {text inner : List Char} (shown : skipSpace text = '"' :: inner) (fuel : Nat) :
    readValue (fuel + 1) ('{' :: text) =
      (readMembers fuel text).map fun (members, rest) => (.object members, rest) := by
  rw [readValue, skipSpace_cons (by decide)]
  simp only [shown]
  rw [← readMembers_skipSpace, shown]
  rfl

/-- A written value is read as a raw tree, whatever follows it. -/
def Reads (written : List Char) (raw : Raw) : Prop :=
  ∀ fuel rest, written.length ≤ fuel → readValue fuel (written ++ rest) = some (raw, rest)

theorem reads_writeText (text : String) : Reads (writeText text) (.text (some text)) := by
  intro fuel rest long
  obtain ⟨fuel, rfl⟩ : ∃ less, fuel = less + 1 := ⟨fuel - 1, by simp [writeText] at long; omega⟩
  exact readValue_writeText fuel text rest

/-! ## Objects -/

/-- A member of an object: its name, its value as it is written, and the raw tree of that. -/
structure Member where
  name : String
  written : List Char
  value : Raw

namespace Member

/-- A member as text, with white space before its name and its value. -/
def text (lead gap : List Char) (member : Member) : List Char :=
  lead ++ writeText member.name ++ ':' :: (gap ++ member.written)

def raw (member : Member) : Option String × Raw := (some member.name, member.value)

/-- Members as text, with commas between them. -/
def texts (lead gap : List Char) (members : List Member) : List Char :=
  [','].intercalate (members.map (text lead gap))

theorem texts_cons_cons (lead gap : List Char) (member next : Member) (members : List Member) :
    texts lead gap (member :: next :: members) =
      text lead gap member ++ ',' :: texts lead gap (next :: members) := by
  simp [texts]

theorem text_append (lead gap : List Char) (member : Member) (after : List Char) :
    text lead gap member ++ after =
      lead ++ '"' :: (member.name.toList.flatMap escapeChar ++ '"' :: ':' :: (gap ++ (member.written ++ after))) := by
  simp [text, writeText]

theorem length_written_lt (lead gap : List Char) (member : Member) :
    member.written.length < (text lead gap member).length := by
  simp [text, writeText]
  omega

end Member

/-- What is read after the value of a member: the closing brace, or a comma and further members. -/
def readFurther (fuel : Nat) (member : Option String × Raw) (text : List Char) :
    Option (List (Option String × Raw) × List Char) :=
  match skipSpace text with
  | '}' :: rest => some ([member], rest)
  | ',' :: rest => (readMembers fuel rest).map fun (members, rest) => (member :: members, rest)
  | _ => none

theorem readFurther_brace {tail : List Char} (closing : ∀ c ∈ tail, isSpace c = true) (fuel : Nat)
    (member : Option String × Raw) (rest : List Char) :
    readFurther fuel member (tail ++ '}' :: rest) = some ([member], rest) := by
  rw [readFurther, skipSpace_append closing, skipSpace_cons (by decide)]
  rfl

theorem readFurther_comma (fuel : Nat) (member : Option String × Raw) (rest : List Char) :
    readFurther fuel member (',' :: rest) =
      (readMembers fuel rest).map fun (members, rest) => (member :: members, rest) := by
  rw [readFurther, skipSpace_cons (by decide)]
  rfl

theorem exists_cons_of_readFurther {fuel : Nat} {member : Option String × Raw} {text rest : List Char}
    {raws : List (Option String × Raw)} (read : readFurther fuel member text = some (raws, rest)) :
    ∃ others, raws = member :: others := by
  rw [readFurther] at read
  split at read
  · obtain ⟨rfl, _⟩ := Prod.mk.inj (Option.some.inj read)
    exact ⟨[], rfl⟩
  · obtain ⟨⟨others, _⟩, _, made⟩ := Option.map_eq_some_iff.mp read
    exact ⟨others, (Prod.mk.inj made).1.symm⟩
  · contradiction

section
variable {lead gap tail : List Char} (leading : ∀ c ∈ lead, isSpace c = true) (between : ∀ c ∈ gap, isSpace c = true)
include leading

/-- The text of members that are there begins with a quote. -/
theorem skipSpace_texts {members : List Member} (filled : members ≠ []) (gap after : List Char) :
    ∃ inner, skipSpace (Member.texts lead gap members ++ after) = '"' :: inner := by
  obtain ⟨member, others, rfl⟩ := List.exists_cons_of_ne_nil filled
  obtain ⟨more, opening⟩ : ∃ more, Member.texts lead gap (member :: others) ++ after =
      member.text lead gap ++ more := by
    cases others with
    | nil => exact ⟨after, by simp [Member.texts]⟩
    | cons next others => exact ⟨_, by rw [Member.texts_cons_cons, List.append_assoc]⟩
  rw [opening, Member.text_append, skipSpace_append leading, skipSpace_cons (by decide)]
  exact ⟨_, rfl⟩

include between

/-- A written member is read, and what follows its value decides how the reading goes on. -/
theorem readMembers_text (fuel : Nat) (member : Member) (after : List Char) :
    readMembers (fuel + 1) (member.text lead gap ++ after) =
      (readValue fuel (member.written ++ after)).bind fun (value, rest) =>
        readFurther fuel (some member.name, value) rest := by
  have value : readValue fuel (gap ++ (member.written ++ after)) = readValue fuel (member.written ++ after) := by
    rw [← readValue_skipSpace, skipSpace_append between, readValue_skipSpace]
  rw [Member.text_append, readMembers, skipSpace_append leading, skipSpace_cons (by decide)]
  simp only [readText_written]
  rw [skipSpace_cons (by decide)]
  simp only [value]
  cases readValue fuel (member.written ++ after) <;> rfl

theorem readMembers_text_of_reads {fuel : Nat} {member : Member} (read : Reads member.written member.value)
    (long : member.written.length ≤ fuel) (after : List Char) :
    readMembers (fuel + 1) (member.text lead gap ++ after) = readFurther fuel member.raw after := by
  rw [readMembers_text leading between, read fuel after long, Option.bind_some]
  rfl

/-- Written members are read one after the other, up to the closing brace. -/
theorem readMembers_texts (closing : ∀ c ∈ tail, isSpace c = true) {members : List Member} (filled : members ≠ [])
    (read : ∀ member ∈ members, Reads member.written member.value) {fuel : Nat}
    (long : (Member.texts lead gap members).length ≤ fuel) (rest : List Char) :
    readMembers fuel (Member.texts lead gap members ++ (tail ++ '}' :: rest)) =
      some (members.map Member.raw, rest) := by
  -- Each member is longer than its value, so the fuel for what follows it still covers the text that is left.
  induction members generalizing fuel with
  | nil => contradiction
  | cons member members ih =>
    obtain ⟨first, others⟩ := List.forall_mem_cons.mp read
    have size := member.length_written_lt lead gap
    cases members with
    | nil =>
      have single : Member.texts lead gap [member] = member.text lead gap := List.intercalate_singleton
      rw [single] at long ⊢
      obtain ⟨fuel, rfl⟩ : ∃ less, fuel = less + 1 := ⟨fuel - 1, by omega⟩
      rw [readMembers_text_of_reads leading between first (by omega), readFurther_brace closing]
      rfl
    | cons next members =>
      rw [Member.texts_cons_cons] at long ⊢
      rw [List.length_append, List.length_cons] at long
      obtain ⟨fuel, rfl⟩ : ∃ less, fuel = less + 1 := ⟨fuel - 1, by omega⟩
      rw [List.append_assoc, readMembers_text_of_reads leading between first (by omega), List.cons_append,
        readFurther_comma, ih (List.cons_ne_nil _ _) others (by omega)]
      rfl

/-- A written object is read, if each of its members is. -/
theorem Reads.object (closing : ∀ c ∈ tail, isSpace c = true) {members : List Member} (filled : members ≠ [])
    (read : ∀ member ∈ members, Reads member.written member.value) :
    Reads ('{' :: (Member.texts lead gap members ++ tail ++ ['}'])) (.object (members.map Member.raw)) := by
  intro fuel rest long
  simp only [List.length_cons, List.length_append] at long
  obtain ⟨fuel, rfl⟩ : ∃ less, fuel = less + 1 := ⟨fuel - 1, by omega⟩
  obtain ⟨inner, shown⟩ := skipSpace_texts leading filled gap (tail ++ '}' :: rest)
  have text : '{' :: (Member.texts lead gap members ++ tail ++ ['}']) ++ rest =
      '{' :: (Member.texts lead gap members ++ (tail ++ '}' :: rest)) := by
    simp
  rw [text, readValue_brace shown, readMembers_texts leading between closing filled read (by omega) rest]
  rfl

end

theorem reads_empty : Reads ['{', '}'] (.object []) := by
  intro fuel rest long
  obtain ⟨fuel, rfl⟩ : ∃ less, fuel = less + 1 := ⟨fuel - 1, by simp at long; omega⟩
  simp [readValue, skipSpace, isSpace]

/-! ## Maps -/

/-- A member with a text as its value. -/
def Member.ofEntry (entry : String × String) : Member := ⟨entry.1, writeText entry.2, .text (some entry.2)⟩

theorem reads_ofEntry (entries : List (String × String)) :
    ∀ member ∈ entries.map Member.ofEntry, Reads member.written member.value := by
  intro member listed
  obtain ⟨entry, _, rfl⟩ := List.mem_map.mp listed
  exact reads_writeText entry.2

/-- The raw tree of an object of texts. -/
def Raw.ofEntries (entries : List (String × String)) : Raw :=
  .object ((entries.map Member.ofEntry).map Member.raw)

theorem textMap?_ofEntries (entries : List (String × String)) :
    (Raw.ofEntries entries).textMap? = some (.ofList entries) := by
  have texts : ((entries.map Member.ofEntry).map Member.raw).mapM Raw.textMember? = some entries := by
    induction entries with
    | nil => rfl
    | cons entry entries ih =>
      rw [List.map_cons, List.map_cons, List.mapM_cons, ih]
      rfl
  rw [Raw.ofEntries, Raw.textMap?, texts, Option.map_some]

theorem isSpace_of_mem_newline {level : Nat} : ∀ c ∈ newline level, isSpace c = true := by
  intro c member
  rcases List.mem_cons.mp member with rfl | blank
  · rfl
  · rw [List.eq_of_mem_replicate blank]
    rfl

/-- An indented object is read, if each of its members is. -/
theorem reads_indentMembers (level : Nat) (members : List Member)
    (read : ∀ member ∈ members, Reads member.written member.value) :
    Reads (indentMembers level (members.map fun member => (member.name, member.written)))
      (.object (members.map Member.raw)) := by
  by_cases filled : members = []
  · subst filled
    exact reads_empty
  · have lines : indentMembers level (members.map fun member => (member.name, member.written)) =
        '{' :: (Member.texts (newline (level + 1)) [' '] members ++ newline level ++ ['}']) := by
      have line : Member.text (newline (level + 1)) [' '] = fun member =>
          newline (level + 1) ++ writeText member.name ++ [':', ' '] ++ member.written := by
        funext member
        simp [Member.text]
      simp [indentMembers, filled, Member.texts, line, Function.comp_def]
    rw [lines]
    exact Reads.object isSpace_of_mem_newline (by simp [isSpace]) isSpace_of_mem_newline filled read

theorem reads_indentMap (level : Nat) (map : SortedMap String) :
    Reads (indentMap level map) (.ofEntries map.entries) := by
  have read := reads_indentMembers level _ (reads_ofEntry map.entries)
  rw [List.map_map] at read
  exact read

/-- A member with a map of texts as its value, at the first level. -/
def Member.ofMap (entry : String × SortedMap String) : Member :=
  ⟨entry.1, indentMap 1 entry.2, .ofEntries entry.2.entries⟩

theorem reads_indentMaps (maps : SortedMap (SortedMap String)) :
    Reads (indentMaps 0 maps) (.object ((maps.entries.map Member.ofMap).map Member.raw)) := by
  have read := reads_indentMembers 0 (maps.entries.map Member.ofMap) (by
    intro member listed
    obtain ⟨entry, _, rfl⟩ := List.mem_map.mp listed
    exact reads_indentMap 1 entry.2)
  rw [List.map_map] at read
  exact read

/-- A text that is written whole is read whole. -/
theorem Reads.ofText? {written : List Char} {raw : Raw} (read : Reads written raw) :
    Raw.ofText? (String.ofList written) = some raw := by
  have whole := read (2 * written.length + 2) [] (by omega)
  rw [List.append_nil] at whole
  rw [Raw.ofText?, String.toList_ofList, whole]
  rfl

/-! ## Numbers -/

/-- Whether a text begins as a number does. -/
def opensNumber (text : List Char) : Bool := text.head?.any fun c => c.isDigit || c = '-'

theorem opensNumber_append {text : List Char} (opens : opensNumber text = true) (rest : List Char) :
    opensNumber (text ++ rest) = true := by
  cases text with
  | nil => contradiction
  | cons c text => exact opens

theorem opensNumber_take {text : List Char} (opens : opensNumber text = true) {n : Nat} (some : 0 < n) :
    opensNumber (text.take n) = true := by
  cases text with
  | nil => contradiction
  | cons c text =>
    obtain ⟨n, rfl⟩ := Nat.exists_eq_succ_of_ne_zero some.ne'
    exact opens

theorem opensNumber_of_digits {digits : List Char} (filled : digits ≠ []) (all : ∀ c ∈ digits, c.isDigit = true) :
    opensNumber digits = true := by
  obtain ⟨c, rest, rfl⟩ := List.exists_cons_of_ne_nil filled
  simp [opensNumber, all c List.mem_cons_self]

theorem opensNumber_toDigits (n : Nat) : opensNumber (Nat.toDigits 10 n) = true :=
  opensNumber_of_digits Nat.toDigits_ne_nil fun _ member => Nat.isDigit_of_mem_toDigits (by omega) (by omega) member

theorem opensNumber_significant (d : Binary64.Decimal) : opensNumber (Binary64.significant d) = true := by
  rw [Binary64.significant]
  split
  · decide
  case _ filled =>
    refine opensNumber_of_digits filled fun c member => ?_
    have kept := (List.dropWhile_sublist _).subset (List.mem_reverse.mp member)
    exact Nat.isDigit_of_mem_toDigits (by omega) (by omega) (List.mem_reverse.mp kept)

theorem opensNumber_positional {digits : List Char} (opens : opensNumber digits = true) (whole : Int) :
    opensNumber (Binary64.positional digits whole) = true := by
  rw [Binary64.positional]
  split
  · rfl
  · simp only [List.append_assoc]
    exact opensNumber_append (opensNumber_take opens (by omega)) _

theorem opensNumber_scientific {digits : List Char} (opens : opensNumber digits = true) (power : Int) :
    opensNumber (Binary64.scientific digits power) = true := by
  match digits with
  | [] => contradiction
  | [d] => exact opens
  | d :: e :: rest => exact opens

theorem opensNumber_text (x : Binary64) : opensNumber x.text = true := by
  rw [Binary64.text]
  split
  · rfl
  · dsimp only
    split
    · exact opensNumber_positional (opensNumber_significant _) _
    · exact opensNumber_scientific (opensNumber_significant _) _

theorem opensNumber_numberText (n : Number) : opensNumber n.text = true := by
  cases n with
  | double bits =>
    rw [Number.text, Binary64.bitsText]
    split
    · rfl
    · exact opensNumber_text _
  | whole n =>
    rw [Number.text, Int.toString_eq_repr, Int.repr_eq_if]
    split
    · rw [Nat.repr_eq_ofList_toDigits, String.toList_ofList]
      exact opensNumber_toDigits _
    · rw [String.toList_append]
      rfl

/-! ## Values on one line -/

/-- A value is a text if it is written with a quote first, and an object if with a brace. -/
theorem opening_write (value : Value) : ∃ c rest, write value = c :: rest ∧ isSpace c = false ∧
    (c = '"' → ∃ text, value = .text text) ∧ (c = '{' → ∃ members, value = .object members) := by
  cases value with
  | null => exact ⟨'n', _, rfl, rfl, by simp, by simp⟩
  | bool value => cases value <;> exact ⟨_, _, rfl, rfl, by simp, by simp⟩
  | text text => exact ⟨'"', _, rfl, rfl, by simp, by simp⟩
  | array items => exact ⟨'[', _, rfl, rfl, by simp, by simp⟩
  | object members => exact ⟨'{', _, rfl, rfl, by simp, by simp⟩
  | number n =>
    have opens := opensNumber_numberText n
    rw [write]
    cases text : n.text with
    | nil =>
      rw [text] at opens
      contradiction
    | cons c rest =>
      have first : c.isDigit = true ∨ c = '-' := by simpa [text, opensNumber] using opens
      refine ⟨c, rest, rfl, ?_, ?_, ?_⟩
      · rcases first with digit | rfl
        · rw [Bool.eq_false_iff]
          intro space
          simp only [isSpace, Bool.or_eq_true, decide_eq_true_eq] at space
          rcases space with ((rfl | rfl) | rfl) | rfl <;> contradiction
        · rfl
      · rintro rfl
        contradiction
      · rintro rfl
        contradiction

theorem skipSpace_write (value : Value) (rest : List Char) :
    skipSpace (write value ++ rest) = write value ++ rest := by
  obtain ⟨c, inner, written, solid, _⟩ := opening_write value
  rw [written, List.cons_append, skipSpace_cons solid]

/-- What is read as a text begins with a quote, and what is read as an object with a brace. -/
theorem opening_of_readValue {fuel : Nat} {text rest : List Char} {raw : Raw}
    (read : readValue fuel text = some (raw, rest)) :
    (∀ value, raw = .text value → ∃ inner, skipSpace text = '"' :: inner) ∧
      ∀ members, raw = .object members → ∃ inner, skipSpace text = '{' :: inner := by
  cases fuel with
  | zero => contradiction
  | succ fuel =>
    rw [readValue] at read
    split at read
    case h_4 opened => exact ⟨fun _ _ => ⟨_, opened⟩, fun _ object => by simp [object] at read⟩
    case h_6 opened =>
      refine ⟨?_, fun _ _ => ⟨_, opened⟩⟩
      rintro value rfl
      split at read <;> simp at read
    case h_5 =>
      constructor <;> (rintro _ rfl; split at read <;> simp at read)
    all_goals constructor <;> (rintro _ rfl; simp at read)

/-- A written value that is read at all is a text that is read back, or neither it nor what is read is a text. -/
theorem readValue_write {fuel : Nat} {value : Value} {after rest : List Char} {raw : Raw}
    (read : readValue fuel (write value ++ after) = some (raw, rest)) :
    (∃ text, value = .text text ∧ raw = .text (some text) ∧ rest = after) ∨
      value.text? = none ∧ ∀ text, raw ≠ .text text := by
  by_cases quoted : ∃ text, value = .text text
  · obtain ⟨text, rfl⟩ := quoted
    cases fuel with
    | zero => contradiction
    | succ fuel =>
      rw [write, readValue_writeText] at read
      obtain ⟨rfl, rfl⟩ := Prod.mk.inj (Option.some.inj read)
      exact .inl ⟨text, rfl, rfl, rfl⟩
  · refine .inr ⟨?_, ?_⟩
    · cases value <;> first | rfl | exact absurd ⟨_, rfl⟩ quoted
    · rintro text rfl
      obtain ⟨c, inner, written, _, quote, _⟩ := opening_write value
      obtain ⟨more, opened⟩ := (opening_of_readValue read).1 text rfl
      rw [skipSpace_write, written] at opened
      exact quoted (quote (List.cons.inj opened).1)

/-- Members on one line, whatever raw trees are told of them. -/
theorem writeMembers_eq (raw : Value → Raw) (members : List (String × Value)) :
    writeMembers members =
      Member.texts [] [] (members.map fun member => ⟨member.1, write member.2, raw member.2⟩) := by
  induction members with
  | nil => rfl
  | cons member members ih =>
    cases members with
    | nil => simp [writeMembers, Member.texts, Member.text]
    | cons next members =>
      rw [writeMembers, ih]
      · simp [Member.texts_cons_cons, Member.text]
      · simp

theorem writeMembers_cons_append (member : String × Value) (members : List (String × Value)) (rest : List Char) :
    writeMembers (member :: members) ++ '}' :: rest =
      Member.text [] [] ⟨member.1, write member.2, .null⟩ ++
        if members = [] then '}' :: rest else ',' :: (writeMembers members ++ '}' :: rest) := by
  rw [writeMembers_eq fun _ => .null, writeMembers_eq fun _ => .null]
  cases members <;> simp [Member.texts]

/-- The members of an object as entries; none if one of them is no text. -/
def entries? (members : List (String × Value)) : Option (List (String × String)) :=
  members.mapM fun (name, value) => value.text?.map (name, ·)

theorem entries?_cons_text (name text : String) (members : List (String × Value)) :
    entries? ((name, .text text) :: members) = (entries? members).map ((name, text) :: ·) := by
  cases entry : entries? members <;> simp_all [entries?, Value.text?]

theorem entries?_cons_of_text?_eq_none {value : Value} (other : value.text? = none) (name : String)
    (members : List (String × Value)) : entries? ((name, value) :: members) = none := by
  simp [entries?, other]

/-- What is read from written members has their entries. -/
theorem mapM_of_readMembers {members : List (String × Value)} (filled : members ≠ []) {fuel : Nat}
    {rest after : List Char} {raws : List (Option String × Raw)}
    (read : readMembers fuel (writeMembers members ++ '}' :: rest) = some (raws, after)) :
    raws.mapM Raw.textMember? = entries? members := by
  induction members generalizing fuel raws after with
  | nil => contradiction
  | cons member members ih =>
    obtain ⟨name, value⟩ := member
    rw [writeMembers_cons_append] at read
    cases fuel with
    | zero => contradiction
    | succ fuel =>
      rw [readMembers_text (by simp) (by simp)] at read
      obtain ⟨⟨raw, left⟩, first, further⟩ := Option.bind_eq_some_iff.mp read
      dsimp only at further
      -- A member that is no text leaves no entries, whatever is read after it, so only texts need the induction.
      rcases readValue_write first with ⟨text, rfl, rfl, rfl⟩ | ⟨noText, other⟩
      · rw [entries?_cons_text]
        by_cases last : members = []
        · rw [if_pos last, ← List.nil_append ('}' :: rest), readFurther_brace (by simp)] at further
          obtain ⟨rfl, _⟩ := Prod.mk.inj (Option.some.inj further)
          subst last
          rfl
        · rw [if_neg last, readFurther_comma] at further
          obtain ⟨⟨others, _⟩, left, made⟩ := Option.map_eq_some_iff.mp further
          obtain ⟨rfl, _⟩ := Prod.mk.inj made
          rw [← ih last left, List.mapM_cons]
          cases others.mapM Raw.textMember? <;> rfl
      · obtain ⟨others, rfl⟩ := exists_cons_of_readFurther further
        rw [entries?_cons_of_text?_eq_none noText, List.mapM_cons]
        cases raw <;> first | rfl | exact absurd rfl (other _)

theorem entries?_map (entries : List (String × String)) :
    entries? (entries.map fun (name, text) => (name, .text text)) = some entries := by
  induction entries with
  | nil => rfl
  | cons entry entries ih => rw [List.map_cons, entries?_cons_text, ih, Option.map_some]

theorem eq_map_of_entries? {members : List (String × Value)} {entries : List (String × String)}
    (texts : entries? members = some entries) : members = entries.map fun (name, text) => (name, .text text) := by
  induction members generalizing entries with
  | nil =>
    obtain rfl := Option.some.inj texts
    rfl
  | cons member members ih =>
    obtain ⟨name, value⟩ := member
    cases value
    case text text =>
      rw [entries?_cons_text] at texts
      obtain ⟨others, left, rfl⟩ := Option.map_eq_some_iff.mp texts
      rw [ih left, List.map_cons]
    all_goals exact absurd texts (by simp [entries?, Value.text?])

theorem reads_write_entries (entries : List (String × String)) :
    Reads (write (.object (entries.map fun (name, text) => (name, .text text)))) (.ofEntries entries) := by
  by_cases filled : entries = []
  · subst filled
    exact reads_empty
  · rw [write, writeMembers_eq fun value => .text value.text?, List.map_map]
    have read : Reads ('{' :: (Member.texts [] [] (entries.map Member.ofEntry) ++ [] ++ ['}'])) (.ofEntries entries) :=
      Reads.object (by simp) (by simp) (by simp) (by simpa using filled) (reads_ofEntry entries)
    rw [List.append_nil] at read
    exact read

theorem readValue_of_ofText? {text : List Char} {raw : Raw} (read : Raw.ofText? (String.ofList text) = some raw) :
    ∃ fuel rest, readValue (fuel + 1) text = some (raw, rest) := by
  rw [Raw.ofText?, String.toList_ofList] at read
  split at read
  case h_1 rest first =>
    refine ⟨2 * text.length + 1, rest, ?_⟩
    split at read
    · obtain rfl := Option.some.inj read
      exact first
    · contradiction
  case h_2 => contradiction

/-- Members that are written between braces are read member by member. -/
theorem readMembers_of_readValue_object {members : List (String × Value)} (filled : members ≠ []) {fuel : Nat}
    {rest : List Char} {raw : Raw} (read : readValue (fuel + 1) (write (.object members)) = some (raw, rest)) :
    ∃ raws, raw = .object raws ∧ readMembers fuel (writeMembers members ++ ['}']) = some (raws, rest) := by
  obtain ⟨inner, shown⟩ : ∃ inner, skipSpace (writeMembers members ++ ['}']) = '"' :: inner := by
    rw [writeMembers_eq fun _ => .null]
    exact skipSpace_texts (by simp) (by simpa using filled) [] _
  rw [write, List.cons_append, readValue_brace shown] at read
  obtain ⟨⟨raws, _⟩, inside, made⟩ := Option.map_eq_some_iff.mp read
  obtain ⟨rfl, rfl⟩ := Prod.mk.inj made
  exact ⟨raws, rfl, inside⟩

/-- What is read from a value on one line has the entries of the value, if it is an object of texts. -/
theorem textMap?_of_ofText?_compact {value : Value} {raw : Raw} (read : Raw.ofText? value.compact = some raw) :
    raw.textMap? = (value.members?.bind entries?).map .ofList := by
  obtain ⟨fuel, rest, whole⟩ := readValue_of_ofText? read
  by_cases braced : ∃ members, value = .object members
  · obtain ⟨members, rfl⟩ := braced
    by_cases filled : members = []
    · subst filled
      have empty : Raw.ofText? (Value.compact (.object [])) = some (.object []) := reads_empty.ofText?
      obtain rfl := Option.some.inj (empty.symm.trans read)
      rfl
    · obtain ⟨raws, rfl, inside⟩ := readMembers_of_readValue_object filled whole
      rw [Raw.textMap?, mapM_of_readMembers filled inside]
      rfl
  · have noMembers : value.members? = none := by
      cases value <;> first | rfl | exact absurd ⟨_, rfl⟩ braced
    have noObject : ∀ members, raw ≠ .object members := by
      rintro members rfl
      obtain ⟨c, inner, written, _, _, brace⟩ := opening_write value
      obtain ⟨more, opened⟩ := (opening_of_readValue whole).2 members rfl
      rw [← List.append_nil (write value), skipSpace_write, written] at opened
      exact braced (brace (List.cons.inj opened).1)
    rw [noMembers]
    cases raw <;> first | rfl | exact absurd rfl (noObject _)

/-- A value on one line, read as an object of texts, has the entries of the value. -/
theorem textMap?_compact (value : Value) :
    (Raw.ofText? value.compact).bind Raw.textMap? = (value.members?.bind entries?).map .ofList := by
  cases read : Raw.ofText? value.compact with
  | some raw => exact textMap?_of_ofText?_compact read
  | none =>
    cases texts : value.members?.bind entries? with
    | none => rfl
    | some entries =>
      obtain ⟨members, object, inside⟩ := Option.bind_eq_some_iff.mp texts
      obtain rfl : value = .object members := by
        cases value <;> simp_all [Value.members?]
      obtain rfl := eq_map_of_entries? inside
      have written : Raw.ofText? (Value.compact _) = some _ := (reads_write_entries entries).ofText?
      rw [written] at read
      contradiction

end StaticStyles.Json
