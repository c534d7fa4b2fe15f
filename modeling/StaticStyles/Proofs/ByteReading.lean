import StaticStyles.Proofs.TemplateGrammar
import StaticStyles.Source.Scan

/-!
Reading the bytes of a text. A reader that looks for characters of ASCII can be given the bytes of a text instead of its
characters: it passes over the bytes of all others one by one, and stops at the bytes of what it stops at among the
characters (`afterBacktick?_bytes`, `close_bytes`). So no place that it finds is inside a character.
-/
namespace StaticStyles.Text

/-! ## Bytes -/

/-- The bytes of a text in UTF-8, each as the character of its number. -/
def bytes (text : List Char) : List Char := (text.flatMap String.utf8EncodeChar).map Char.ofUInt8

/-- A character of ASCII. -/
def isAscii (c : Char) : Bool := c.toNat < 128

@[simp] theorem bytes_nil : bytes [] = [] := rfl

theorem bytes_append (a b : List Char) : bytes (a ++ b) = bytes a ++ bytes b := by
  simp [bytes]

theorem bytes_cons_of_isAscii {c : Char} (ascii : isAscii c = true) (rest : List Char) :
    bytes (c :: rest) = c :: bytes rest := by
  have small : c.toNat < 128 := of_decide_eq_true ascii
  have one : String.utf8EncodeChar c = [UInt8.ofNat c.toNat] := if_pos (Nat.le_of_lt_succ small)
  have same : Char.ofUInt8 (UInt8.ofNat c.toNat) = c := by
    refine Char.toNat_inj.mp ?_
    change (UInt8.ofNat c.toNat).toNat = c.toNat
    rw [UInt8.toNat_ofNat', Nat.mod_eq_of_lt (by omega)]
  simp [bytes, one, same]

theorem exists_bytes_cons {c : Char} (foreign : isAscii c = false) (rest : List Char) :
    ∃ first others, bytes (c :: rest) = first :: (others ++ bytes rest) ∧
      isAscii first = false ∧ ∀ other ∈ others, isAscii other = false := by
  have large : ¬ c.val.toNat ≤ 0x7f := fun small => by
    have small : c.toNat < 128 := Nat.lt_succ_of_le small
    simp [isAscii, small] at foreign
  have high : ∀ byte ∈ String.utf8EncodeChar c, 128 ≤ byte.toNat := by
    unfold String.utf8EncodeChar
    rw [if_neg large]
    split
    · simp; omega
    · split <;> simp <;> omega
  have foreign_byte : ∀ byte ∈ String.utf8EncodeChar c, isAscii (Char.ofUInt8 byte) = false :=
    fun byte member => decide_eq_false (Nat.not_lt.mpr (high byte member))
  cases encoded : String.utf8EncodeChar c with
  | nil => exact absurd encoded String.utf8EncodeChar_ne_nil
  | cons first others =>
    rw [encoded] at foreign_byte
    obtain ⟨first_foreign, others_foreign⟩ := List.forall_mem_cons.mp foreign_byte
    exact ⟨Char.ofUInt8 first, others.map Char.ofUInt8, by simp [bytes, encoded], first_foreign,
      List.forall_mem_map.mpr others_foreign⟩

theorem length_bytes (text : List Char) : (bytes text).length = byteSize text := by
  induction text with
  | nil => rfl
  | cons c text ih => simp_all [bytes]

example : bytes ['a', 'é', '`'] = ['a', 'Ã', '©', '`'] := by decide

/-! ## Slices -/

theorem byteSize_pos {text : List Char} (filled : text ≠ []) : 0 < byteSize text := by
  cases text with
  | nil => contradiction
  | cons c text => exact Nat.lt_of_lt_of_le c.utf8Size_pos (Nat.le_add_right _ _)

/-- Of two ways to cut a text, the cut at the greater offset is further behind. -/
theorem exists_between {before after before' after' : List Char} (same : before ++ after = before' ++ after')
    (order : byteSize before ≤ byteSize before') :
    ∃ between, before' = before ++ between ∧ after = between ++ after' := by
  rcases List.append_eq_append_iff.mp same with further | ⟨between, rfl, rfl⟩
  · exact further
  · cases between with
    | nil => exact ⟨[], by simp⟩
    | cons c between =>
      have more := byteSize_pos (List.cons_ne_nil c between)
      rw [byteSize_append] at order
      omega

/-- At one offset there is one cut. -/
theorem append_inj_byteSize {before after before' after' : List Char} (same : before ++ after = before' ++ after')
    (offset : byteSize before = byteSize before') : before = before' ∧ after = after' := by
  obtain ⟨between, rfl, rfl⟩ := exists_between same (Nat.le_of_eq offset)
  cases between with
  | nil => simp
  | cons c between =>
    have more := byteSize_pos (List.cons_ne_nil c between)
    rw [byteSize_append] at offset
    omega

/-- The piece of a text between two byte offsets, which are in order and in range, and inside no character. -/
def IsSlice (text : List Char) (start stop : Nat) (piece : List Char) : Prop :=
  ∃ before after, text = before ++ (piece ++ after) ∧ start = byteSize before ∧ stop = byteSize before + byteSize piece

/-- A beginning of at most so many bytes is no longer than the longest one. -/
theorem byteSize_le_takeBytes {piece : List Char} {n : Nat} (fits : byteSize piece ≤ n) (after : List Char) :
    byteSize piece ≤ byteSize (takeBytes n (piece ++ after)) := by
  induction piece generalizing n with
  | nil => exact Nat.zero_le _
  | cons c piece ih =>
    rw [byteSize_cons] at fits
    rw [List.cons_append, takeBytes, if_pos (by omega), byteSize_cons, byteSize_cons]
    exact Nat.add_le_add_left (ih (by omega)) _

theorem ne_of_isAscii {c d : Char} (ascii : isAscii c = true) (foreign : isAscii d = false) : d ≠ c := by
  rintro rfl
  rw [ascii] at foreign
  contradiction

/-! ## Readers of a text -/

theorem head?_bytes_eq_some_iff {c : Char} (ascii : isAscii c = true) (text : List Char) :
    (bytes text).head? = some c ↔ text.head? = some c := by
  cases text with
  | nil => rfl
  | cons d text =>
    by_cases small : isAscii d = true
    · rw [bytes_cons_of_isAscii small, List.head?_cons, List.head?_cons]
    · obtain ⟨first, others, split, foreign, _⟩ := exists_bytes_cons (Bool.eq_false_iff.mpr small) text
      rw [split]
      simp [ne_of_isAscii ascii foreign, ne_of_isAscii ascii (Bool.eq_false_iff.mpr small)]

theorem dropWhile_bytes {p : Char → Bool} (ascii : ∀ c, p c = true → isAscii c = true) (text : List Char) :
    (bytes text).dropWhile p = bytes (text.dropWhile p) := by
  induction text with
  | nil => rfl
  | cons c text ih =>
    by_cases passed : p c = true
    · rw [bytes_cons_of_isAscii (ascii c passed), List.dropWhile_cons_of_pos passed, List.dropWhile_cons_of_pos passed,
        ih]
    · rw [List.dropWhile_cons_of_neg passed]
      by_cases small : isAscii c = true
      · rw [bytes_cons_of_isAscii small, List.dropWhile_cons_of_neg passed]
      · obtain ⟨first, others, split, foreign, _⟩ := exists_bytes_cons (Bool.eq_false_iff.mpr small) text
        have stays : ¬ p first = true := by
          intro passed
          rw [ascii first passed] at foreign
          contradiction
        rw [split, List.dropWhile_cons_of_neg stays]

theorem afterChars?_bytes {word : List Char} (ascii : word.all isAscii = true) (text : List Char) :
    afterChars? word (bytes text) = (afterChars? word text).map bytes := by
  induction word generalizing text with
  | nil => rfl
  | cons w word ih =>
    rw [List.all_cons, Bool.and_eq_true] at ascii
    obtain ⟨letter, ascii⟩ := ascii
    cases text with
    | nil => rfl
    | cons c text =>
      by_cases small : isAscii c = true
      · rw [bytes_cons_of_isAscii small, afterChars?, afterChars?]
        split
        · exact ih ascii text
        · rfl
      · obtain ⟨first, others, split, foreign, _⟩ := exists_bytes_cons (Bool.eq_false_iff.mpr small) text
        rw [split, afterChars?, afterChars?, if_neg (ne_of_isAscii letter foreign).symm,
          if_neg (ne_of_isAscii letter (Bool.eq_false_iff.mpr small)).symm]
        rfl

end StaticStyles.Text

namespace StaticStyles.Source
open Text

/-! ## The template of a style call -/

theorem skipLayout_bytes (text : List Char) : skipLayout (bytes text) = bytes (skipLayout text) := by
  refine dropWhile_bytes ?_ text
  intro c layout
  simp only [isLayout, Bool.or_eq_true, decide_eq_true_eq] at layout
  rcases layout with (((rfl | rfl) | rfl) | rfl) | rfl <;> rfl

section
variable {opening closing : Char} {depth : Nat} {afterEquals : Bool}

/-- A group goes on behind a character that it has nothing to do with. -/
theorem groupEnd?_foreign (opens : isAscii opening = true) (closes : isAscii closing = true) {c : Char}
    (foreign : isAscii c = false) (rest : List Char) :
    groupEnd? opening closing depth afterEquals (c :: rest) = groupEnd? opening closing depth false rest := by
  have arrow : c ≠ '>' := ne_of_isAscii rfl foreign
  have tick : c ≠ '\x60' := ne_of_isAscii rfl foreign
  have equals : c ≠ '=' := ne_of_isAscii rfl foreign
  rw [groupEnd?]
  simp [arrow, tick, equals, ne_of_isAscii opens foreign, ne_of_isAscii closes foreign]

theorem groupEnd?_foreigners (opens : isAscii opening = true) (closes : isAscii closing = true) {others : List Char}
    (foreign : ∀ other ∈ others, isAscii other = false) (rest : List Char) :
    groupEnd? opening closing depth false (others ++ rest) = groupEnd? opening closing depth false rest := by
  induction others with
  | nil => rfl
  | cons c others ih =>
    obtain ⟨first, foreign⟩ := List.forall_mem_cons.mp foreign
    rw [List.cons_append, groupEnd?_foreign opens closes first, ih foreign]

theorem groupEnd?_bytes (opens : isAscii opening = true) (closes : isAscii closing = true) (text : List Char) :
    groupEnd? opening closing depth afterEquals (bytes text) =
      (groupEnd? opening closing depth afterEquals text).map bytes := by
  induction text generalizing depth afterEquals with
  | nil => rfl
  | cons c text ih =>
    by_cases small : isAscii c = true
    · rw [bytes_cons_of_isAscii small, groupEnd?, groupEnd?]
      simp only [ih, apply_ite (Option.map bytes), Option.map_some, Option.map_none]
    · have foreign := Bool.eq_false_iff.mpr small
      obtain ⟨first, others, split, first_foreign, others_foreign⟩ := exists_bytes_cons foreign text
      rw [split, groupEnd?_foreign opens closes first_foreign, groupEnd?_foreigners opens closes others_foreign, ih,
        groupEnd?_foreign opens closes foreign]

theorem afterGroup?_bytes (opens : isAscii opening = true) (closes : isAscii closing = true) (text : List Char) :
    afterGroup? opening closing (bytes text) = (afterGroup? opening closing text).map bytes := by
  rw [afterGroup?, afterGroup?]
  simp only [head?_bytes_eq_some_iff opens, groupEnd?_bytes opens closes, apply_ite (Option.map bytes), Option.map_none]

end

theorem afterAttributes?_bytes (text : List Char) :
    afterAttributes? (bytes text) = (afterAttributes? text).map bytes := by
  have word : after? ".attrs" (bytes text) = (after? ".attrs" text).map bytes := afterChars?_bytes (by decide) text
  rw [afterAttributes?, afterAttributes?, word]
  cases after? ".attrs" text with
  | none => rfl
  | some rest =>
    simp only [Option.map_some]
    rw [skipLayout_bytes, afterGroup?_bytes rfl rfl, Option.map_map, Option.map_map]
    exact congrArg (Option.map · _) (funext skipLayout_bytes)

theorem afterTypes?_bytes (text : List Char) : afterTypes? (bytes text) = (afterTypes? text).map bytes := by
  rw [afterTypes?, afterTypes?]
  simp only [head?_bytes_eq_some_iff (show isAscii '<' = true from rfl)]
  split
  · rw [afterGroup?_bytes rfl rfl, Option.map_map, Option.map_map]
    exact congrArg (Option.map · _) (funext skipLayout_bytes)
  · rfl

/-- The backtick that opens a template is found among the bytes where it is found among the characters. -/
theorem afterBacktick?_bytes (text : List Char) : afterBacktick? (bytes text) = (afterBacktick? text).map bytes := by
  have tick (rest : List Char) : after? "\x60" (bytes rest) = (after? "\x60" rest).map bytes :=
    afterChars?_bytes (by decide) rest
  rw [afterBacktick?, afterBacktick?, skipLayout_bytes, afterAttributes?_bytes]
  cases afterAttributes? (skipLayout text) with
  | none => rfl
  | some rest =>
    simp only [Option.map_some, Option.bind_eq_bind, Option.bind_some, afterTypes?_bytes]
    cases afterTypes? rest with
    | none => rfl
    | some rest => exact tick rest

end StaticStyles.Source

namespace StaticStyles.Template
open Text

/-! ## The end of a template -/

/-- Frames whose strings are in quotes of ASCII. -/
def Quoted (frames : List Frame) : Prop := ∀ mark, .quote mark ∈ frames → isAscii mark = true

theorem Quoted.outer {frame : Frame} {outer : List Frame} (quoted : Quoted (frame :: outer)) : Quoted outer :=
  fun mark member => quoted mark (List.mem_cons_of_mem _ member)

theorem Quoted.open {frame : Frame} {outer : List Frame} (quoted : Quoted outer)
    (ascii : ∀ mark, frame = .quote mark → isAscii mark = true) : Quoted (frame :: outer) := by
  intro mark member
  rcases List.mem_cons.mp member with same | member
  · exact ascii mark same.symm
  · exact quoted mark member

section
variable {frame : Frame} {outer : List Frame}

theorem close_foreign (quoted : Quoted (frame :: outer)) {c : Char} (foreign : isAscii c = false) (rest : List Char) :
    close (frame :: outer) (c :: rest) = close (frame :: outer) rest := by
  have other (d : Char) (ascii : isAscii d = true) : c ≠ d := ne_of_isAscii ascii foreign
  cases frame with
  | text => exact close_char (other _ rfl) (other _ rfl) fun dollar => absurd dollar (other _ rfl)
  | script =>
    refine close_sign ?_
    simp only [List.mem_cons, List.not_mem_nil, or_false, not_or]
    exact ⟨other _ rfl, other _ rfl, other _ rfl, other _ rfl, other _ rfl⟩
  | quote mark => rw [close_quote (other _ rfl), if_neg (other mark (quoted mark List.mem_cons_self))]

theorem close_foreigners (quoted : Quoted (frame :: outer)) {others : List Char}
    (foreign : ∀ other ∈ others, isAscii other = false) (rest : List Char) :
    close (frame :: outer) (others ++ rest) = close (frame :: outer) rest := by
  induction others with
  | nil => rfl
  | cons c others ih =>
    obtain ⟨first, foreign⟩ := List.forall_mem_cons.mp foreign
    rw [List.cons_append, close_foreign quoted first, ih foreign]

/-- The bytes of a character that is not in ASCII are passed over as the character is. -/
theorem close_bytes_foreign (quoted : Quoted (frame :: outer)) {c : Char} (foreign : isAscii c = false)
    (rest : List Char) : close (frame :: outer) (bytes (c :: rest)) = close (frame :: outer) (bytes rest) := by
  obtain ⟨first, others, split, first_foreign, others_foreign⟩ := exists_bytes_cons foreign rest
  rw [split, close_foreign quoted first_foreign, close_foreigners quoted others_foreign]

/-- After a backslash, which takes one byte, the other bytes of a character are passed over. -/
theorem close_bytes_escape (quoted : Quoted (frame :: outer)) (escapes : frame ≠ .script) (c : Char)
    (rest : List Char) :
    close (frame :: outer) (bytes ('\\' :: c :: rest)) = close (frame :: outer) (bytes rest) := by
  have taken (d : Char) (rest : List Char) :
      close (frame :: outer) ('\\' :: d :: rest) = close (frame :: outer) rest := by
    cases frame with
    | text | quote => rw [close]
    | script => contradiction
  rw [bytes_cons_of_isAscii (rfl : isAscii '\\' = true)]
  by_cases small : isAscii c = true
  · rw [bytes_cons_of_isAscii small, taken]
  · obtain ⟨first, others, split, _, others_foreign⟩ := exists_bytes_cons (Bool.eq_false_iff.mpr small) rest
    rw [split, taken, close_foreigners quoted others_foreign]

end

/-- What is open is closed at the same place of the bytes as of the characters. -/
theorem close_bytes {frames : List Frame} (quoted : Quoted frames) (text : List Char) :
    close frames (bytes text) = (close frames text).map bytes := by
  fun_induction close frames text with
  | case1 rest => simp [close]
  | case2 frame outer => simp [close]
  | case3 outer => rfl
  | case4 outer c rest ih => rw [close_bytes_escape quoted (by simp), ih quoted]
  | case5 outer rest ih =>
    rw [bytes_cons_of_isAscii rfl, close]
    exact ih quoted.outer
  | case6 outer rest ih =>
    rw [bytes_cons_of_isAscii rfl, bytes_cons_of_isAscii rfl, close]
    exact ih (quoted.open (by simp))
  | case7 outer c rest ends escapes tick bare ih =>
    by_cases small : isAscii c = true
    · have still_bare : c = '$' → (bytes rest).head? ≠ some '{' := by
        intro dollar first
        obtain ⟨more, rfl⟩ := List.head?_eq_some_iff.mp ((head?_bytes_eq_some_iff rfl rest).mp first)
        exact bare more dollar rfl
      rw [bytes_cons_of_isAscii small, close_char tick (ne_backslash ends escapes) still_bare, ih quoted]
    · rw [close_bytes_foreign quoted (Bool.eq_false_iff.mpr small), ih quoted]
  | case8 outer rest ih =>
    rw [bytes_cons_of_isAscii rfl, close]
    exact ih quoted.outer
  | case9 outer rest ih | case10 outer rest ih | case11 outer rest ih | case12 outer rest ih =>
    rw [bytes_cons_of_isAscii rfl, close]
    refine ih (quoted.open ?_)
    rintro mark same
    cases same <;> rfl
  | case13 outer c rest closes opens single double tick ih =>
    by_cases small : isAscii c = true
    · rw [bytes_cons_of_isAscii small, close_sign (by simp_all), ih quoted]
    · rw [close_bytes_foreign quoted (Bool.eq_false_iff.mpr small), ih quoted]
  | case14 mark outer => rfl
  | case15 mark outer c rest ih => rw [close_bytes_escape quoted (by simp), ih quoted]
  | case16 outer mark rest ends escapes ih =>
    rw [bytes_cons_of_isAscii (quoted mark List.mem_cons_self), close_quote (ne_backslash ends escapes), if_pos rfl]
    exact ih quoted.outer
  | case17 mark outer c rest ends escapes other ih =>
    by_cases small : isAscii c = true
    · rw [bytes_cons_of_isAscii small, close_quote (ne_backslash ends escapes), if_neg other, ih quoted]
    · rw [close_bytes_foreign quoted (Bool.eq_false_iff.mpr small), ih quoted]

end StaticStyles.Template
