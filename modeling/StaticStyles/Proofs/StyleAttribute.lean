import Mathlib.Data.List.Nodup
import StaticStyles.InlineStyle
import StaticStyles.Proofs.TextSearch
import StaticStyles.Proofs.TrimmedText

/-!
The text of an inline style, read again. Whatever custom properties calls write, with whatever names, values and
prefixes, their names stay apart and nothing in a name or a value can end a declaration, so the text of the style
holds the properties and nothing else (`style_read_back`).
-/
namespace StaticStyles.InlineStyle
open Text CustomProperty

/-! ## Calls -/

/-- A call that writes custom properties to a style: assignments to names, or the leaves of a theme with a prefix of
their names. -/
inductive Call where
  | assign (assigned : List (String × Json.Value))
  | theme (theme : Json.Value) (themePrefix : Option String)

def afterCall (style : InlineStyle) : Call → InlineStyle
  | .assign assigned => (style.apply assigned).1
  | .theme theme themePrefix => (style.applyTheme theme themePrefix).1

/-- The style without properties after calls. -/
def afterCalls (calls : List Call) : InlineStyle := calls.foldl afterCall empty

/-! ## Reading -/

/-- The property that is written between two semicolons: what stands before the first colon and what stands behind
it, without the white space around them. -/
def property? (piece : List Char) : Option (String × String) :=
  match piece.dropWhile (· != ':') with
  | [] => none
  | _ :: value => some (String.ofList (trim (piece.takeWhile (· != ':'))), String.ofList (trim value))

/-- The properties that a style's text holds; the empty text holds none. -/
def read? (text : String) : Option (List (String × String)) :=
  if text = "" then some [] else (split ';' text.toList).mapM property?

/-! ## Safe properties -/

/-- A property with a valid name, and a value that is not empty, has no white space around it, and holds no control
character, semicolon or brace. -/
structure Safe (property : String × String) : Prop where
  named : isName property.1 = true
  filled : property.2 ≠ ""
  trimmed : trim property.2.toList = property.2.toList
  inside : ∀ c ∈ property.2.toList, isControl c = false ∧ c ≠ ';' ∧ c ≠ '{' ∧ c ≠ '}'

/-- A style whose properties are safe and have different names. -/
structure Sound (style : InlineStyle) : Prop where
  distinct : (style.properties.map (·.1)).Nodup
  safe : ∀ property ∈ style.properties, Safe property

theorem isValueChar_iff {c : Char} :
    isValueChar c = true ↔ isControl c = false ∧ c ≠ ';' ∧ c ≠ '{' ∧ c ≠ '}' := by
  simp [isValueChar, and_assoc]

theorem written?_eq_some_iff {assigned : String × Json.Value} {property : String × String} :
    written? assigned = some property ↔
      isName assigned.1 = true ∧ ∃ value, scalarText? assigned.2 = some value ∧ sanitize value ≠ "" ∧
        property = (assigned.1, sanitize value) := by
  unfold written?
  by_cases named : isName assigned.1 = true
  · rw [if_pos named]
    cases scalar : scalarText? assigned.2 with
    | none => simp
    | some value =>
      by_cases filled : sanitize value = ""
      · simp [filled]
      · simp only [named, filled, if_false, Option.some.injEq, exists_eq_left', true_and, ne_eq, not_false_eq_true]
        exact eq_comm
  · simp [named]

/-- What is written is safe, whatever was assigned. -/
theorem safe_of_written? {assigned : String × Json.Value} {property : String × String}
    (written : written? assigned = some property) : Safe property := by
  obtain ⟨named, value, _, filled, rfl⟩ := written?_eq_some_iff.mp written
  have text : (sanitize value).toList = trim (value.toList.filter isValueChar) := String.toList_ofList
  refine ⟨named, filled, ?_, ?_⟩
  · rw [text]
    exact (isTrimmed_trim _).trim_self
  · intro c member
    rw [text] at member
    exact isValueChar_iff.mp (List.mem_filter.mp (mem_of_mem_trim member)).2

/-! ## What a call keeps -/

section
variable {style : InlineStyle} {property : String × String} {properties : List (String × String)}
  {name value : String}

theorem mem_setIn (member : property ∈ setIn name value properties) :
    property = (name, value) ∨ property ∈ properties := by
  induction properties with
  | nil => exact .inl (List.mem_singleton.mp member)
  | cons first rest ih =>
    rw [setIn] at member
    split at member
    · next same =>
      rcases List.mem_cons.mp member with rfl | member
      · exact .inl (by rw [same])
      · exact .inr (List.mem_cons_of_mem _ member)
    · rcases List.mem_cons.mp member with rfl | member
      · exact .inr List.mem_cons_self
      · exact (ih member).imp_right (List.mem_cons_of_mem _)

/-- A name that is set keeps its place, or is new at the end. -/
theorem names_setIn (name value : String) (properties : List (String × String)) :
    (setIn name value properties).map (·.1) =
      if name ∈ properties.map (·.1) then properties.map (·.1) else properties.map (·.1) ++ [name] := by
  induction properties with
  | nil => rfl
  | cons first rest ih =>
    rw [setIn]
    by_cases same : first.1 = name
    · simp [same]
    · have elsewhere : name ∈ (first :: rest).map (·.1) ↔ name ∈ rest.map (·.1) := by simp [Ne.symm same]
      rw [if_neg same, List.map_cons, ih]
      by_cases known : name ∈ rest.map (·.1)
      · rw [if_pos known, if_pos (elsewhere.mpr known)]
        rfl
      · rw [if_neg known, if_neg (mt elsewhere.mp known)]
        rfl

theorem nodup_names_set (distinct : (style.properties.map (·.1)).Nodup) :
    ((style.set name value).properties.map (·.1)).Nodup := by
  rw [set, names_setIn]
  split
  · exact distinct
  · next fresh =>
    rw [← List.concat_eq_append]
    exact List.Nodup.concat fresh distinct

theorem Sound.set (sound : style.Sound) (safe : Safe property) : (style.set property.1 property.2).Sound where
  distinct := nodup_names_set sound.distinct
  safe other member := by
    rcases mem_setIn member with rfl | member
    · exact safe
    · exact sound.safe other member

theorem sound_empty : empty.Sound := ⟨.nil, fun _ member => absurd member List.not_mem_nil⟩

theorem Sound.apply (sound : style.Sound) (assigned : List (String × Json.Value)) :
    (style.apply assigned).1.Sound := by
  have written : ∀ property ∈ assigned.filterMap written?, Safe property := by
    intro property member
    obtain ⟨_, _, written⟩ := List.mem_filterMap.mp member
    exact safe_of_written? written
  rw [InlineStyle.apply]
  generalize assigned.filterMap written? = fit at written ⊢
  induction fit generalizing style with
  | nil => exact sound
  | cons first rest ih =>
    obtain ⟨safe, written⟩ := List.forall_mem_cons.mp written
    exact ih (sound.set safe) written

theorem Sound.afterCall (sound : style.Sound) (call : Call) : (style.afterCall call).Sound := by
  cases call with
  | assign assigned => exact sound.apply assigned
  | theme theme themePrefix => exact sound.apply _

theorem sound_afterCalls (calls : List Call) : (afterCalls calls).Sound :=
  List.foldlRecOn calls _ sound_empty fun _ sound call _ => sound.afterCall call

end

/-! ## What a text says -/

section
variable {property first : String × String} {rest : List (String × String)} {lead : List Char}

def line (property : String × String) : String := property.1 ++ ": " ++ property.2

theorem toList_line (property : String × String) :
    (line property).toList = property.1.toList ++ ':' :: ' ' :: property.2.toList := by
  simp [line]

theorem isNameChar_of_named {name : String} (named : isName name = true) :
    name.toList ≠ [] ∧ ∀ c ∈ name.toList, CustomProperty.isNameChar c = true := by
  unfold isName at named
  split at named
  · next rest split =>
    have inside := List.all_eq_true.mp (Bool.and_eq_true_iff.mp named).2
    rw [split]
    refine ⟨List.cons_ne_nil _ _, ?_⟩
    intro c member
    rcases List.mem_cons.mp member with rfl | member
    · rfl
    · rcases List.mem_cons.mp member with rfl | member
      · rfl
      · exact inside c member
  · contradiction

theorem isBlank_of_isNameChar {c : Char} (allowed : CustomProperty.isNameChar c = true) : isBlank c = false := by
  simp only [CustomProperty.isNameChar, Bool.or_eq_true, decide_eq_true_eq] at allowed
  rcases allowed with plain | rfl
  · exact isBlank_of_isAlphanum plain
  · decide

/-- A name has no white space around it, and none of the characters that divide a style's text. -/
theorem Safe.name (safe : Safe property) :
    IsTrimmed property.1.toList ∧ ':' ∉ property.1.toList ∧ ';' ∉ property.1.toList := by
  obtain ⟨_, inside⟩ := isNameChar_of_named safe.named
  refine ⟨isTrimmed_of_all fun c member => isBlank_of_isNameChar (inside c member), ?_, ?_⟩
  · exact fun member => absurd (inside _ member) (by decide)
  · exact fun member => absurd (inside _ member) (by decide)

theorem Safe.semicolon_not_mem_line (safe : Safe property) : ';' ∉ (line property).toList := by
  rw [toList_line, List.mem_append, not_or]
  refine ⟨safe.name.2.2, ?_⟩
  intro member
  rcases List.mem_cons.mp member with same | member
  · exact absurd same (by decide)
  · rcases List.mem_cons.mp member with same | member
    · exact absurd same (by decide)
    · exact (safe.inside _ member).2.1 rfl

/-- A property that is written is read, with or without the blank behind the semicolon. -/
theorem Safe.property?_line (safe : Safe property) (blank : lead = [] ∨ lead = [' ']) :
    property? (lead ++ (line property).toList) = some property := by
  have blanks : isBlankText lead = true := by rcases blank with rfl | rfl <;> rfl
  obtain ⟨trimmed, colon, _⟩ := safe.name
  have before : (lead ++ property.1.toList).all (· != ':') = true := by
    have lead_colon : ':' ∉ lead := by rcases blank with rfl | rfl <;> decide
    rw [List.all_eq_true]
    rintro c member
    rw [bne_iff_ne]
    rintro rfl
    exact (List.mem_append.mp member).elim lead_colon colon
  have split : lead ++ (line property).toList =
      (lead ++ property.1.toList) ++ ':' :: (' ' :: property.2.toList) := by
    rw [toList_line, List.append_assoc]
  have name : trim (lead ++ property.1.toList) = property.1.toList := by
    have trim_eq := trimmed.trim_eq blanks (rfl : isBlankText [] = true)
    rwa [List.append_nil] at trim_eq
  have value : trim (' ' :: property.2.toList) = property.2.toList := by
    have passed : trim (' ' :: property.2.toList) = trim property.2.toList := by
      rw [trim, trim]
      exact congrArg trimEnd (skipBlanks_passed (rfl : isBlankText [' '] = true) property.2.toList)
    rw [passed, safe.trimmed]
  rw [property?, split, dropWhile_append_cons before rfl, takeWhile_append_cons before rfl]
  simp only [name, value, String.ofList_toList]

/-- Properties that are written one after the other are read one after the other. -/
theorem mapM_split_lines (safe : ∀ property ∈ first :: rest, Safe property) (blank : lead = [] ∨ lead = [' ']) :
    (split ';' (lead ++ ("; ".intercalate ((first :: rest).map line)).toList)).mapM property? =
      some (first :: rest) := by
  have lead_whole : ';' ∉ lead := by rcases blank with rfl | rfl <;> decide
  induction rest generalizing first lead with
  | nil =>
    obtain ⟨safe, _⟩ := List.forall_mem_cons.mp safe
    have whole : ';' ∉ lead ++ (line first).toList := by simp [lead_whole, safe.semicolon_not_mem_line]
    rw [List.map_singleton, String.intercalate_singleton, split_of_not_mem whole]
    simp [safe.property?_line blank]
  | cons next rest ih =>
    obtain ⟨safe, others⟩ := List.forall_mem_cons.mp safe
    have whole : ';' ∉ lead ++ (line first).toList := by simp [lead_whole, safe.semicolon_not_mem_line]
    have text : lead ++ ("; ".intercalate ((first :: next :: rest).map line)).toList =
        (lead ++ (line first).toList) ++ ';' :: ([' '] ++ ("; ".intercalate ((next :: rest).map line)).toList) := by
      rw [List.map_cons, List.map_cons, String.intercalate_cons_cons]
      simp
    have later := ih others (.inr rfl) (by decide)
    rw [text, split_append whole, List.mapM_cons, safe.property?_line blank, later]
    rfl

end

/-- The text of a sound style says what its properties are. -/
theorem Sound.read?_text {style : InlineStyle} (sound : style.Sound) : read? style.text = some style.properties := by
  have lines : style.text = "; ".intercalate (style.properties.map line) := rfl
  obtain ⟨properties⟩ := style
  cases properties with
  | nil => rfl
  | cons first rest =>
    have read := mapM_split_lines sound.safe (.inl (rfl : [] = []))
    have filled : "; ".intercalate ((first :: rest).map line) ≠ "" := by
      intro empty
      rw [empty] at read
      simp [split, property?] at read
    rw [lines, read?, if_neg filled]
    exact read

/-! ## Runs of calls -/

/-- Setting a property leaves the properties of other names as they are, in their order. -/
theorem filter_setIn {keep : String → Bool} {name : String} (set_name : keep name = false) (value : String)
    (properties : List (String × String)) :
    (setIn name value properties).filter (keep ·.1) = properties.filter (keep ·.1) := by
  induction properties with
  | nil => simp [setIn, set_name]
  | cons first rest ih =>
    rw [setIn]
    by_cases same : first.1 = name
    · simp [same, set_name]
    · rw [if_neg same, List.filter_cons, List.filter_cons, ih]

/-- After any calls that write custom properties, names differ, every property is safe, and the text of the style is
read as its properties, in order. So whatever else is assigned to a name, the text says the same of all others. -/
theorem style_read_back (calls : List Call) :
    let style := afterCalls calls
    (style.properties.map (·.1)).Nodup ∧ (∀ property ∈ style.properties, Safe property) ∧
      read? style.text = some style.properties ∧
      ∀ assigned : String × Json.Value, ∃ properties, read? (style.apply [assigned]).1.text = some properties ∧
        properties.filter (·.1 ≠ assigned.1) = style.properties.filter (·.1 ≠ assigned.1) := by
  intro style
  have sound : style.Sound := sound_afterCalls calls
  refine ⟨sound.distinct, sound.safe, sound.read?_text, ?_⟩
  intro assigned
  refine ⟨_, (sound.apply [assigned]).read?_text, ?_⟩
  cases written : written? assigned with
  | none => simp [apply, written]
  | some property =>
    obtain ⟨_, _, _, _, rfl⟩ := written?_eq_some_iff.mp written
    simp only [apply, List.filterMap_cons, written, List.filterMap_nil, List.foldl_cons, List.foldl_nil, set]
    have set_name : decide (assigned.1 ≠ assigned.1) = false := by simp
    exact @filter_setIn (· ≠ assigned.1) assigned.1 set_name _ _

-- What looks like another property is part of the value, and a value of blanks is none.
example : (afterCalls [.assign [("--a", .text "x:\n; --b: y "), ("--c", .text "\u00A0")]]).text = "--a: x: --b: y" := by
  decide +kernel

end StaticStyles.InlineStyle
