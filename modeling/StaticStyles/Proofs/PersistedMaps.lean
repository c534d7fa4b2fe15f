import StaticStyles.Proofs.BuildAccounts
import StaticStyles.Proofs.ClassNameText
import StaticStyles.Proofs.SortedMap
import StaticStyles.Proofs.TextSearch
import StaticStyles.Proofs.TrimmedText
import StaticStyles.Proofs.WrittenJson

/-!
Class maps that were written as JSON, read again. A map with a blank class is refused, and every other one comes
back as it was, alone or in a manifest; what a build gives is never refused (`persisted_maps_read_back`).
-/
namespace StaticStyles

/-! ## Values of maps -/

namespace Json
variable {β : Type} {raw : β → Raw} {value : β → Value} {depth : Nat}

/-- Members of a raw tree get their values one after the other. -/
theorem memberValues?_map (told : ∀ b, Raw.value? depth (raw b) = some (value b)) (entries : List (String × β))
    (before : SortedMap Value) :
    memberValues? depth (entries.map fun entry => (some entry.1, raw entry.2)) before.entries =
      some (before.insertAll (entries.map fun entry => (entry.1, value entry.2))).entries := by
  induction entries generalizing before with
  | nil => rfl
  | cons entry entries ih =>
    simp only [List.map_cons, memberValues?, told]
    exact ih (before.insert entry.1 (value entry.2))

theorem memberValues?_entries (told : ∀ b, Raw.value? depth (raw b) = some (value b)) (map : SortedMap β) :
    memberValues? depth (map.entries.map fun entry => (some entry.1, raw entry.2)) [] =
      some (map.mapValues value).entries := by
  have all := memberValues?_map told map.entries ∅
  have same : (∅ : SortedMap Value).insertAll (map.entries.map fun entry => (entry.1, value entry.2)) =
      map.mapValues value := SortedMap.insertAll_entries (map.mapValues value)
  rw [same] at all
  exact all

/-- The value of a map of texts. -/
def mapValue (map : SortedMap String) : Value := .object (map.mapValues .text).entries

theorem value?_ofEntries (depth : Nat) (map : SortedMap String) :
    Raw.value? (depth + 1) (.ofEntries map.entries) = some (mapValue map) := by
  have told (text : String) : Raw.value? depth (.text (some text)) = some (.text text) := by
    simp [Raw.value?]
  have all := memberValues?_entries told map
  rw [Raw.ofEntries, List.map_map, Raw.value?]
  exact congrArg (Option.map Value.object) all

/-- A manifest has the values of its maps. -/
theorem ofText?_indentMaps (maps : SortedMap (SortedMap String)) :
    Value.ofText? (String.ofList (indentMaps 0 maps)) = some (.object (maps.mapValues mapValue).entries) := by
  have all := memberValues?_entries (value?_ofEntries 125) maps
  rw [Value.ofText?, (reads_indentMaps maps).ofText?, List.map_map]
  exact congrArg (Option.map Value.object) all

end Json

/-! ## Checking maps -/

/-- No class of the map is blank after trimming. -/
def ClassMap.Solid (map : ClassMap) : Prop := ∀ entry ∈ map.entries, Text.trim entry.2.toList ≠ []

def ClassMaps.Solid (maps : ClassMaps) : Prop := ∀ entry ∈ maps.entries, ClassMap.Solid entry.2

instance (map : ClassMap) : Decidable map.Solid :=
  inferInstanceAs (Decidable (∀ entry ∈ map.entries, Text.trim entry.2.toList ≠ []))

namespace ClassMap

theorem checked_of_solid {map : ClassMap} (solid : map.Solid) : checked map = .ok map := by
  have none : map.entries.find? (fun entry => Text.isBlankText entry.2.toList) = none := by
    rw [List.find?_eq_none]
    intro entry member blank
    exact solid entry member (Text.trim_eq_nil_iff.mpr blank)
  rw [checked, none]

/-- A map with a blank class is refused for the key of one. -/
theorem checked_of_not_solid {map : ClassMap} (blank : ¬ map.Solid) :
    ∃ key className, map.get? key = some className ∧ Text.trim className.toList = [] ∧
      checked map = .error (.blankClass key) := by
  cases found : map.entries.find? (fun entry => Text.isBlankText entry.2.toList) with
  | none =>
    refine absurd ?_ blank
    intro entry member trimmed
    exact List.find?_eq_none.mp found entry member (Text.trim_eq_nil_iff.mp trimmed)
  | some entry =>
    refine ⟨entry.1, entry.2, ?_, ?_, ?_⟩
    · exact SortedMap.get?_eq_some_iff.mpr (List.mem_of_find?_eq_some found)
    · have blank : Text.isBlankText entry.2.toList = true := by simpa using List.find?_some found
      exact Text.trim_eq_nil_iff.mpr blank
    · rw [checked, found]

theorem ofJson_toJson (map : ClassMap) : ofJson map.toJson = checked map := by
  have read : (Json.Raw.ofText? map.toJson).bind Json.Raw.textMap? = some map := by
    rw [toJson, (Json.reads_indentMap 0 map).ofText?, Option.bind_some, Json.textMap?_ofEntries]
    exact congrArg some (SortedMap.insertAll_entries map)
  rw [ofJson, read]

/-- A value that is put on one line and read again is the same map, or no map all the same. -/
theorem ofJson_compact (value : Json.Value) : ofJson value.compact = ofValue value := by
  have same : valueEntries? value = value.members?.bind Json.entries? := rfl
  rw [ofJson, ofValue, Json.textMap?_compact, same]
  cases value.members?.bind Json.entries? <;> rfl

theorem ofValue_mapValue (map : ClassMap) : ofValue (Json.mapValue map) = checked map := by
  have entries : valueEntries? (Json.mapValue map) = some map.entries := Json.entries?_map map.entries
  rw [ofValue, entries]
  exact congrArg checked (SortedMap.insertAll_entries map)

end ClassMap

namespace ClassMaps

/-- The maps of a manifest if none of them has a blank class; the first one that does is told otherwise. -/
def checked (entries : List (String × ClassMap)) : Except MapError (List (String × ClassMap)) :=
  entries.mapM fun entry => (ClassMap.checked entry.2).map (entry.1, ·)

theorem checked_of_solid {entries : List (String × ClassMap)} (solid : ∀ entry ∈ entries, ClassMap.Solid entry.2) :
    checked entries = .ok entries := by
  induction entries with
  | nil => rfl
  | cons entry entries ih =>
    obtain ⟨first, others⟩ := List.forall_mem_cons.mp solid
    have rest := ih others
    rw [checked] at rest ⊢
    rw [List.mapM_cons, ClassMap.checked_of_solid first, rest]
    rfl

theorem checked_of_not_solid {entries : List (String × ClassMap)}
    (blank : ¬ ∀ entry ∈ entries, ClassMap.Solid entry.2) :
    ∃ entry ∈ entries, ∃ key className, entry.2.get? key = some className ∧ Text.trim className.toList = [] ∧
      checked entries = .error (.blankClass key) := by
  induction entries with
  | nil => exact absurd (List.forall_mem_nil _) blank
  | cons entry entries ih =>
    by_cases first : entry.2.Solid
    · have others : ¬ ∀ entry ∈ entries, ClassMap.Solid entry.2 := fun others =>
        blank (List.forall_mem_cons.mpr ⟨first, others⟩)
      obtain ⟨other, member, key, className, mapped, trimmed, refused⟩ := ih others
      refine ⟨other, List.mem_cons_of_mem _ member, key, className, mapped, trimmed, ?_⟩
      rw [checked] at refused ⊢
      rw [List.mapM_cons, ClassMap.checked_of_solid first, refused]
      rfl
    · obtain ⟨key, className, mapped, trimmed, refused⟩ := ClassMap.checked_of_not_solid first
      refine ⟨entry, List.mem_cons_self, key, className, mapped, trimmed, ?_⟩
      rw [checked, List.mapM_cons, refused]
      rfl

theorem ofJson_toJson (maps : ClassMaps) : ofJson maps.toJson = (checked maps.entries).map .ofList := by
  have read : (Json.Value.ofText? maps.toJson).bind Json.Value.members? =
      some (maps.mapValues Json.mapValue).entries := by
    rw [toJson, Json.ofText?_indentMaps]
    rfl
  have each (entry : String × ClassMap) : (ClassMap.ofValue (Json.mapValue entry.2)).map (entry.1, ·) =
      (ClassMap.checked entry.2).map (entry.1, ·) := by
    rw [ClassMap.ofValue_mapValue]
  rw [ofJson, read, checked, ← funext each]
  simp only [SortedMap.mapValues, List.mapM_map]
  rfl

end ClassMaps

/-! ## Names of components -/

namespace Text

theorem lowerChar_ne_nil (c : Char) : lowerChar c ≠ [] := by
  unfold lowerChar
  repeat' split
  all_goals exact List.cons_ne_nil _ _

theorem lower_ne_nil {text : List Char} (filled : text ≠ []) : lower text ≠ [] := by
  obtain ⟨c, rest, rfl⟩ := List.exists_cons_of_ne_nil filled
  rw [lower, lowerAfter]
  split
  · exact List.cons_ne_nil _ _
  · exact List.append_ne_nil_of_left_ne_nil (lowerChar_ne_nil c) _

theorem ne_nil_of_name? {text name rest : List Char} (named : name? text = some (name, rest)) : name ≠ [] := by
  cases text with
  | nil => contradiction
  | cons c text =>
    rw [name?] at named
    split at named
    · obtain ⟨rfl, _⟩ := Prod.mk.inj (Option.some.inj named)
      exact List.cons_ne_nil _ _
    · contradiction

end Text

namespace Source

theorem component_ne_nil_of_binding? {before : Option Char} {text rest : List Char} {binding : Binding}
    (bound : binding? before text = some (binding, rest)) : binding.component ≠ [] := by
  rw [binding?] at bound
  split at bound
  · contradiction
  · simp only [Option.bind_eq_bind, Option.bind_eq_some_iff] at bound
    obtain ⟨_, _, ⟨name, _⟩, named, _, _, ⟨base, _⟩, _, made⟩ := bound
    obtain ⟨rfl, _⟩ := Prod.mk.inj (Option.some.inj made)
    exact Text.ne_nil_of_name? named

theorem component_of_declare {binding : Binding} {text : List Char} {declaration : Declaration}
    (made : (declare binding text).1 = .ok declaration) :
    declaration.component = String.ofList binding.component := by
  unfold declare at made
  split at made
  · contradiction
  · split at made
    · contradiction
    · split at made
      · contradiction
      · obtain rfl := Except.ok.inj made
        rfl

/-- A declaration that stands in a source has a name. -/
theorem component_ne_nil {source : List Char} {declaration : Declaration}
    (member : declaration ∈ declarations source) : declaration.component.toList ≠ [] := by
  obtain ⟨outcome, found, accepted⟩ := List.mem_filterMap.mp member
  obtain ⟨front, text, rest, _, here⟩ := Text.exists_place_of_mem_searchAll found
  obtain ⟨⟨binding, following⟩, bound, made⟩ := Option.map_eq_some_iff.mp here
  cases outcome with
  | error => contradiction
  | ok other =>
    obtain rfl := Option.some.inj accepted
    rw [component_of_declare (congrArg Prod.fst made), String.toList_ofList]
    exact component_ne_nil_of_binding? bound

end Source

namespace ClassName

theorem token_ne_nil {raw : List Char} (filled : raw ≠ []) : token raw ≠ [] := by
  have plain : raw.map (fun c => if isNameChar c then c else '-') ≠ [] := by simpa using filled
  unfold token
  dsimp only
  split
  · exact plain
  · exact List.append_ne_nil_of_left_ne_nil plain _

theorem chars_ne_nil {component : String} (named : component.toList ≠ []) (combination : Combination) :
    chars component combination ≠ [] :=
  List.append_ne_nil_of_left_ne_nil (token_ne_nil (Text.lower_ne_nil named)) _

theorem isBlank_of_isNameChar {c : Char} (allowed : isNameChar c = true) : Text.isBlank c = false := by
  simp only [isNameChar, Bool.or_eq_true, decide_eq_true_eq] at allowed
  rcases allowed with (plain | rfl) | rfl
  · exact Text.isBlank_of_isAlphanum plain
  · decide
  · decide

end ClassName

/-- The class of a component that has a name is not blank. -/
theorem trim_className_ne_nil {component : String} (named : component.toList ≠ []) (combination : Combination) :
    Text.trim (className component combination).toList ≠ [] := by
  intro trimmed
  have blank := Text.trim_eq_nil_iff.mp trimmed
  have filled : (className component combination).toList ≠ [] := by
    rw [className, String.toList_ofList]
    exact ClassName.chars_ne_nil named combination
  obtain ⟨c, member⟩ := List.exists_mem_of_ne_nil _ filled
  have solid := ClassName.isBlank_of_isNameChar (isNameChar_of_mem_className member)
  have inside : Text.isBlank c = true := List.all_eq_true.mp blank c member
  exact Bool.false_ne_true (solid.symm.trans inside)

/-! ## What a build gives -/

theorem Found.IsFirst.component_ne_nil {sources : List (String × String)} {found : Found}
    (first : Found.IsFirst (declared sources) found) : found.declaration.component.toList ≠ [] := by
  obtain ⟨⟨file, text⟩, _, member⟩ := List.mem_flatMap.mp first.mem
  obtain ⟨declaration, listed, rfl⟩ := List.mem_map.mp member
  exact Source.component_ne_nil listed

/-- No class that a run gathers is blank. -/
theorem Registry.Holds.solid_classMaps {config : BuildConfig} {sources : List (String × String)} {registry : Registry}
    (holds : registry.Holds config (Found.firsts (declared sources))) : ClassMaps.Solid registry.classMaps := by
  rintro ⟨component, map⟩ member ⟨key, className⟩ entry
  obtain ⟨found, first, _, _, rfl⟩ := holds.classMaps_get?_eq_some_iff.mp (SortedMap.get?_eq_some_iff.mpr member)
  obtain ⟨record, listed, _, rfl⟩ := ClassMap.exists_of_get?_ofRecords (SortedMap.get?_eq_some_iff.mpr entry)
  rw [Found.className_of_mem listed]
  exact trim_className_ne_nil first.component_ne_nil _

/-! ## Reading back -/

/-- A map of classes that was written as JSON is read back unchanged if none of its classes is blank, and refused
for the key of a blank one otherwise; so is a manifest, as a whole. The map of a member of a manifest is the one that
is read when the member is put on one line. The maps that a build gives are read back, each alone and all of them from
its manifest. -/
theorem persisted_maps_read_back {config : BuildConfig} {compiler : Compiler} (fresh : compiler.Fresh config) :
    (∀ map : ClassMap,
      (map.Solid → ClassMap.ofJson map.toJson = .ok map) ∧
      (¬ map.Solid → ∃ key className, map.get? key = some className ∧ Text.trim className.toList = [] ∧
        ClassMap.ofJson map.toJson = .error (.blankClass key))) ∧
    (∀ maps : ClassMaps,
      (maps.Solid → ClassMaps.ofJson maps.toJson = .ok maps) ∧
      (¬ maps.Solid → ∃ component map key className, maps.get? component = some map ∧ map.get? key = some className ∧
        Text.trim className.toList = [] ∧ ClassMaps.ofJson maps.toJson = .error (.blankClass key))) ∧
    (∀ value : Json.Value, ClassMap.ofJson value.compact = ClassMap.ofValue value) ∧
    ∀ sources transform,
      let artifact := (compiler.after sources).finish transform
      ClassMaps.Solid artifact.classMaps ∧ ClassMaps.ofJson artifact.manifest = .ok artifact.classMaps ∧
        ∀ component map, artifact.classMaps.get? component = some map → ClassMap.ofJson map.toJson = .ok map := by
  have each (map : ClassMap) (solid : map.Solid) : ClassMap.ofJson map.toJson = .ok map := by
    rw [ClassMap.ofJson_toJson, ClassMap.checked_of_solid solid]
  have all (maps : ClassMaps) (solid : maps.Solid) : ClassMaps.ofJson maps.toJson = .ok maps := by
    rw [ClassMaps.ofJson_toJson, ClassMaps.checked_of_solid solid]
    exact congrArg Except.ok (SortedMap.insertAll_entries maps)
  refine ⟨fun map => ⟨each map, ?_⟩, fun maps => ⟨all maps, ?_⟩, ClassMap.ofJson_compact, ?_⟩
  · intro blank
    rw [ClassMap.ofJson_toJson]
    exact ClassMap.checked_of_not_solid blank
  · intro blank
    obtain ⟨⟨component, map⟩, member, key, className, mapped, trimmed, refused⟩ :=
      ClassMaps.checked_of_not_solid blank
    refine ⟨component, map, key, className, SortedMap.get?_eq_some_iff.mpr member, mapped, trimmed, ?_⟩
    rw [ClassMaps.ofJson_toJson, refused]
    rfl
  · intro sources transform artifact
    obtain ⟨rfl, empty, _⟩ := fresh.state
    have solid : ClassMaps.Solid artifact.classMaps :=
      (Compiler.registry_after_of_empty empty sources).solid_classMaps
    refine ⟨solid, all _ solid, ?_⟩
    intro component map mapped
    exact each map (solid _ (SortedMap.get?_eq_some_iff.mp mapped))

/-- Quotes, backslashes and control characters come back, a no-break space as class does not; and a build with one
component. -/
theorem persisted_maps_read_back_escaped :
    let map : ClassMap := .ofList [("label:\"a\\\x01\n", "tag\"\\"), ("on:true", "\u2028x\x7f")]
    let sources := [("a.tsx", "const Tag = styled.i\x60color: $\x7bp => p.on ? 'red' : 'tan'\x7d\x60;")]
    Compiler.initial.Fresh .default ∧ map.Solid ∧ ClassMap.ofJson map.toJson = .ok map ∧
      (∃ key, ClassMap.ofJson (ClassMap.toJson (map.insert "on:true" "\u00A0")) = .error (.blankClass key)) ∧
      ∀ transform, ClassMaps.ofJson ((Compiler.initial.after sources).finish transform).manifest =
        .ok (.ofList [("Tag", .ofList [("on:true", "tag_on-true"), ("on:false", "tag_on-false")])]) := by
  intro map sources
  have fresh : Compiler.initial.Fresh .default := .made Compiler.ofConfig_default
  obtain ⟨alone, _, _, built⟩ := persisted_maps_read_back fresh
  have solid : map.Solid := by decide +kernel
  have blank : ¬ ClassMap.Solid (map.insert "on:true" "\u00A0") := by decide +kernel
  obtain ⟨key, _, _, _, refused⟩ := (alone _).2 blank
  refine ⟨fresh, solid, (alone map).1 solid, ⟨key, refused⟩, ?_⟩
  intro transform
  have maps : (Compiler.initial.after sources).registry.classMaps =
      .ofList [("Tag", .ofList [("on:true", "tag_on-true"), ("on:false", "tag_on-false")])] := by
    decide +kernel
  obtain ⟨_, whole, _⟩ := built sources transform
  have given : ((Compiler.initial.after sources).finish transform).classMaps =
      (Compiler.initial.after sources).registry.classMaps := rfl
  rw [whole, given, maps]

end StaticStyles
