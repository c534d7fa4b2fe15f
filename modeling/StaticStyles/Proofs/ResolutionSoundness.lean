import StaticStyles.Proofs.Interpolation
import StaticStyles.Proofs.SheetAndMaps

/-!
Whether a class that props find has the body that the props give. For the props that take part in keys it
always has. The internal ones take no part, so a body that reads one without knowing its values is served
whatever its value is (`resolve_sound_iff`).
-/
namespace StaticStyles

/-- All that a live object says: its props without nulls, as texts. -/
def liveProps (members : SortedMap Json.Value) : Combination :=
  (members.filter fun _ value => !value.isNull).mapValues propText

theorem get?_liveProps (members : SortedMap Json.Value) (name : String) :
    (liveProps members).get? name = ((members.get? name).filter (!·.isNull)).map propText := by
  rw [liveProps, SortedMap.get?_mapValues, SortedMap.get?_filter]

theorem get?_styleProps (members : SortedMap Json.Value) (name : String) :
    (styleProps members).get? name = if name ∈ internalProps then none else (liveProps members).get? name := by
  rw [styleProps, SortedMap.get?_mapValues, SortedMap.get?_filter, get?_liveProps]
  by_cases internal : name ∈ internalProps
  · simp [internal]
  · simp [internal]

/-! ## Props without known values -/

/-- An expression that tells no values of its prop can be given one under which it has no value, or one
that no CSS has. -/
theorem Expression.exists_unserved {e : Expression} (untold : e.candidates = []) (whole : e.shape ≠ .member) :
    ∃ value, ∀ lookup : String → Option String, lookup e.prop = some value →
      e.eval? lookup = none ∨ e.eval? lookup = some "=>" := by
  cases shape : e.shape with
  | equality compared negated yes no =>
    simp only [candidates, shape] at untold
    split at untold <;> split at untold <;> contradiction
  | truthy yes no =>
    cases yes with
    | none => exact ⟨"true", fun lookup given => .inl (by simp [eval?, shape, given, isTruthy])⟩
    | some yes =>
      cases no with
      | none => exact ⟨"false", fun lookup given => .inl (by simp [eval?, shape, given, isTruthy])⟩
      | some no => simp [candidates, shape] at untold
  | fallback value => simp [candidates, shape] at untold
  | member => exact absurd shape whole
  | direct => exact ⟨"=>", fun lookup given => .inr (by simp [eval?, shape, given])⟩

/-- A body that reads a prop without telling its values is not accepted under one of them. -/
theorem Rule.exists_not_accepted {body : String} {e : Expression} (reads : e ∈ Pattern.readable body.toList)
    (untold : e.candidates = []) :
    ∃ value, ∀ (props : Combination) (css : String), props.get? e.prop = some value →
      interpolate body props = .ok css → Css.check css.toList ≠ .ok () := by
  obtain ⟨understood, shape⟩ := List.mem_filter.mp reads
  obtain ⟨expression, member, read⟩ := List.mem_filterMap.mp understood
  obtain ⟨value, unserved⟩ := Expression.exists_unserved untold (by simpa using shape)
  refine ⟨value, ?_⟩
  intro props css given filled accepted
  obtain ⟨text, told⟩ := told_of_accepted filled accepted member
  have evaluated : holeValue? props expression = (e.eval? props.get?).map String.toList := by
    rw [holeValue?, read]
    rfl
  rcases unserved props.get? given with none | arrow
  · rw [evaluated, none] at told
    contradiction
  · have shows : (holeValue? props expression).getD (Template.Segment.hole expression).text = '=' :: '>' :: [] := by
      rw [evaluated, arrow]
      rfl
    exact not_accepted_of_sign filled member rfl shows accepted

/-! ## The patterns of a served body -/

theorem Found.mem_keys_of_mem_records {config : BuildConfig} {found : Found} {record : Record}
    (member : record ∈ found.records config) {prop : String} :
    prop ∈ record.combination.keys ↔
      ∃ pattern ∈ Pattern.extract true found.declaration.body.toList found.source, pattern.prop = prop := by
  obtain ⟨_, patterns, told, combination, chosen, css, _, _, rfl⟩ := mem_records member
  obtain rfl := Compiler.eq_extract_of_patterns? told
  have named : prop ∈ combination.keys ↔ _ := Pattern.mem_keys_of_mem_combinations chosen
  have key : (Record.ofBody found.declaration.component combination css).combination = combination := rfl
  rw [key, named]
  constructor
  · rintro ⟨pattern, present, _, same⟩
    exact ⟨pattern, present, same⟩
  · rintro ⟨pattern, present, same⟩
    exact ⟨pattern, present, Pattern.values_ne_nil_of_mem_extract present, same⟩

/-! ## Served bodies -/

/-- The class under the key of an object is that of a record of what the object says about style. -/
theorem Found.exists_of_served {config : BuildConfig} {found : Found} {members : SortedMap Json.Value}
    {className : String}
    (served : (ClassMap.ofRecords (found.records config)).get? (styleProps members).key = some className) :
    ∃ record ∈ found.records config, record.combination = styleProps members ∧ record.className = className ∧
      Rule.interpolate found.declaration.body (styleProps members) = .ok record.body := by
  obtain ⟨record, member, key, rfl⟩ := ClassMap.exists_of_get?_ofRecords served
  have same : record.combination = styleProps members := Combination.key_inj.mp key
  refine ⟨record, member, same, rfl, ?_⟩
  rw [← same]
  exact interpolate_of_mem member

/-- A component with an internal prop in its keys answers no object, as no object's key has one. -/
theorem Found.unserved {config : BuildConfig} {found : Found} {pattern : Pattern}
    (present : pattern ∈ Pattern.extract true found.declaration.body.toList found.source)
    (internal : pattern.prop ∈ internalProps) (members : SortedMap Json.Value) :
    (ClassMap.ofRecords (found.records config)).get? (styleProps members).key = none := by
  rw [Option.eq_none_iff_forall_ne_some]
  intro className served
  obtain ⟨record, member, same, _⟩ := exists_of_served served
  have keyed := (mem_keys_of_mem_records member).mpr ⟨pattern, present, rfl⟩
  rw [same, ← SortedMap.get?_isSome_iff, get?_styleProps, if_pos internal] at keyed
  contradiction

/-- If an object has none of the internal props that a body reads, the body comes out as the key says. -/
theorem interpolate_liveProps {body : String} {members : SortedMap Json.Value}
    (absent : ∀ e ∈ Pattern.readable body.toList, e.prop ∈ internalProps →
      (liveProps members).get? e.prop = none) :
    Rule.interpolate body (liveProps members) = Rule.interpolate body (styleProps members) := by
  refine Rule.interpolate_congr ?_
  intro e reads
  rw [get?_styleProps]
  by_cases internal : e.prop ∈ internalProps
  · rw [if_pos internal, absent e reads internal]
  · rw [if_neg internal]

/-- The props of a record, with one more that takes no part in keys. -/
private def withInternal (combination : Combination) (prop value : String) : SortedMap Json.Value :=
  (combination.mapValues .text).insert prop (.text value)

private theorem get?_liveProps_withInternal (combination : Combination) (prop value name : String) :
    (liveProps (withInternal combination prop value)).get? name =
      if prop = name then some value else combination.get? name := by
  rw [get?_liveProps, withInternal, SortedMap.get?_insert, SortedMap.get?_mapValues]
  by_cases same : prop = name
  · simp [same, Json.Value.isNull, propText]
  · rw [if_neg same, if_neg same]
    cases combination.get? name <;> simp [Json.Value.isNull, propText]

private theorem styleProps_withInternal {combination : Combination} {prop : String} (value : String)
    (internal : prop ∈ internalProps) (keyed : ∀ name ∈ combination.keys, name ∉ internalProps) :
    styleProps (withInternal combination prop value) = combination := by
  apply SortedMap.ext_get?
  intro name
  rw [get?_styleProps, get?_liveProps_withInternal]
  by_cases inside : name ∈ internalProps
  · rw [if_pos inside, eq_comm, SortedMap.get?_eq_none_iff]
    exact fun named => keyed name named inside
  · have different : prop ≠ name := by
      rintro rfl
      exact inside internal
    rw [if_neg inside, if_neg different]

/-- A body that reads an internal prop without telling its values is served for objects under which it
does not come out so. -/
theorem Found.exists_unsound {config : BuildConfig} {found : Found} {record : Record}
    (member : record ∈ found.records config) {e : Expression}
    (reads : e ∈ Pattern.readable found.declaration.body.toList) (internal : e.prop ∈ internalProps)
    (keyed : ∀ pattern ∈ Pattern.extract true found.declaration.body.toList found.source,
      pattern.prop ∉ internalProps) :
    ∃ members, styleProps members = record.combination ∧
      Rule.interpolate found.declaration.body (liveProps members) ≠ .ok record.body := by
  have untold : e.candidates = [] := by
    by_contra tells
    have told : Pattern.valuesOf true found.source e ≠ [] := by
      unfold Pattern.valuesOf
      split
      · exact fun none => tells (List.append_eq_nil_iff.mp none).1
      · exact tells
    obtain ⟨pattern, present, same⟩ := Pattern.exists_mem_extract reads told
    exact keyed pattern present (same ▸ internal)
  obtain ⟨value, refused⟩ := Rule.exists_not_accepted reads untold
  have external : ∀ name ∈ record.combination.keys, name ∉ internalProps := by
    intro name named
    obtain ⟨pattern, present, rfl⟩ := (mem_keys_of_mem_records member).mp named
    exact keyed pattern present
  have accepted := accepted_of_mem member
  refine ⟨withInternal record.combination e.prop value, styleProps_withInternal value internal external, ?_⟩
  intro filled
  refine refused _ record.body ?_ filled accepted
  rw [get?_liveProps_withInternal, if_pos rfl]

/-- A class that props find is that of a record whose body comes out of their style part, and out of all of
them if they hold no internal prop that the declaration reads. The body always comes out of all of them
exactly if the declaration reads no internal prop, or one is part of its keys. -/
theorem resolve_sound_iff {config : BuildConfig} {compiler : Compiler}
    (made : Compiler.ofConfig config = .ok compiler) (sources : List (String × String)) {found : Found}
    (first : Found.IsFirst (declared sources) found) {map : ClassMap}
    (mapped : (compiler.after sources).registry.classMaps.get? found.declaration.component = some map) :
    let answer (members : SortedMap Json.Value) := ((Resolver.ofMap (some map)).resolve (.object members.entries)).1
    let body := found.declaration.body
    (∀ members className, answer members = some className →
      ∃ record ∈ found.records config, propsKey? (.object members.entries) = some record.key ∧
        record.className = className ∧ Rule.interpolate body (styleProps members) = .ok record.body ∧
        ((∀ e ∈ Pattern.readable body.toList, e.prop ∈ internalProps → (liveProps members).get? e.prop = none) →
          Rule.interpolate body (liveProps members) = .ok record.body)) ∧
    ((∀ members className, answer members = some className →
        ∀ record ∈ found.records config, propsKey? (.object members.entries) = some record.key →
          Rule.interpolate body (liveProps members) = .ok record.body) ↔
      (∀ e ∈ Pattern.readable body.toList, e.prop ∉ internalProps) ∨
        ∃ pattern ∈ Pattern.extract true body.toList found.source, pattern.prop ∈ internalProps) := by
  intro answer body
  have holds := Compiler.registry_after made sources
  obtain ⟨other, others_first, named, filled, rfl⟩ := holds.classMaps_get?_eq_some_iff.mp mapped
  obtain rfl := others_first.unique first named
  have looked (members : SortedMap Json.Value) :
      answer members = (ClassMap.ofRecords (other.records config)).get? (styleProps members).key :=
    Resolver.class?_object _ members
  refine ⟨?_, ?_⟩
  · intro members className hit
    rw [looked] at hit
    obtain ⟨record, member, key, named, filled⟩ := Found.exists_of_served hit
    refine ⟨record, member, ?_, named, filled, ?_⟩
    · rw [propsKey?_object, Record.key, key]
    · intro absent
      rw [interpolate_liveProps absent, filled]
  · constructor
    · intro sound
      by_contra condition
      simp only [not_or, not_forall, not_exists, not_and, not_not] at condition
      obtain ⟨⟨e, reads, internal⟩, keyed⟩ := condition
      obtain ⟨record, member⟩ := List.exists_mem_of_ne_nil _ filled
      obtain ⟨members, key, differs⟩ := Found.exists_unsound member reads internal keyed
      refine differs (sound members record.className ?_ record member ?_)
      · rw [looked, key]
        exact Found.get?_of_mem member
      · rw [propsKey?_object, key]
        rfl
    · rintro (unread | ⟨pattern, present, internal⟩) members className hit record member key
      · rw [propsKey?_object] at key
        have of_object : styleProps members = record.combination := Combination.key_inj.mp (Option.some.inj key)
        rw [interpolate_liveProps (fun e reads internal => absurd internal (unread e reads)), of_object]
        exact Found.interpolate_of_mem member
      · rw [looked, Found.unserved present internal] at hit
        contradiction

/-- A body that reads an internal prop whose default is a number, so that no value of it is known, is
served for every value. -/
theorem resolve_sound_iff_opacity :
    let text := "const Box = styled.i\x60opacity: $\x7b(\x7b theme = 1 \x7d) => theme\x7d;\x60;"
    let found : Found := ⟨text.toList, .ofBody "Box" (some "i") "opacity: $\x7b(\x7b theme = 1 \x7d) => theme\x7d;"⟩
    let map : ClassMap := .ofList [("", "box")]
    Compiler.ofConfig .default = .ok .initial ∧ Found.IsFirst (declared [("a.tsx", text)]) found ∧
      (Compiler.initial.after [("a.tsx", text)]).registry.classMaps.get? found.declaration.component = some map ∧
      ¬ ∀ members className,
        ((Resolver.ofMap (some map)).resolve (.object members.entries)).1 = some className →
          ∀ record ∈ found.records .default, propsKey? (.object members.entries) = some record.key →
            Rule.interpolate found.declaration.body (liveProps members) = .ok record.body := by
  intro text found map
  have declares : declared [("a.tsx", text)] = [found] := by decide +kernel
  have first : Found.IsFirst (declared [("a.tsx", text)]) found := ⟨[], [], declares, by simp⟩
  have mapped : (Compiler.initial.after [("a.tsx", text)]).registry.classMaps.get? found.declaration.component =
      some map := by
    decide +kernel
  refine ⟨Compiler.ofConfig_default, first, mapped, ?_⟩
  rw [(resolve_sound_iff Compiler.ofConfig_default _ first mapped).2]
  decide +kernel

/-- The class of that body stands for an opacity of 1, and an object that asks for another has it too. -/
theorem resolve_unsound_opacity :
    let text := "const Box = styled.i\x60opacity: $\x7b(\x7b theme = 1 \x7d) => theme\x7d;\x60;"
    let members : SortedMap Json.Value := .ofList [("theme", .text "0")]
    ((Resolver.ofMap ((Compiler.initial.after [("a.tsx", text)]).registry.classMaps.get? "Box")).resolve
      (.object members.entries)).1 = some "box" ∧
    ∀ found ∈ declared [("a.tsx", text)],
      (found.records .default).map (fun record => (record.key, record.className, record.body)) =
        [("", "box", "opacity: 1;")] ∧
      Rule.interpolate found.declaration.body (liveProps members) = .ok "opacity: 0;" := by
  decide +kernel

end StaticStyles
