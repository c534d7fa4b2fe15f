import StaticStyles.Proofs.ResolutionSoundness

/-!
Which classes of a build props can find. A class is found by the very values that it was generated for, unless its
component counts an internal prop among its own: keys of props leave these out, so none of the component's classes is
ever found (`reachable_iff`).
-/
namespace StaticStyles

/-! ## The props of a combination -/

/-- An object of the values of a combination, as texts. -/
def ownProps (combination : Combination) : SortedMap Json.Value := combination.mapValues .text

theorem get?_styleProps_ownProps (combination : Combination) (name : String) :
    (styleProps (ownProps combination)).get? name =
      if name ∈ internalProps then none else combination.get? name := by
  have live : (liveProps (ownProps combination)).get? name = combination.get? name := by
    rw [get?_liveProps, ownProps, SortedMap.get?_mapValues]
    cases combination.get? name <;> rfl
  rw [get?_styleProps, live]

/-- A combination is what its own props say about style exactly if it names no internal prop. -/
theorem styleProps_ownProps_eq_iff {combination : Combination} :
    styleProps (ownProps combination) = combination ↔ ∀ name ∈ combination.keys, name ∉ internalProps := by
  constructor
  · intro same name named internal
    rw [← same, ← SortedMap.get?_isSome_iff, get?_styleProps_ownProps, if_pos internal] at named
    contradiction
  · intro external
    apply SortedMap.ext_get?
    intro name
    rw [get?_styleProps_ownProps]
    by_cases internal : name ∈ internalProps
    · rw [if_pos internal, eq_comm, SortedMap.get?_eq_none_iff]
      exact fun named => external name named internal
    · rw [if_neg internal]

/-- Props of any kind and in any order have no key in which an internal prop stands. -/
theorem propsKey?_ne_key {combination : Combination} {name : String} (named : name ∈ combination.keys)
    (internal : name ∈ internalProps) (props : Json.Value) : propsKey? props ≠ some combination.key := by
  intro same
  obtain ⟨members, _, key⟩ := Option.map_eq_some_iff.mp same
  have pairs : CanonicalKey.sortByName (keyedProps members) = combination.entries := by
    rw [← Combination.decode_key, ← key, decode_canonicalKey]
  obtain ⟨value, entry⟩ := SortedMap.mem_keys_iff.mp named
  rw [← pairs, (CanonicalKey.sortByName_perm _).mem_iff] at entry
  obtain ⟨⟨prop, _⟩, kept, same⟩ := List.mem_map.mp entry
  obtain rfl : prop = name := congrArg Prod.fst same
  simpa [internal] using (List.mem_filter.mp kept).2

/-! ## Finding the classes of a component -/

namespace Found
variable {config : BuildConfig} {found : Found}

/-- A declaration whose props all take part in keys. -/
def Keyed (found : Found) : Prop :=
  ∀ pattern ∈ Pattern.extract true found.declaration.body.toList found.source, pattern.prop ∉ internalProps

theorem keyed_iff_of_mem {record : Record} (member : record ∈ found.records config) :
    found.Keyed ↔ ∀ name ∈ record.combination.keys, name ∉ internalProps := by
  constructor
  · intro keyed name named
    obtain ⟨pattern, present, rfl⟩ := (mem_keys_of_mem_records member).mp named
    exact keyed pattern present
  · intro external pattern present
    exact external pattern.prop ((mem_keys_of_mem_records member).mpr ⟨pattern, present, rfl⟩)

/-- The own props of a record, in any order, find its class exactly if all props of its declaration take part in
keys. -/
theorem class?_ownProps_eq_iff {record : Record} (member : record ∈ found.records config)
    {listed : List (String × Json.Value)} (order : listed.Perm (ownProps record.combination).entries) :
    (Resolver.ofMap (some (.ofRecords (found.records config)))).class? (.object listed) = some record.className ↔
      found.Keyed := by
  have looked : (Resolver.ofMap (some (.ofRecords (found.records config)))).class? (.object listed) =
      (ClassMap.ofRecords (found.records config)).get? (styleProps (ownProps record.combination)).key := by
    rw [← Resolver.class?_object]
    simp only [Resolver.class?, propsKey?_of_perm order]
  rw [looked, keyed_iff_of_mem member]
  constructor
  · intro served name named internal
    obtain ⟨pattern, present, rfl⟩ := (mem_keys_of_mem_records member).mp named
    rw [unserved present internal] at served
    contradiction
  · intro external
    rw [styleProps_ownProps_eq_iff.mpr external]
    exact get?_of_mem member

/-- No props at all find a class of a declaration with an internal prop. -/
theorem class?_eq_none (unkeyed : ¬ found.Keyed) (props : Json.Value) :
    (Resolver.ofMap (some (.ofRecords (found.records config)))).class? props = none := by
  rw [Option.eq_none_iff_forall_ne_some]
  intro className served
  obtain ⟨key, keyed, entry⟩ := Option.bind_eq_some_iff.mp served
  obtain ⟨record, member, rfl, _⟩ := ClassMap.exists_of_get?_ofRecords entry
  rw [keyed_iff_of_mem member] at unkeyed
  simp only [not_forall, not_not] at unkeyed
  obtain ⟨name, named, internal⟩ := unkeyed
  exact propsKey?_ne_key named internal props keyed

end Found

/-- Whatever sources were compiled, the props that a class was generated for find it, in any order, exactly if no prop
of its component is internal. If one is, no props find any class of the component. -/
theorem reachable_iff {config : BuildConfig} {compiler : Compiler} (made : Compiler.ofConfig config = .ok compiler)
    (sources : List (String × String)) {found : Found} (first : Found.IsFirst (declared sources) found)
    {record : Record} (member : record ∈ found.records config) (transform : BuildConfig → String → Css.Outcome) :
    let resolver := ((compiler.after sources).finish transform).resolver found.declaration.component
    let answer (props : Json.Value) := (resolver.resolve props).1
    resolver.isDegraded = false ∧
    (∀ listed, listed.Perm (ownProps record.combination).entries →
      (answer (.object listed) = some record.className ↔ found.Keyed)) ∧
    (¬ found.Keyed → ∀ props, answer props = none) := by
  intro resolver answer
  have holds := Compiler.registry_after made sources
  have mapped : (compiler.after sources).registry.classMaps.get? found.declaration.component =
      some (.ofRecords (found.records config)) :=
    holds.classMaps_get?_eq_some_iff.mpr ⟨found, first, rfl, List.ne_nil_of_mem member, rfl⟩
  have ready : resolver = .ofMap (some (.ofRecords (found.records config))) := congrArg Resolver.ofMap mapped
  refine ⟨?_, ?_, ?_⟩
  · rw [ready]
    rfl
  · intro listed order
    have answered : answer (.object listed) = resolver.class? (.object listed) := rfl
    rw [answered, ready]
    exact Found.class?_ownProps_eq_iff member order
  · intro unkeyed props
    have answered : answer props = resolver.class? props := rfl
    rw [answered, ready]
    exact Found.class?_eq_none unkeyed props

/-- A declaration of two props that take part in keys: the class of a combination is found by its props, here the other
way round. -/
theorem reachable_iff_card :
    let text := "let Card = css\x60top: $\x7bp => p.at === 'a|b' ? 1 : 2\x7d$\x7bp => p.on ? 0 : 5\x7d\x60"
    let body := "top: $\x7bp => p.at === 'a|b' ? 1 : 2\x7d$\x7bp => p.on ? 0 : 5\x7d"
    let found : Found := ⟨text.toList, "Card", none, body, false, contentHash body⟩
    let record := Record.ofBody "Card" (.ofList [("at", "a|b"), ("on", "true")]) "top: 10"
    let listed := [("on", Json.Value.text "true"), ("at", .text "a|b")]
    Compiler.ofConfig .default = .ok .initial ∧ Found.IsFirst (declared [("a.tsx", text)]) found ∧
      record ∈ found.records .default ∧ listed.Perm (ownProps record.combination).entries ∧
      ∀ transform, ((((Compiler.initial.after [("a.tsx", text)]).finish transform).resolver "Card").resolve
        (.object listed)).1 = some record.className := by
  intro text body found record listed
  have declares : declared [("a.tsx", text)] = [found] := by decide +kernel
  have first : Found.IsFirst (declared [("a.tsx", text)]) found := ⟨[], [], declares, by simp⟩
  have patterns : Compiler.patterns? .default text.toList found.declaration =
      some [⟨"at", ["a|b"], none⟩, ⟨"on", ["true", "false"], none⟩] := by
    decide +kernel
  have member : record ∈ found.records .default := by
    simp only [Found.records, found, patterns]
    refine Rule.mem_records_generate_iff.mpr ⟨?_, .ofList [("at", "a|b"), ("on", "true")], ?_, _, ?_, rfl⟩
    · decide +kernel
    · decide +kernel
    · decide +kernel
  have order : listed.Perm (ownProps record.combination).entries := .swap ..
  have keyed : found.Keyed := by
    rw [Found.Keyed, ← Compiler.eq_extract_of_patterns? patterns]
    decide
  refine ⟨Compiler.ofConfig_default, first, member, order, ?_⟩
  intro transform
  exact ((reachable_iff Compiler.ofConfig_default _ first member transform).2.1 listed order).mpr keyed

/-- A declaration of an internal prop: neither of its two classes is found by the props that it was generated for. -/
theorem unreachable_children :
    let sources := [("a.tsx", "const Box = styled.i\x60padding: $\x7bp => p.children ? '4px' : '0'\x7d;\x60;")]
    let resolver := Resolver.ofMap ((Compiler.initial.after sources).registry.classMaps.get? "Box")
    (declared sources).map (fun found => (found.records .default).map fun record =>
        (record.combination.entries, record.className)) =
      [[([("children", "true")], "box_children-true"), ([("children", "false")], "box_children-false")]] ∧
    (resolver.resolve (.object [("children", .text "true")])).1 = none ∧
    (resolver.resolve (.object [("children", .text "false")])).1 = none := by
  intro sources resolver
  have mapped : (Compiler.initial.after sources).registry.classMaps.get? "Box" =
      some (.ofList [("children:true", "box_children-true"), ("children:false", "box_children-false")]) := by
    decide +kernel
  have ready : resolver = .ofMap (some _) := congrArg Resolver.ofMap mapped
  rw [ready]
  decide +kernel

end StaticStyles
