import StaticStyles.Proofs.BuildRun

/-!
The two things that a build gives agree. Whatever sources were compiled, a class that some map has is
listed by a rule of its body, and a rule lists no other class (`rules_agree_with_classMaps`).
-/
namespace StaticStyles

/-! ## The class maps of a run -/

/-- Records of one declaration do not hide each other: those of one combination have one class. -/
theorem Found.get?_of_mem {config : BuildConfig} {found : Found} {record : Record}
    (member : record ∈ found.records config) :
    (ClassMap.ofRecords (found.records config)).get? record.combination.key = some record.className := by
  rw [ClassMap.get?_ofRecords]
  cases last : (found.records config).reverse.find? (fun other => other.combination = record.combination) with
  | none => simpa using List.find?_eq_none.mp last record (List.mem_reverse.mpr member)
  | some other =>
    have same : other.combination = record.combination := by simpa using List.find?_some last
    have present := List.mem_reverse.mp (List.mem_of_find?_eq_some last)
    rw [Option.map_some, className_of_mem present, className_of_mem member, same]

/-- The components with a class map are those whose first declaration has records. -/
theorem Registry.Holds.classMaps_get?_eq_some_iff {config : BuildConfig} {all : List Found} {registry : Registry}
    (holds : registry.Holds config (Found.firsts all)) {component : String} {map : ClassMap} :
    registry.classMaps.get? component = some map ↔
      ∃ found, Found.IsFirst all found ∧ found.declaration.component = component ∧
        found.records config ≠ [] ∧ map = .ofRecords (found.records config) := by
  rw [Registry.classMaps, SortedMap.get?_mapValues, Option.map_eq_some_iff]
  simp only [SortedMap.get?_filter, Option.filter_eq_some_iff, holds.components_get?_eq_some_iff]
  constructor
  · rintro ⟨_, ⟨⟨found, first, named, rfl⟩, filled⟩, rfl⟩
    rw [ClassMap.isEmpty_ofRecords] at filled
    exact ⟨found, first, named, by simpa using filled, rfl⟩
  · rintro ⟨found, first, named, filled, rfl⟩
    refine ⟨_, ⟨⟨found, first, named, rfl⟩, ?_⟩, rfl⟩
    rw [ClassMap.isEmpty_ofRecords]
    simpa using filled

/-! ## Agreement -/

/-- After any sources, every class of a component's map is listed by a rule whose body is the component's
own, interpolated for the combination of the class's key. Every rule lists some class, and each of its
classes comes from such an entry. A component that moves has no map, and none of its own in any rule. -/
theorem rules_agree_with_classMaps {config : BuildConfig} {compiler : Compiler}
    (made : Compiler.ofConfig config = .ok compiler) (sources : List (String × String)) :
    let registry := (compiler.after sources).registry
    (∀ component map key className, registry.classMaps.get? component = some map →
      map.get? key = some className →
      ∃ found combination, Found.IsFirst (declared sources) found ∧ found.declaration.component = component ∧
        (∀ other : Combination, other.key = key ↔ other = combination) ∧
        ∃ rule ∈ registry.rules, className ∈ rule.classes ∧
          Rule.interpolate found.declaration.body combination = .ok rule.body) ∧
    (∀ rule ∈ registry.rules, rule.classes ≠ [] ∧ ∀ className ∈ rule.classes,
      ∃ found combination map, Found.IsFirst (declared sources) found ∧ found.declaration.animated = false ∧
        registry.classMaps.get? found.declaration.component = some map ∧
        map.get? combination.key = some className ∧
        Rule.interpolate found.declaration.body combination = .ok rule.body) ∧
    (∀ found, Found.IsFirst (declared sources) found → found.declaration.animated = true →
      registry.classMaps.get? found.declaration.component = none) := by
  intro registry
  have holds : registry.Holds config (Found.firsts (declared sources)) := Compiler.registry_after made sources
  refine ⟨?_, ?_, ?_⟩
  · intro component map key className mapped entry
    obtain ⟨found, first, named, _, rfl⟩ := holds.classMaps_get?_eq_some_iff.mp mapped
    obtain ⟨record, member, rfl, rfl⟩ := ClassMap.exists_of_get?_ofRecords entry
    obtain ⟨rule, stored, same, listed⟩ := holds.lists_iff.mpr ⟨found, first, record, member, rfl, rfl⟩
    refine ⟨found, record.combination, first, named, fun other => Combination.key_inj, rule, stored, listed, ?_⟩
    rw [same]
    exact Found.interpolate_of_mem member
  · intro rule stored
    refine ⟨holds.classes_ne_nil rule stored, ?_⟩
    intro className listed
    obtain ⟨found, first, record, member, body, rfl⟩ := holds.lists_iff.mp ⟨rule, stored, rfl, listed⟩
    refine ⟨found, record.combination, .ofRecords (found.records config), first, (Found.mem_records member).1, ?_,
      Found.get?_of_mem member, ?_⟩
    · exact holds.classMaps_get?_eq_some_iff.mpr ⟨found, first, rfl, List.ne_nil_of_mem member, rfl⟩
    · rw [← body]
      exact Found.interpolate_of_mem member
  · intro found first moves
    rw [Option.eq_none_iff_forall_ne_some]
    intro map mapped
    obtain ⟨other, others_first, named, filled, _⟩ := holds.classMaps_get?_eq_some_iff.mp mapped
    obtain ⟨record, member⟩ := List.exists_mem_of_ne_nil _ filled
    obtain rfl := others_first.unique first named
    have still := (Found.mem_records member).1
    rw [moves] at still
    contradiction

/-- The class of one of two combinations, and the rule that it comes from. -/
theorem rules_agree_with_classMaps_tag :
    let sources := [("a.tsx", "const Tag = styled.i\x60color: $\x7bp => p.on ? 'red' : 'tan'\x7d\x60;")]
    Compiler.ofConfig .default = .ok .initial ∧
      ∃ rule ∈ (Compiler.initial.after sources).registry.rules, "tag_on-true" ∈ rule.classes := by
  intro sources
  have mapped : (Compiler.initial.after sources).registry.classMaps.get? "Tag" =
      some (.ofList [("on:true", "tag_on-true"), ("on:false", "tag_on-false")]) := by
    decide +kernel
  obtain ⟨_, _, _, _, _, rule, stored, listed, _⟩ :=
    (rules_agree_with_classMaps Compiler.ofConfig_default sources).1 "Tag" _ "on:true" "tag_on-true" mapped
      (by decide +kernel)
  exact ⟨Compiler.ofConfig_default, rule, stored, listed⟩

end StaticStyles
