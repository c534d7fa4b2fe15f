import StaticStyles.Proofs.Enumeration
import StaticStyles.Proofs.SheetAndMaps
import StaticStyles.Proofs.StoreStats

/-!
The accounts of a build. What the modules of a run report is what the registry has gathered: as many records as
bodies were put into the store and as there are entries in the class maps, and the components that have a map
(`accounts_balance`).
-/
namespace StaticStyles

/-! ## Records of one declaration -/

namespace Found
variable {config : BuildConfig}

/-- No two records of a declaration have one combination. -/
theorem nodup_combinations (config : BuildConfig) (found : Found) :
    ((found.records config).map (·.combination)).Nodup := by
  unfold records
  cases told : Compiler.patterns? config found.source found.declaration with
  | none => exact .nil
  | some patterns =>
    obtain rfl := Compiler.eq_extract_of_patterns? told
    refine (Pattern.nodup_combinations (Pattern.nodup_props_extract _ _ _) ?_).sublist
      (Rule.combinations_generate_sublist config.maxCombinations found.declaration _)
    intro pattern member
    exact Pattern.nodup_values_of_mem_extract member

theorem length_records_le (told : config.maxCombinations < Pattern.greatestCount) (found : Found) :
    (found.records config).length ≤ config.maxCombinations := by
  unfold records
  cases Compiler.patterns? config found.source found.declaration with
  | none => exact Nat.zero_le _
  | some patterns => exact Rule.length_records_generate_le told found.declaration patterns

/-- The class map of a declaration has an entry for each record. -/
theorem size_classes (config : BuildConfig) (found : Found) :
    (ClassMap.ofRecords (found.records config)).size = (found.records config).length := by
  have distinct : (((found.records config).map fun record => (record.key, record.className)).map (·.1)).Nodup := by
    have keys : ((found.records config).map fun record => (record.key, record.className)).map (·.1) =
        ((found.records config).map (·.combination)).map Combination.key := by
      simp only [List.map_map]
      rfl
    rw [keys]
    exact (nodup_combinations config found).map fun _ _ => Combination.key_inj.mp
  rw [ClassMap.ofRecords_eq, SortedMap.size, (SortedMap.perm_entries_ofList distinct).length_eq, List.length_map]

/-- The names of the declarations that have records. -/
def served (config : BuildConfig) (taken : List Found) : List String :=
  (taken.filter fun found => !(found.records config).isEmpty).map (·.declaration.component)

theorem served_append (config : BuildConfig) (taken more : List Found) :
    served config (taken ++ more) = served config taken ++ served config more := by
  simp [served]

end Found

/-! ## The maps of a registry -/

theorem Found.nodup_served (config : BuildConfig) (all : List Found) : (served config (firsts all)).Nodup := by
  refine List.pairwise_map.mpr (((pairwise_firsts all).sublist List.filter_sublist).imp ?_)
  intro a b different same
  exact different (congrArg Registry.foldedName same)

namespace Registry.Holds
variable {config : BuildConfig} {all : List Found} {registry : Registry}

/-- The class maps are those of the first declarations that have records. -/
theorem perm_classMaps (holds : registry.Holds config (Found.firsts all)) :
    registry.classMaps.entries.Perm
      (((Found.firsts all).filter fun found => !(found.records config).isEmpty).map fun found =>
        (found.declaration.component, ClassMap.ofRecords (found.records config))) := by
  refine (List.perm_ext_iff_of_nodup (List.Nodup.of_map _ (SortedMap.nodup_keys _)) ?_).mpr ?_
  · refine List.Nodup.of_map Prod.fst ?_
    rw [List.map_map]
    exact Found.nodup_served config all
  · rintro ⟨component, map⟩
    rw [← SortedMap.get?_eq_some_iff, holds.classMaps_get?_eq_some_iff]
    simp only [List.mem_map, List.mem_filter, Found.mem_firsts_iff, Prod.mk.injEq]
    constructor
    · rintro ⟨found, first, named, filled, rfl⟩
      exact ⟨found, ⟨first, by simpa using filled⟩, named, rfl⟩
    · rintro ⟨found, ⟨first, filled⟩, named, rfl⟩
      exact ⟨found, first, named, by simpa using filled, rfl⟩

theorem perm_keys_classMaps (holds : registry.Holds config (Found.firsts all)) :
    registry.classMaps.keys.Perm (Found.served config (Found.firsts all)) := by
  have keys := holds.perm_classMaps.map Prod.fst
  rwa [List.map_map] at keys

/-- Together the maps have an entry for each record. -/
theorem sum_sizes_classMaps (holds : registry.Holds config (Found.firsts all)) :
    (registry.classMaps.entries.map (·.2.size)).sum =
      ((Found.firsts all).flatMap (·.records config)).length := by
  rw [(holds.perm_classMaps.map (·.2.size)).sum_nat, List.map_map, List.length_flatMap]
  generalize Found.firsts all = taken
  induction taken with
  | nil => rfl
  | cons found taken ih =>
    by_cases empty : found.records config = []
    · simpa [empty] using ih
    · have sizes := Found.size_classes config found
      simp only [List.filter_cons, List.isEmpty_eq_false_iff.mpr empty, Bool.not_false, if_true, List.map_cons,
        List.sum_cons, Function.comp_apply, sizes, ih]

theorem size_classMaps_le (holds : registry.Holds config (Found.firsts all))
    (told : config.maxCombinations < Pattern.greatestCount) {component : String} {map : ClassMap}
    (mapped : registry.classMaps.get? component = some map) : map.size ≤ config.maxCombinations := by
  obtain ⟨found, _, _, _, rfl⟩ := holds.classMaps_get?_eq_some_iff.mp mapped
  rw [Found.size_classes]
  exact Found.length_records_le told found

/-- No two components have one name apart from upper and lower case. -/
theorem foldedName_inj (holds : registry.Holds config (Found.firsts all)) {a b : String}
    (left : a ∈ registry.components.keys) (right : b ∈ registry.components.keys)
    (same : foldedName a = foldedName b) : a = b := by
  obtain ⟨_, at_left⟩ := Option.isSome_iff_exists.mp (SortedMap.get?_isSome_iff.mpr left)
  obtain ⟨_, at_right⟩ := Option.isSome_iff_exists.mp (SortedMap.get?_isSome_iff.mpr right)
  obtain ⟨one, first, rfl, _⟩ := holds.components_get?_eq_some_iff.mp at_left
  obtain ⟨other, others_first, rfl, _⟩ := holds.components_get?_eq_some_iff.mp at_right
  rw [first.eq_of_foldedName others_first same]

/-- The rules of a registry account for the records of its declarations. -/
theorem accounts {taken : List Found} (holds : registry.Holds config taken) :
    registry.store.Accounts (taken.flatMap (·.records config)) := by
  rw [holds.store]
  exact RuleStore.accounts_empty.internAll _

/-- As long as a machine word can number their bodies, the rules are the records merged one after the other. -/
theorem rules_eq_ofRecords {taken : List Found} (holds : registry.Holds config taken)
    (few : ((taken.flatMap (·.records config)).map (·.body)).eraseDups.length ≤ UInt32.size) :
    registry.rules = SharedRule.ofRecords (taken.flatMap (·.records config)) := by
  have represents := RuleStore.represents_internAll_empty bodyHash (taken.flatMap (·.records config))
  rw [← holds.store] at represents
  rw [← SharedRule.length_ofRecords] at few
  exact represents.rules_eq_of_merged few

/-- As long as a machine word can number them, the bodies of the rules are those of the records. -/
theorem bodies_rules {taken : List Found} (holds : registry.Holds config taken)
    (few : ((taken.flatMap (·.records config)).map (·.body)).eraseDups.length ≤ UInt32.size) :
    registry.rules.map (·.body) = ((taken.flatMap (·.records config)).map (·.body)).eraseDups := by
  rw [holds.rules_eq_ofRecords few]
  exact (SharedRule.merges_ofRecords _).bodies

end Registry.Holds

/-! ## What declarations generate -/

namespace Compiler

/-- The records generated for declarations compiled one after the other. -/
def declarationRecords (config : BuildConfig) (source : List Char) : Registry → List Declaration → List Record
  | _, [] => []
  | registry, declaration :: rest =>
    let (registry, generated) := compileDeclaration config source registry declaration
    generated.records ++ declarationRecords config source registry rest

/-- The records generated for sources compiled one after the other. -/
def sourceRecords (compiler : Compiler) : List (String × String) → List Record
  | [] => []
  | (file, text) :: rest =>
    declarationRecords compiler.config text.toList compiler.registry (Source.declarations text.toList) ++
      (compiler.compileSource file text).2.sourceRecords rest

end Compiler

section
variable {config : BuildConfig} {before taken : List Found} {registry : Registry} {output : Module}

/-- A declaration yields its records if its name is new, and none otherwise. -/
theorem Registry.Holds.generated (holds : registry.Holds config taken) (found : Found) :
    (Compiler.compileDeclaration config found.source registry found.declaration).2.records =
      if taken.any (·.foldedName = found.foldedName) then [] else found.records config := by
  by_cases known : taken.any (·.foldedName = found.foldedName) = true
  · rw [if_pos known]
    rcases holds.register_taken known with answer | ⟨reason, answer⟩ <;>
      simp only [Compiler.compileDeclaration, answer]
  · rw [if_neg known]
    simp only [Compiler.compileDeclaration, holds.register_fresh (Bool.eq_false_iff.mpr known), Found.records]
    cases Compiler.patterns? config found.source found.declaration with
    | none => rfl
    | some patterns =>
      simp only
      split <;> rfl

theorem Registry.Holds.records_declaration (holds : registry.Holds config taken) (found : Found) :
    taken.flatMap (·.records config) ++
        (Compiler.compileDeclaration config found.source registry found.declaration).2.records =
      (Found.take taken found).flatMap (·.records config) := by
  rw [holds.generated, Found.take]
  split
  · exact List.append_nil _
  · simp

theorem Registry.Holds.records_declarations (holds : registry.Holds config taken) (source : List Char)
    (declarations : List Declaration) :
    taken.flatMap (·.records config) ++ Compiler.declarationRecords config source registry declarations =
      ((declarations.map (Found.mk source)).foldl Found.take taken).flatMap (·.records config) := by
  induction declarations generalizing taken registry with
  | nil => exact List.append_nil _
  | cons declaration rest ih =>
    rw [Compiler.declarationRecords, ← List.append_assoc, holds.records_declaration ⟨source, declaration⟩]
    exact ih (holds.compileDeclaration source declaration)

/-- The records that a run generates are those of the declarations that it adds. -/
theorem Compiler.records_sources {compiler : Compiler} (holds : compiler.registry.Holds compiler.config taken)
    (sources : List (String × String)) :
    taken.flatMap (·.records compiler.config) ++ compiler.sourceRecords sources =
      ((declared sources).foldl Found.take taken).flatMap (·.records compiler.config) := by
  induction sources generalizing compiler taken with
  | nil => exact List.append_nil _
  | cons first rest ih =>
    obtain ⟨file, text⟩ := first
    rw [sourceRecords, ← List.append_assoc, holds.records_declarations, declared, List.flatMap_cons,
      List.foldl_append]
    exact @ih _ (compiler.compileSource file text).2 (holds_compileSource holds file text)

/-! ## What a module reports -/

/-- A module reports the records and the components that declarations have added to those before it. -/
structure Module.Reports (config : BuildConfig) (before taken : List Found) (output : Module) : Prop where
  records : (before.flatMap (·.records config)).length + output.records = (taken.flatMap (·.records config)).length
  components : Found.served config before ++ output.components = Found.served config taken

theorem Module.Reports.add (reports : output.Reports config before taken) (holds : registry.Holds config taken)
    (found : Found) :
    (output.add found.declaration.component
      (Compiler.compileDeclaration config found.source registry found.declaration).2).Reports config before
        (Found.take taken found) := by
  obtain ⟨records, components⟩ := reports
  constructor
  · rw [← holds.records_declaration found, List.length_append, ← records]
    exact (Nat.add_assoc _ _ _).symm
  · have generated := holds.generated found
    unfold Found.take
    split
    · next known =>
      rw [if_pos known] at generated
      simpa [Module.add, generated] using components
    · next fresh =>
      rw [if_neg fresh] at generated
      rw [Found.served_append, ← components, List.append_assoc]
      by_cases empty : (found.records config).isEmpty = true
      · simp [Module.add, generated, Found.served, empty]
      · simp [Module.add, generated, Found.served, empty]

theorem Module.Reports.compileDeclarations (reports : output.Reports config before taken)
    (holds : registry.Holds config taken) (source : List Char) (declarations : List Declaration) :
    (Compiler.compileDeclarations config source registry output declarations).2.Reports config before
      ((declarations.map (Found.mk source)).foldl Found.take taken) := by
  induction declarations generalizing taken registry output with
  | nil => exact reports
  | cons declaration rest ih =>
    exact ih (reports.add holds ⟨source, declaration⟩) (holds.compileDeclaration source declaration)

end

/-! ## What the modules of a run report -/

namespace Compiler

/-- The modules of sources compiled one after the other. -/
def modules (compiler : Compiler) : List (String × String) → List Module
  | [] => []
  | (file, text) :: rest =>
    let (output, compiler) := compiler.compileSource file text
    output :: compiler.modules rest

/-- A compiler of valid settings with nothing compiled, or one that was used and reset. -/
inductive Fresh (config : BuildConfig) : Compiler → Prop
  | made {compiler : Compiler} (made : ofConfig config = .ok compiler) : Fresh config compiler
  | reset {compiler : Compiler} (fresh : Fresh config compiler) (earlier : List (String × String)) :
    Fresh config (compiler.after earlier).reset

theorem Fresh.state {config : BuildConfig} {compiler : Compiler} (fresh : Fresh config compiler) :
    compiler.config = config ∧ compiler.registry = .empty ∧ compiler.diagnostics = 0 := by
  induction fresh with
  | made made => exact ofConfig_eq_ok made
  | reset fresh earlier ih => exact ⟨(config_after _ earlier).trans ih.1, rfl, rfl⟩

theorem reports_compileSource {compiler : Compiler} {taken : List Found}
    (holds : compiler.registry.Holds compiler.config taken) (file text : String) :
    (compiler.compileSource file text).1.Reports compiler.config taken
      (((Source.declarations text.toList).map (Found.mk text.toList)).foldl Found.take taken) := by
  refine Module.Reports.compileDeclarations ⟨?_, ?_⟩ holds text.toList (Source.declarations text.toList)
  · exact Nat.add_zero _
  · exact List.append_nil _

/-- Together the modules report what their declarations have added. -/
theorem reports_modules {compiler : Compiler} {taken : List Found}
    (holds : compiler.registry.Holds compiler.config taken) (sources : List (String × String)) :
    (taken.flatMap (·.records compiler.config)).length + ((compiler.modules sources).map (·.records)).sum =
        (((declared sources).foldl Found.take taken).flatMap (·.records compiler.config)).length ∧
      Found.served compiler.config taken ++ (compiler.modules sources).flatMap (·.components) =
        Found.served compiler.config ((declared sources).foldl Found.take taken) := by
  induction sources generalizing compiler taken with
  | nil => simp [modules, declared]
  | cons first rest ih =>
    obtain ⟨file, text⟩ := first
    obtain ⟨records, components⟩ := reports_compileSource holds file text
    obtain ⟨others, names⟩ := @ih (compiler.compileSource file text).2 _ (holds_compileSource holds file text)
    have kept : (compiler.compileSource file text).2.config = compiler.config := rfl
    rw [kept] at others names
    rw [declared, List.flatMap_cons, List.foldl_append]
    constructor
    · rw [modules, List.map_cons, List.sum_cons, ← Nat.add_assoc, records]
      exact others
    · rw [modules, List.flatMap_cons, ← List.append_assoc, components]
      exact names

theorem diagnostics_after (compiler : Compiler) (sources : List (String × String)) :
    (compiler.after sources).diagnostics =
      compiler.diagnostics + ((compiler.modules sources).map (·.diagnostics.length)).sum := by
  induction sources generalizing compiler with
  | nil => rfl
  | cons first rest ih =>
    obtain ⟨file, text⟩ := first
    have step : (compiler.compileSource file text).2.diagnostics =
        compiler.diagnostics + (compiler.compileSource file text).1.diagnostics.length := rfl
    have whole := ih (compiler.compileSource file text).2
    rw [step] at whole
    rw [modules, List.map_cons, List.sum_cons, ← Nat.add_assoc]
    exact whole

end Compiler

/-! ## Balance -/

/-- The modules of a run report the records that are put into the store and fill the class maps, and the
components that have a map. A map has no more entries than the settings allow, a machine word. Every record is
counted in the store, as stored or as stored already, and so are its bytes; bodies are stored once as long as there
are no more of them than machine words. -/
theorem accounts_balance {config : BuildConfig} {compiler : Compiler} (fresh : compiler.Fresh config)
    (sources : List (String × String)) :
    let modules := compiler.modules sources
    let bodies := (compiler.sourceRecords sources).map (·.body)
    let registry := (compiler.after sources).registry
    let stats := registry.store.stats
    (modules.map (·.records)).sum = stats.total ∧
    (registry.classMaps.entries.map (·.2.size)).sum = stats.total ∧
    (modules.flatMap (·.components)).Nodup ∧
    (∀ component, component ∈ modules.flatMap (·.components) ↔ component ∈ registry.classMaps.keys) ∧
    (config.maxCombinations < Pattern.greatestCount → ∀ component map,
      registry.classMaps.get? component = some map → map.size ≤ config.maxCombinations) ∧
    (∀ a ∈ registry.components.keys, ∀ b ∈ registry.components.keys,
      Registry.foldedName a = Registry.foldedName b → a = b) ∧
    stats.total = stats.unique + stats.deduplicated ∧
    stats.unique = registry.rules.length ∧
    stats.bytesStored = (registry.rules.map (·.body.utf8ByteSize)).sum ∧
    (bodies.eraseDups.length ≤ UInt32.size → registry.rules.map (·.body) = bodies.eraseDups) ∧
    stats.bytesStored + stats.bytesSaved = (bodies.map (·.utf8ByteSize)).sum ∧
    ∀ transform, ((compiler.after sources).finish transform).diagnostics =
      (modules.map (·.diagnostics.length)).sum := by
  intro modules bodies registry stats
  obtain ⟨rfl, empty, unreported⟩ := fresh.state
  have none : compiler.registry.Holds compiler.config [] := by
    rw [empty]
    exact Registry.holds_empty _
  have holds : registry.Holds compiler.config (Found.firsts (declared sources)) :=
    Compiler.registry_after_of_empty empty sources
  have generated : compiler.sourceRecords sources =
      (Found.firsts (declared sources)).flatMap (·.records compiler.config) := Compiler.records_sources none sources
  obtain ⟨reported, named⟩ := Compiler.reports_modules none sources
  obtain ⟨total, unique, split, stored, bytes⟩ := holds.accounts
  rw [← generated] at total bytes
  have sizes := holds.sum_sizes_classMaps
  rw [← generated, ← total] at sizes
  have served : modules.flatMap (·.components) = Found.served compiler.config (Found.firsts (declared sources)) := named
  refine ⟨?_, sizes, ?_, ?_, ?_, ?_, split, unique, stored, ?_, ?_, ?_⟩
  · rw [total, generated]
    simpa [Found.firsts] using reported
  · rw [served]
    exact Found.nodup_served _ _
  · intro component
    rw [served, holds.perm_keys_classMaps.mem_iff]
  · intro told component map mapped
    exact holds.size_classMaps_le told mapped
  · intro a left b right
    exact holds.foldedName_inj left right
  · intro few
    have bodies_eq : bodies = ((Found.firsts (declared sources)).flatMap (·.records compiler.config)).map (·.body) := by
      rw [← generated]
    rw [bodies_eq] at few ⊢
    exact holds.bodies_rules few
  · rw [List.map_map]
    exact bytes
  · intro transform
    rw [Compiler.finish, Compiler.diagnostics_after, unreported, Nat.zero_add]

/-- A compiler that was reset: three records, of two bodies, and one declaration reported whose name is taken. -/
theorem accounts_balance_reset :
    let compiler := (Compiler.initial.after [("a.tsx", "const Tag = styled.i\x60top: 0;\x60;")]).reset
    let sources :=
      [("b.tsx", "const Tag = styled.i\x60color: $\x7bp => p.on ? 'red' : 'tan'\x7d;\x60;"),
        ("c.tsx", "const Box = styled.i\x60color: tan;\x60; const BOX = css\x60top: 0;\x60;")]
    compiler.Fresh .default ∧ BuildConfig.default.maxCombinations < Pattern.greatestCount ∧
      ((compiler.sourceRecords sources).map (·.body)).eraseDups.length ≤ UInt32.size ∧
      (compiler.after sources).registry.rules.map (·.body) = ["color: red;", "color: tan;"] ∧
      ((compiler.after sources).registry.classMaps.entries.map (·.2.size)).sum = 3 ∧
      (compiler.after sources).registry.store.stats.deduplicated = 1 ∧
      ∀ transform, ((compiler.after sources).finish transform).diagnostics = 1 := by
  intro compiler sources
  have fresh : compiler.Fresh .default := .reset (.made Compiler.ofConfig_default) _
  have told : BuildConfig.default.maxCombinations < Pattern.greatestCount := by decide
  have bodies : (compiler.sourceRecords sources).map (·.body) = ["color: red;", "color: tan;", "color: tan;"] := by
    decide +kernel
  have few : ((compiler.sourceRecords sources).map (·.body)).eraseDups.length ≤ UInt32.size := by
    rw [bodies]
    decide
  obtain ⟨records, sizes, _, _, _, _, split, unique, _, once, _, reported⟩ := accounts_balance fresh sources
  have total : ((compiler.modules sources).map (·.records)).sum = 3 := by decide +kernel
  have rules : (compiler.after sources).registry.rules.map (·.body) = ["color: red;", "color: tan;"] := by
    rw [once few, bodies]
    rfl
  rw [← List.length_map SharedRule.body, rules] at unique
  refine ⟨fresh, told, few, rules, by rw [sizes, ← records, total], ?_, ?_⟩
  · rw [← records, total, unique, List.length_cons, List.length_singleton] at split
    omega
  · intro transform
    rw [reported transform]
    decide +kernel

end StaticStyles
