import Mathlib.Data.List.Induction
import StaticStyles.Build.Compiler
import StaticStyles.Proofs.ClassLookup
import StaticStyles.Proofs.Extraction
import StaticStyles.Proofs.Generation
import StaticStyles.Proofs.SharedRules

/-!
What a run of a build gathers. A name belongs to the first declaration of it, and the registry holds the
records of these first declarations and nothing else (`registry_after`), whatever further sources say.
-/
namespace StaticStyles

/-! ## First declarations -/

/-- A declaration and the source that it stands in. -/
structure Found where
  source : List Char
  declaration : Declaration
deriving DecidableEq

namespace Found

/-- The name that a declaration takes, apart from upper and lower case. -/
def foldedName (found : Found) : List Char := Registry.foldedName found.declaration.component

/-- A declaration of a list that no earlier one of the same name stands before. -/
def IsFirst (all : List Found) (found : Found) : Prop :=
  ∃ earlier later, all = earlier ++ found :: later ∧
    ∀ other ∈ earlier, other.foldedName ≠ found.foldedName

theorem IsFirst.mem {all : List Found} {found : Found} (first : IsFirst all found) : found ∈ all := by
  obtain ⟨earlier, later, rfl, _⟩ := first
  exact List.mem_append_right _ List.mem_cons_self

/-- One more declaration after those that have a name already. -/
def take (taken : List Found) (found : Found) : List Found :=
  if taken.any (·.foldedName = found.foldedName) then taken else taken ++ [found]

/-- The first declarations of a list. -/
def firsts (all : List Found) : List Found := all.foldl take []

theorem firsts_concat (all : List Found) (found : Found) :
    firsts (all ++ [found]) = take (firsts all) found := by
  simp [firsts, List.foldl_append]

theorem any_take {taken : List Found} {found : Found} {name : List Char} :
    (take taken found).any (·.foldedName = name) =
      (taken.any (·.foldedName = name) || decide (found.foldedName = name)) := by
  unfold take
  by_cases known : taken.any (·.foldedName = found.foldedName) = true
  · rw [if_pos known]
    by_cases same : found.foldedName = name
    · rw [← same, known]
      rfl
    · simp [same]
  · rw [if_neg known]
    simp

theorem any_firsts (all : List Found) (name : List Char) :
    (firsts all).any (·.foldedName = name) = all.any (·.foldedName = name) := by
  induction all using List.reverseRecOn with
  | nil => rfl
  | append_singleton all found ih =>
    rw [firsts_concat, any_take, ih]
    simp

theorem isFirst_concat {all : List Found} {last found : Found} :
    IsFirst (all ++ [last]) found ↔
      IsFirst all found ∨ (found = last ∧ all.any (·.foldedName = last.foldedName) = false) := by
  constructor
  · rintro ⟨earlier, later, split, fresh⟩
    rcases List.eq_nil_or_concat later with rfl | ⟨later, other, rfl⟩
    · obtain ⟨rfl, same⟩ := List.append_inj' split rfl
      obtain rfl := (List.cons.inj same).1
      exact .inr ⟨rfl, by simpa using fresh⟩
    · rw [List.concat_eq_append, ← List.cons_append, ← List.append_assoc] at split
      exact .inl ⟨earlier, later, (List.append_inj' split rfl).1, fresh⟩
  · rintro (⟨earlier, later, rfl, fresh⟩ | ⟨rfl, fresh⟩)
    · exact ⟨earlier, later ++ [last], by simp, fresh⟩
    · exact ⟨all, [], rfl, by simpa using fresh⟩

theorem mem_firsts_iff {all : List Found} {found : Found} : found ∈ firsts all ↔ IsFirst all found := by
  induction all using List.reverseRecOn with
  | nil => simp [firsts, IsFirst]
  | append_singleton all last ih =>
    rw [firsts_concat, isFirst_concat, ← ih, take, any_firsts]
    by_cases known : all.any (·.foldedName = last.foldedName) = true
    · simp [known]
    · simp [Bool.eq_false_iff.mpr known]

theorem pairwise_firsts (all : List Found) :
    (firsts all).Pairwise fun a b => a.foldedName ≠ b.foldedName := by
  induction all using List.reverseRecOn with
  | nil => exact .nil
  | append_singleton all last ih =>
    rw [firsts_concat, take]
    by_cases known : (firsts all).any (·.foldedName = last.foldedName) = true
    · rwa [if_pos known]
    · rw [if_neg known, List.pairwise_append]
      exact ⟨ih, List.pairwise_singleton _ _, by simpa using known⟩

theorem find?_firsts_eq_some_iff {all : List Found} {name : String} {found : Found} :
    (firsts all).find? (·.declaration.component = name) = some found ↔
      IsFirst all found ∧ found.declaration.component = name := by
  rw [← mem_firsts_iff]
  constructor
  · intro at_name
    exact ⟨List.mem_of_find?_eq_some at_name, by simpa using List.find?_some at_name⟩
  · rintro ⟨member, rfl⟩
    obtain ⟨earlier, later, split⟩ := List.append_of_mem member
    have distinct := pairwise_firsts all
    rw [split] at distinct ⊢
    rw [List.find?_eq_some_iff_append]
    refine ⟨by simp, earlier, later, rfl, ?_⟩
    intro other before
    have different := (List.pairwise_append.mp distinct).2.2 other before found List.mem_cons_self
    simpa [foldedName] using fun same => different (congrArg Registry.foldedName same)

theorem find?_eq_none_of_fresh {taken : List Found} {name : String}
    (fresh : taken.any (·.foldedName = Registry.foldedName name) = false) :
    taken.find? (·.declaration.component = name) = none := by
  rw [List.find?_eq_none]
  intro found member named
  have same : found.foldedName = Registry.foldedName name := by
    rw [← of_decide_eq_true named]
    rfl
  exact absurd same (by simpa using List.any_eq_false.mp fresh found member)

theorem IsFirst.eq_of_foldedName {all : List Found} {a b : Found} (left : IsFirst all a) (right : IsFirst all b)
    (same : a.foldedName = b.foldedName) : a = b :=
  List.inj_on_of_nodup_map (List.pairwise_map.mpr (pairwise_firsts all)) (mem_firsts_iff.mpr left)
    (mem_firsts_iff.mpr right) same

theorem IsFirst.unique {all : List Found} {a b : Found} (left : IsFirst all a) (right : IsFirst all b)
    (same : a.declaration.component = b.declaration.component) : a = b :=
  left.eq_of_foldedName right (congrArg Registry.foldedName same)

/-! ## Records of a declaration -/

/-- The records of a declaration that has its name. -/
def records (config : BuildConfig) (found : Found) : List Record :=
  match Compiler.patterns? config found.source found.declaration with
  | none => []
  | some patterns => (Rule.generate config.maxCombinations found.declaration patterns).records

end Found

/-- A declaration that is compiled without analyzing props has no hole, so its patterns are those of its
body all the same. -/
theorem Compiler.eq_extract_of_patterns? {config : BuildConfig} {source : List Char} {declaration : Declaration}
    {patterns : List Pattern} (told : patterns? config source declaration = some patterns) :
    patterns = Pattern.extract true declaration.body.toList source := by
  simp only [patterns?] at told
  split at told
  · exact (Option.some.inj told).symm
  · split at told
    · next bare =>
      have unread : Pattern.readable declaration.body.toList = [] := by
        have empty : Template.interpolations declaration.body.toList = [] := by simpa using bare
        simp [Pattern.readable, Template.expressions, empty]
      rw [← Option.some.inj told, Pattern.extract_eq, unread]
      rfl
    · contradiction

/-- A record is of a combination of the patterns, under which the body can be told and is accepted. Since
every pattern has a value, no default stands in. -/
theorem Found.mem_records {config : BuildConfig} {found : Found} {record : Record}
    (member : record ∈ found.records config) :
    found.declaration.animated = false ∧
      ∃ patterns, Compiler.patterns? config found.source found.declaration = some patterns ∧
        ∃ combination ∈ Pattern.combinations patterns, ∃ css,
          Rule.interpolate found.declaration.body combination = .ok css ∧ Css.check css.toList = .ok () ∧
            record = .ofBody found.declaration.component combination css := by
  unfold records at member
  cases told : Compiler.patterns? config found.source found.declaration with
  | none => simp [told] at member
  | some patterns =>
    rw [told] at member
    obtain ⟨⟨still, _, _⟩, combination, chosen, css, made, rfl⟩ := Rule.mem_records_generate_iff.mp member
    have unheld : Pattern.heldDefaults patterns = ∅ := by
      refine Pattern.heldDefaults_of_values ?_
      intro pattern member
      rw [Compiler.eq_extract_of_patterns? told] at member
      exact Pattern.values_ne_nil_of_mem_extract member
    rw [unheld, Rule.bodyFor_eq_ok_iff, SortedMap.insertAll_entries] at made
    exact ⟨still, patterns, rfl, combination, chosen, css, made.1, made.2, rfl⟩

/-- The class of a record is that of its component and combination. -/
theorem Found.className_of_mem {config : BuildConfig} {found : Found} {record : Record}
    (member : record ∈ found.records config) :
    record.className = className found.declaration.component record.combination := by
  obtain ⟨_, _, _, combination, _, css, _, _, rfl⟩ := mem_records member
  rfl

theorem Found.interpolate_of_mem {config : BuildConfig} {found : Found} {record : Record}
    (member : record ∈ found.records config) :
    Rule.interpolate found.declaration.body record.combination = .ok record.body := by
  obtain ⟨_, _, _, combination, _, css, filled, _, rfl⟩ := mem_records member
  exact filled

theorem Found.accepted_of_mem {config : BuildConfig} {found : Found} {record : Record}
    (member : record ∈ found.records config) : Css.check record.body.toList = .ok () := by
  obtain ⟨_, _, _, combination, _, css, _, accepted, rfl⟩ := mem_records member
  exact accepted

/-! ## One step -/

/-- A registry holds the records of some declarations: their bodies among its rules, and for each name
the hash and the class map of the declaration that has it. -/
structure Registry.Holds (config : BuildConfig) (taken : List Found) (registry : Registry) : Prop where
  store : registry.store = RuleStore.empty.internAll bodyHash (taken.flatMap (·.records config))
  component : ∀ name, registry.components.get? name =
    (taken.find? (·.declaration.component = name)).map fun found =>
      ⟨found.declaration.hash, .ofRecords (found.records config)⟩

namespace Registry

theorem holds_empty (config : BuildConfig) : Holds config [] .empty where
  store := rfl
  component _ := rfl

section
variable {config : BuildConfig} {taken : List Found} {registry : Registry} {declaration : Declaration}
  {source : List Char}

/-- Names that are taken, apart from upper and lower case, are those of the declarations held. -/
theorem Holds.any_keys (holds : registry.Holds config taken) (folded : List Char) :
    registry.components.keys.any (fun name => foldedName name = folded) =
      taken.any (·.foldedName = folded) := by
  rw [Bool.eq_iff_iff, List.any_eq_true, List.any_eq_true]
  simp only [decide_eq_true_eq]
  constructor
  · rintro ⟨name, key, same⟩
    rw [← SortedMap.get?_isSome_iff, holds.component, Option.isSome_map, Option.isSome_iff_exists] at key
    obtain ⟨found, at_name⟩ := key
    have named : found.declaration.component = name := by simpa using List.find?_some at_name
    exact ⟨found, List.mem_of_find?_eq_some at_name, by rw [← same, ← named]; rfl⟩
  · rintro ⟨found, member, same⟩
    refine ⟨found.declaration.component, ?_, same⟩
    rw [← SortedMap.get?_isSome_iff, holds.component, Option.isSome_map, List.find?_isSome]
    exact ⟨found, member, by simp⟩

/-- A declaration of a new name is taken in. -/
theorem Holds.register_fresh (holds : registry.Holds config taken)
    (fresh : taken.any (·.foldedName = foldedName declaration.component) = false) :
    registry.register declaration = .new
      { registry with components := registry.components.insert declaration.component ⟨declaration.hash, ∅⟩ } := by
  have unnamed : registry.components.get? declaration.component = none := by
    rw [holds.component, Found.find?_eq_none_of_fresh fresh]
    rfl
  simp only [register, unnamed, holds.any_keys, fresh]
  rfl

/-- A declaration of a name that is taken changes nothing, whatever its body is. -/
theorem Holds.register_taken (holds : registry.Holds config taken)
    (known : taken.any (·.foldedName = foldedName declaration.component) = true) :
    registry.register declaration = .known ∨ ∃ reason, registry.register declaration = .refused reason := by
  cases at_name : registry.components.get? declaration.component with
  | some component =>
    by_cases same : component.hash = declaration.hash
    · exact .inl (by simp only [register, at_name, if_pos same])
    · exact .inr ⟨.nameTaken, by simp only [register, at_name, if_neg same]⟩
  | none =>
    refine .inr ⟨.nameClash, ?_⟩
    simp only [register, at_name, holds.any_keys, known, if_true]

/-- A registry with the records of a declaration of a new name. -/
def withFound (config : BuildConfig) (registry : Registry) (found : Found) : Registry where
  store := registry.store.internAll bodyHash (found.records config)
  components := registry.components.insert found.declaration.component
    ⟨found.declaration.hash, .ofRecords (found.records config)⟩

/-- Whether a declaration yields no records, or some, its name is taken together with them. -/
theorem compileDeclaration_of_new
    (fresh : registry.register declaration = .new
      { registry with components := registry.components.insert declaration.component ⟨declaration.hash, ∅⟩ }) :
    (Compiler.compileDeclaration config source registry declaration).1 =
      registry.withFound config ⟨source, declaration⟩ := by
  simp only [Compiler.compileDeclaration, fresh, withFound, Found.records]
  cases Compiler.patterns? config source declaration with
  | none => rfl
  | some patterns =>
    simp only
    generalize Rule.generate config.maxCombinations declaration patterns = generated
    obtain ⟨records, diagnostics⟩ := generated
    cases records with
    | nil => rfl
    | cons record records => simp [addRecords, SortedMap.get?_insert, SortedMap.insert_insert, ClassMap.ofRecords]

theorem Holds.withFound (holds : registry.Holds config taken) {found : Found}
    (fresh : taken.any (·.foldedName = found.foldedName) = false) :
    (registry.withFound config found).Holds config (taken ++ [found]) where
  store := by
    rw [Registry.withFound, holds.store, List.flatMap_append, RuleStore.internAll_append]
    simp
  component name := by
    simp only [Registry.withFound, SortedMap.get?_insert, holds.component, List.find?_append, List.find?_cons,
      List.find?_nil]
    by_cases same : found.declaration.component = name
    · subst same
      rw [Found.find?_eq_none_of_fresh fresh]
      simp
    · simp [same]

/-- The components of a registry are those of the first declarations, with their hashes. -/
theorem Holds.components_get?_eq_some_iff {all : List Found} (holds : registry.Holds config (Found.firsts all))
    {name : String} {component : Component} :
    registry.components.get? name = some component ↔
      ∃ found, Found.IsFirst all found ∧ found.declaration.component = name ∧
        component = ⟨found.declaration.hash, .ofRecords (found.records config)⟩ := by
  rw [holds.component, Option.map_eq_some_iff]
  simp only [Found.find?_firsts_eq_some_iff, and_assoc]
  constructor
  · rintro ⟨found, first, named, rfl⟩
    exact ⟨found, first, named, rfl⟩
  · rintro ⟨found, first, named, rfl⟩
    exact ⟨found, first, named, rfl⟩

/-- Compiling one more declaration keeps to the first declarations. -/
theorem Holds.compileDeclaration (holds : registry.Holds config taken) (source : List Char)
    (declaration : Declaration) :
    (Compiler.compileDeclaration config source registry declaration).1.Holds config
      (Found.take taken ⟨source, declaration⟩) := by
  unfold Found.take
  by_cases known : taken.any (·.foldedName = (Found.mk source declaration).foldedName) = true
  · rw [if_pos known]
    have unchanged : (Compiler.compileDeclaration config source registry declaration).1 = registry := by
      rcases holds.register_taken known with answer | ⟨reason, answer⟩ <;>
        simp only [Compiler.compileDeclaration, answer]
    rwa [unchanged]
  · rw [if_neg known, compileDeclaration_of_new (holds.register_fresh (Bool.eq_false_iff.mpr known))]
    exact holds.withFound (Bool.eq_false_iff.mpr known)

/-! ## Whole runs -/

theorem Holds.compileDeclarations (holds : registry.Holds config taken) (source : List Char)
    (output : Module) (declarations : List Declaration) :
    (Compiler.compileDeclarations config source registry output declarations).1.Holds config
      ((declarations.map (Found.mk source)).foldl Found.take taken) := by
  induction declarations generalizing taken registry output with
  | nil => exact holds
  | cons declaration rest ih => exact ih (holds.compileDeclaration source declaration) _

end
end Registry

/-- The declarations of sources, in order. The names of the files do not matter. -/
def declared (sources : List (String × String)) : List Found :=
  sources.flatMap fun (_, text) => (Source.declarations text.toList).map (Found.mk text.toList)

namespace Compiler

/-- The compiler after sources, each a file's name and its text. -/
def after (compiler : Compiler) (sources : List (String × String)) : Compiler :=
  sources.foldl (fun compiler (file, text) => (compiler.compileSource file text).2) compiler

/-- The compiler of the default settings, with nothing compiled. -/
def initial : Compiler where
  config := .default
  filter := ⟨[], [(Glob.tokens "**/node_modules/**").toOption.getD []]⟩
  registry := .empty
  diagnostics := 0

theorem ofConfig_default : ofConfig .default = .ok initial := rfl

theorem ofConfig_eq_ok {config : BuildConfig} {compiler : Compiler} (made : ofConfig config = .ok compiler) :
    compiler.config = config ∧ compiler.registry = .empty ∧ compiler.diagnostics = 0 := by
  unfold ofConfig BuildConfig.validate at made
  split at made
  · contradiction
  · split at made
    · contradiction
    · simp only [bind, Except.bind] at made
      split at made
      · contradiction
      · obtain rfl := Except.ok.inj made
        exact ⟨rfl, rfl, rfl⟩

theorem config_after (compiler : Compiler) (sources : List (String × String)) :
    (compiler.after sources).config = compiler.config := by
  induction sources generalizing compiler with
  | nil => rfl
  | cons first rest ih => exact ih _

/-- Compiling one source keeps to the first declarations. -/
theorem holds_compileSource {compiler : Compiler} {taken : List Found}
    (holds : compiler.registry.Holds compiler.config taken) (file text : String) :
    (compiler.compileSource file text).2.registry.Holds compiler.config
      (((Source.declarations text.toList).map (Found.mk text.toList)).foldl Found.take taken) :=
  holds.compileDeclarations text.toList
    ⟨file, (Source.declarations text.toList).length, [], 0, Source.diagnostics text.toList⟩
    (Source.declarations text.toList)

theorem holds_after {compiler : Compiler} {taken : List Found}
    (holds : compiler.registry.Holds compiler.config taken) (sources : List (String × String)) :
    (compiler.after sources).registry.Holds compiler.config ((declared sources).foldl Found.take taken) := by
  induction sources generalizing compiler taken with
  | nil => exact holds
  | cons first rest ih =>
    obtain ⟨file, text⟩ := first
    have whole := @ih (compiler.compileSource file text).2 _ (holds_compileSource holds file text)
    rw [declared, List.flatMap_cons, List.foldl_append]
    exact whole

theorem registry_after_of_empty {compiler : Compiler} (empty : compiler.registry = .empty)
    (sources : List (String × String)) :
    (compiler.after sources).registry.Holds compiler.config (Found.firsts (declared sources)) := by
  refine holds_after ?_ sources
  rw [empty]
  exact Registry.holds_empty _

/-- After any sources the registry holds the records of the first declarations of their names. -/
theorem registry_after {config : BuildConfig} {compiler : Compiler} (made : ofConfig config = .ok compiler)
    (sources : List (String × String)) :
    (compiler.after sources).registry.Holds config (Found.firsts (declared sources)) := by
  obtain ⟨rfl, empty, _⟩ := ofConfig_eq_ok made
  exact registry_after_of_empty empty sources

end Compiler

/-! ## The rules of a run -/

/-- A class stands at a body's rule exactly if a record of a first declaration has the two. -/
theorem Registry.Holds.lists_iff {config : BuildConfig} {all : List Found} {registry : Registry}
    (holds : registry.Holds config (Found.firsts all)) {body className : String} :
    registry.store.Lists body className ↔
      ∃ found, Found.IsFirst all found ∧
        ∃ record ∈ found.records config, record.body = body ∧ record.className = className := by
  rw [holds.store, RuleStore.lists_internAll_empty]
  simp only [List.mem_flatMap, Found.mem_firsts_iff]
  constructor
  · rintro ⟨record, ⟨found, first, member⟩, told⟩
    exact ⟨found, first, record, member, told⟩
  · rintro ⟨found, first, record, member, told⟩
    exact ⟨record, ⟨found, first, member⟩, told⟩

/-- As long as their numbers fit into a machine word, the rules are those of the records merged one after the
other. -/
theorem Registry.Holds.rules_eq {config : BuildConfig} {taken : List Found} {registry : Registry}
    (holds : registry.Holds config taken) (few : registry.rules.length ≤ UInt32.size) :
    registry.rules = SharedRule.ofRecords (taken.flatMap (·.records config)) := by
  have few : registry.store.rules.length ≤ UInt32.size := few
  rw [holds.store] at few
  rw [Registry.rules, holds.store]
  exact RuleStore.rules_internAll_empty few

theorem Registry.Holds.nodup_bodies {config : BuildConfig} {taken : List Found} {registry : Registry}
    (holds : registry.Holds config taken) (few : registry.rules.length ≤ UInt32.size) :
    (registry.rules.map (·.body)).Nodup := by
  have few : registry.store.rules.length ≤ UInt32.size := few
  rw [holds.store] at few
  rw [Registry.rules, holds.store]
  exact RuleStore.nodup_bodies_internAll few

theorem Registry.Holds.length_rules_le {config : BuildConfig} {taken : List Found} {registry : Registry}
    (holds : registry.Holds config taken) :
    registry.rules.length ≤ (taken.flatMap (·.records config)).length := by
  have most := RuleStore.length_internAll_le Registry.bodyHash .empty (taken.flatMap (·.records config))
  have none : RuleStore.empty.rules.length = 0 := rfl
  rw [none, Nat.zero_add] at most
  rw [Registry.rules, holds.store]
  exact most

/-- The rules of a build, if the numbers of its records fit into a machine word. -/
theorem Compiler.rules_after {config : BuildConfig} {compiler : Compiler} (made : ofConfig config = .ok compiler)
    {sources : List (String × String)}
    (few : ((Found.firsts (declared sources)).flatMap (·.records config)).length ≤ UInt32.size) :
    (compiler.after sources).registry.rules =
      SharedRule.ofRecords ((Found.firsts (declared sources)).flatMap (·.records config)) := by
  have holds := registry_after made sources
  exact holds.rules_eq (Nat.le_trans holds.length_rules_le few)

theorem Registry.Holds.classes_ne_nil {config : BuildConfig} {taken : List Found} {registry : Registry}
    (holds : registry.Holds config taken) : ∀ rule ∈ registry.rules, rule.classes ≠ [] := by
  intro rule stored
  have stored : rule ∈ registry.store.rules := stored
  rw [holds.store] at stored
  exact RuleStore.classes_ne_nil_internAll _ (fun other member => absurd member List.not_mem_nil) _ rule stored

end StaticStyles
