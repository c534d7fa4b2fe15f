import Mathlib.Data.Finset.Dedup
import StaticStyles.Proofs.BuildAccounts
import StaticStyles.Proofs.Recompilation

/-!
Sources whose names are apart do not see each other. Each one yields the module that it yields alone, since a registry
answers a declaration from what it knows of the declaration's name (`Registry.Alike`). What a build gathers is then the
same in every order of its sources (`source_order_irrelevant`).
-/
namespace StaticStyles

/-! ## First declarations of sources whose names are apart -/

namespace Found

theorem foldl_take_of_apart {taken more : List Found}
    (apart : ∀ a ∈ taken, ∀ b ∈ more, a.foldedName ≠ b.foldedName) :
    more.foldl take taken = taken ++ firsts more := by
  induction more using List.reverseRecOn with
  | nil => exact (List.append_nil _).symm
  | append_singleton more last ih =>
    have fresh : taken.any (·.foldedName = last.foldedName) = false := by
      simpa using fun a member => apart a member last (by simp)
    have earlier := ih fun a left b right => apart a left b (List.mem_append_left _ right)
    rw [List.foldl_append, earlier, List.foldl_cons, List.foldl_nil, firsts_concat, take, take, List.any_append, fresh,
      Bool.false_or]
    split
    · rfl
    · exact List.append_assoc _ _ _

theorem firsts_append_of_apart {before after : List Found}
    (apart : ∀ a ∈ before, ∀ b ∈ after, a.foldedName ≠ b.foldedName) :
    firsts (before ++ after) = firsts before ++ firsts after := by
  rw [firsts, List.foldl_append]
  exact foldl_take_of_apart fun a member => apart a (mem_firsts_iff.mp member).mem

end Found

/-- No declaration of one source has the name of one of the other, apart from upper and lower case. -/
def SourcesApart (a b : String × String) : Prop :=
  ∀ one ∈ declared [a], ∀ other ∈ declared [b], one.foldedName ≠ other.foldedName

instance (a b : String × String) : Decidable (SourcesApart a b) :=
  inferInstanceAs (Decidable (∀ one ∈ declared [a], ∀ other ∈ declared [b], one.foldedName ≠ other.foldedName))

theorem SourcesApart.symm {a b : String × String} (apart : SourcesApart a b) : SourcesApart b a :=
  fun one left other right same => apart other right one left same.symm

theorem declared_cons (unit : String × String) (sources : List (String × String)) :
    declared (unit :: sources) = declared [unit] ++ declared sources := by
  simp [declared]

theorem mem_declared_iff {sources : List (String × String)} {found : Found} :
    found ∈ declared sources ↔ ∃ unit ∈ sources, found ∈ declared [unit] := by
  simp [declared]

/-- The first declarations are those of each source. -/
theorem Found.firsts_declared {sources : List (String × String)} (apart : sources.Pairwise SourcesApart) :
    firsts (declared sources) = sources.flatMap fun unit => firsts (declared [unit]) := by
  induction sources with
  | nil => rfl
  | cons unit sources ih =>
    obtain ⟨first, others⟩ := List.pairwise_cons.mp apart
    rw [declared_cons, firsts_append_of_apart, ih others, List.flatMap_cons]
    intro a left b right
    obtain ⟨other, member, right⟩ := mem_declared_iff.mp right
    exact first other member a left b right

/-! ## What a registry knows of some names -/

namespace Registry
variable {concerned : List Char → Prop} {a b registry : Registry} {config : BuildConfig} {source : List Char}
  {declaration : Declaration}

/-- Registries that know the same of the names concerned. -/
def Alike (concerned : List Char → Prop) (a b : Registry) : Prop :=
  ∀ name, concerned (foldedName name) → a.components.get? name = b.components.get? name

namespace Alike

theorem refl (concerned : List Char → Prop) (registry : Registry) : Alike concerned registry registry :=
  fun _ _ => rfl

theorem symm (alike : Alike concerned a b) : Alike concerned b a := fun name told => (alike name told).symm

theorem trans {c : Registry} (first : Alike concerned a b) (second : Alike concerned b c) : Alike concerned a c :=
  fun name told => (first name told).trans (second name told)

theorem clashes (alike : Alike concerned a b) {name : String} (told : concerned (foldedName name))
    (clash : a.Clashes name) : b.Clashes name := by
  obtain ⟨taken, key, same⟩ := clash
  refine ⟨taken, ?_, same⟩
  rwa [← SortedMap.get?_isSome_iff, ← alike taken (same ▸ told), SortedMap.get?_isSome_iff]

/-- A declaration whose name is concerned yields the same, and the registries stay alike. -/
theorem compileDeclaration (alike : Alike concerned a b) (config : BuildConfig) (source : List Char)
    (told : concerned (foldedName declaration.component)) :
    (Compiler.compileDeclaration config source a declaration).2 =
        (Compiler.compileDeclaration config source b declaration).2 ∧
      Alike concerned (Compiler.compileDeclaration config source a declaration).1
        (Compiler.compileDeclaration config source b declaration).1 := by
  have same := alike declaration.component told
  rcases a.register_cases declaration with
    ⟨component, named, known, answer⟩ | ⟨component, named, different, answer⟩ | ⟨unnamed, clash, answer⟩ |
      ⟨unnamed, free, answer⟩
  · rw [same] at named
    simpa only [Compiler.compileDeclaration, answer, register_known named known, true_and] using alike
  · rw [same] at named
    simpa only [Compiler.compileDeclaration, answer, register_taken named different, true_and] using alike
  · rw [same] at unnamed
    have other := register_clash unnamed (alike.clashes told clash)
    simpa only [Compiler.compileDeclaration, answer, other, true_and] using alike
  · rw [same] at unnamed
    have other := register_free unnamed fun clash => free (alike.symm.clashes told clash)
    constructor
    · simp only [Compiler.compileDeclaration, answer, other]
      cases Compiler.patterns? config source declaration with
      | none => rfl
      | some patterns =>
        dsimp only
        split <;> rfl
    · rw [compileDeclaration_of_new answer, compileDeclaration_of_new other]
      intro name told
      simp only [withFound, SortedMap.get?_insert, alike name told]

theorem compileDeclarations (alike : Alike concerned a b) {declarations : List Declaration}
    (told : ∀ declaration ∈ declarations, concerned (foldedName declaration.component)) (output : Module) :
    (Compiler.compileDeclarations config source a output declarations).2 =
      (Compiler.compileDeclarations config source b output declarations).2 := by
  induction declarations generalizing a b output with
  | nil => rfl
  | cons declaration rest ih =>
    obtain ⟨first, others⟩ := List.forall_mem_cons.mp told
    obtain ⟨same, still⟩ := alike.compileDeclaration config source first
    rw [Compiler.compileDeclarations, Compiler.compileDeclarations]
    dsimp only
    rw [same]
    exact ih still others _

end Alike

/-- A declaration of another name changes nothing that is known of the names concerned. -/
theorem alike_compileDeclaration (foreign : ¬ concerned (foldedName declaration.component)) :
    Alike concerned registry (Compiler.compileDeclaration config source registry declaration).1 := by
  rcases registry.register_cases declaration with
    ⟨_, _, _, answer⟩ | ⟨_, _, _, answer⟩ | ⟨_, _, answer⟩ | ⟨_, _, answer⟩
  · simpa only [Compiler.compileDeclaration, answer] using Alike.refl concerned registry
  · simpa only [Compiler.compileDeclaration, answer] using Alike.refl concerned registry
  · simpa only [Compiler.compileDeclaration, answer] using Alike.refl concerned registry
  · rw [compileDeclaration_of_new answer]
    intro name told
    have other : declaration.component ≠ name := by
      rintro rfl
      exact foreign told
    simp [withFound, SortedMap.get?_insert, other]

theorem alike_compileDeclarations {declarations : List Declaration}
    (foreign : ∀ declaration ∈ declarations, ¬ concerned (foldedName declaration.component)) (output : Module) :
    Alike concerned registry (Compiler.compileDeclarations config source registry output declarations).1 := by
  induction declarations generalizing registry output with
  | nil => exact .refl concerned registry
  | cons declaration rest ih =>
    obtain ⟨first, others⟩ := List.forall_mem_cons.mp foreign
    exact (alike_compileDeclaration first).trans (ih others _)

end Registry

/-! ## Modules -/

/-- Whether a source declares a name. -/
def Declares (unit : String × String) (folded : List Char) : Prop :=
  ∃ found ∈ declared [unit], found.foldedName = folded

theorem declares_of_mem {unit : String × String} {declaration : Declaration}
    (member : declaration ∈ Source.declarations unit.2.toList) :
    Declares unit (Registry.foldedName declaration.component) := by
  refine ⟨⟨unit.2.toList, declaration⟩, ?_, rfl⟩
  simpa [declared] using member

namespace Compiler

/-- A source yields the same module in registries that know the same of its names. -/
theorem compileSource_of_alike {compiler other : Compiler} (config : other.config = compiler.config)
    {unit : String × String} (alike : Registry.Alike (Declares unit) compiler.registry other.registry) :
    (other.compileSource unit.1 unit.2).1 = (compiler.compileSource unit.1 unit.2).1 := by
  simp only [compileSource, config]
  exact (alike.compileDeclarations (fun declaration => declares_of_mem) _).symm

/-- A source changes nothing that is known of the names of a source apart from it. -/
theorem alike_compileSource (compiler : Compiler) {unit other : String × String} (apart : SourcesApart unit other) :
    Registry.Alike (Declares other) compiler.registry (compiler.compileSource unit.1 unit.2).2.registry := by
  refine Registry.alike_compileDeclarations ?_ _
  rintro declaration member ⟨found, declares, same⟩
  obtain ⟨own, member, named⟩ := declares_of_mem member
  exact apart own member found declares (named.trans same.symm)

/-- Each of several sources whose names are apart yields the module that it would yield if it came first. -/
theorem modules_eq_map {compiler start : Compiler} (config : compiler.config = start.config)
    {sources : List (String × String)} (apart : sources.Pairwise SourcesApart)
    (alike : ∀ unit ∈ sources, Registry.Alike (Declares unit) start.registry compiler.registry) :
    compiler.modules sources = sources.map fun unit => (start.compileSource unit.1 unit.2).1 := by
  induction sources generalizing compiler with
  | nil => rfl
  | cons unit sources ih =>
    obtain ⟨first, others⟩ := List.pairwise_cons.mp apart
    obtain ⟨own, known⟩ := List.forall_mem_cons.mp alike
    -- What was known of the names of the other sources before the first one is still known after it.
    have later : ∀ other ∈ sources, Registry.Alike (Declares other) start.registry
        (compiler.compileSource unit.1 unit.2).2.registry := fun other member =>
      (known other member).trans (alike_compileSource compiler (first other member))
    have rest : (compiler.compileSource unit.1 unit.2).2.modules sources = _ := ih config others later
    rw [List.map_cons, ← rest, ← compileSource_of_alike config own]
    rfl

end Compiler

/-! ## Rules and statistics -/

theorem perm_eraseDups {α : Type} [DecidableEq α] {list other : List α} (perm : other.Perm list) :
    other.eraseDups.Perm list.eraseDups := by
  refine (List.perm_ext_iff_of_nodup (nodup_eraseDups _) (nodup_eraseDups _)).mpr fun value => ?_
  rw [List.mem_eraseDups, List.mem_eraseDups, perm.mem_iff]

namespace SharedRule

/-- The body of a rule and the set of its classes. -/
def content (rule : SharedRule) : String × Finset String := (rule.body, rule.classes.toFinset)

/-- The same records in another order are merged into rules of the same contents in another order. -/
theorem perm_content_ofRecords {records others : List Record} (perm : others.Perm records) :
    ((ofRecords others).map content).Perm ((ofRecords records).map content) := by
  have same : content ∘ (fun body => ⟨classesOf others body, body⟩) =
      content ∘ fun body => ⟨classesOf records body, body⟩ := by
    funext body
    refine Prod.ext rfl (Finset.ext fun className => ?_)
    simp [content, classesOf, perm.mem_iff]
  rw [ofRecords_eq, ofRecords_eq, List.map_map, List.map_map, same]
  exact (perm_eraseDups (perm.map (·.body))).map _

end SharedRule

/-- Stores of the same records whose rules have the same bodies have the same statistics. -/
theorem RuleStore.Accounts.stats_eq {store other : RuleStore} {records others : List Record}
    (accounts : store.Accounts records) (accounted : other.Accounts others) (perm : others.Perm records)
    (bodies : (other.rules.map (·.body)).Perm (store.rules.map (·.body))) : other.stats = store.stats := by
  have rules : other.rules.length = store.rules.length := by simpa using bodies.length_eq
  have stored : (other.rules.map (·.body.utf8ByteSize)).sum = (store.rules.map (·.body.utf8ByteSize)).sum := by
    simpa [Function.comp_def] using (bodies.map (·.utf8ByteSize)).sum_nat
  have size := perm.length_eq
  have bytes := (perm.map (·.body.utf8ByteSize)).sum_nat
  obtain ⟨total, unique, split, kept, all⟩ := accounts
  obtain ⟨total', unique', split', kept', all'⟩ := accounted
  have same : other.stats.total = store.stats.total ∧ other.stats.unique = store.stats.unique ∧
      other.stats.deduplicated = store.stats.deduplicated ∧ other.stats.bytesStored = store.stats.bytesStored ∧
      other.stats.bytesSaved = store.stats.bytesSaved := by
    omega
  cases left : store.stats
  cases right : other.stats
  simpa [left, right] using same

namespace Registry.Holds
variable {config : BuildConfig} {all others : List Found} {registry other : Registry}

/-- The components do not depend on the order of the first declarations. -/
theorem components_eq (holds : registry.Holds config (Found.firsts all))
    (held : other.Holds config (Found.firsts others)) (perm : (Found.firsts others).Perm (Found.firsts all)) :
    other.components = registry.components := by
  refine SortedMap.ext_get? fun name => Option.ext fun component => ?_
  rw [held.components_get?_eq_some_iff, holds.components_get?_eq_some_iff]
  simp only [← Found.mem_firsts_iff, perm.mem_iff]

theorem lists_iff_of_perm (holds : registry.Holds config (Found.firsts all))
    (held : other.Holds config (Found.firsts others)) (perm : (Found.firsts others).Perm (Found.firsts all))
    (body className : String) : other.store.Lists body className ↔ registry.store.Lists body className := by
  rw [held.lists_iff, holds.lists_iff]
  simp only [← Found.mem_firsts_iff, perm.mem_iff]

end Registry.Holds

/-! ## Order of sources -/

theorem Found.perm_firsts_declared {sources order : List (String × String)} (apart : sources.Pairwise SourcesApart)
    (perm : order.Perm sources) : (firsts (declared order)).Perm (firsts (declared sources)) := by
  rw [firsts_declared apart, firsts_declared (apart.perm perm.symm SourcesApart.symm)]
  exact perm.flatMap_right _

theorem Compiler.diagnostics_eq_of_perm {compiler : Compiler} {sources order : List (String × String)}
    (perm : (compiler.modules order).Perm (compiler.modules sources)) :
    (compiler.after order).diagnostics = (compiler.after sources).diagnostics := by
  rw [diagnostics_after, diagnostics_after, (perm.map (·.diagnostics.length)).sum_nat]

theorem Compiler.sourceRecords_of_empty {compiler : Compiler} (empty : compiler.registry = .empty)
    (sources : List (String × String)) :
    compiler.sourceRecords sources = (Found.firsts (declared sources)).flatMap (·.records compiler.config) := by
  have none : compiler.registry.Holds compiler.config [] := by
    rw [empty]
    exact Registry.holds_empty _
  exact records_sources none sources

/-- Sources that share no name, apart from upper and lower case, give the same in every order. Each one yields the
module that it yields alone. The components and class maps, the diagnostics, the number of bodies put in and of their
bytes and the classes that rules list for each body are the same, and as long as there are no more bodies than machine
words, so are all statistics and the rules with their sets of classes, up to their order. -/
theorem source_order_irrelevant {config : BuildConfig} {compiler : Compiler} (fresh : compiler.Fresh config)
    {sources order : List (String × String)} (apart : sources.Pairwise SourcesApart) (perm : order.Perm sources) :
    let alone := fun unit : String × String => (compiler.compileSource unit.1 unit.2).1
    let bodies := (compiler.sourceRecords sources).map (·.body)
    let one := (compiler.after sources).registry
    let other := (compiler.after order).registry
    (compiler.modules sources = sources.map alone ∧ compiler.modules order = order.map alone) ∧
    (other.components = one.components ∧ other.classMaps = one.classMaps) ∧
    (compiler.after order).diagnostics = (compiler.after sources).diagnostics ∧
    other.store.stats.total = one.store.stats.total ∧
    other.store.stats.bytesStored + other.store.stats.bytesSaved =
      one.store.stats.bytesStored + one.store.stats.bytesSaved ∧
    (∀ body className, other.store.Lists body className ↔ one.store.Lists body className) ∧
    (bodies.eraseDups.length ≤ UInt32.size →
      other.store.stats = one.store.stats ∧
      (other.rules.map SharedRule.content).Perm (one.rules.map SharedRule.content)) := by
  intro alone bodies one other
  obtain ⟨rfl, empty, _⟩ := fresh.state
  have apart_order : order.Pairwise SourcesApart := apart.perm perm.symm SourcesApart.symm
  have modules : compiler.modules sources = sources.map alone :=
    Compiler.modules_eq_map rfl apart fun unit _ => .refl _ _
  have modules_order : compiler.modules order = order.map alone :=
    Compiler.modules_eq_map rfl apart_order fun unit _ => .refl _ _
  have holds : one.Holds compiler.config (Found.firsts (declared sources)) :=
    Compiler.registry_after_of_empty empty sources
  have held : other.Holds compiler.config (Found.firsts (declared order)) :=
    Compiler.registry_after_of_empty empty order
  have firsts := Found.perm_firsts_declared apart perm
  have records := firsts.flatMap_right (·.records compiler.config)
  have components : other.components = one.components := holds.components_eq held firsts
  obtain ⟨total, _, _, _, bytes⟩ := holds.accounts
  obtain ⟨total_order, _, _, _, bytes_order⟩ := held.accounts
  refine ⟨⟨modules, modules_order⟩, ⟨components, ?_⟩, ?_, ?_, ?_, holds.lists_iff_of_perm held firsts, ?_⟩
  · rw [Registry.classMaps, components, Registry.classMaps]
  · refine Compiler.diagnostics_eq_of_perm ?_
    rw [modules, modules_order]
    exact perm.map alone
  · rw [total, total_order, records.length_eq]
  · rw [bytes, bytes_order, (records.map (·.body.utf8ByteSize)).sum_nat]
  · intro few
    have generated : bodies = ((Found.firsts (declared sources)).flatMap (·.records compiler.config)).map (·.body) := by
      rw [← Compiler.sourceRecords_of_empty empty]
    rw [generated] at few
    have same := perm_eraseDups (records.map (·.body))
    have few_order := few
    rw [← same.length_eq] at few_order
    constructor
    · refine holds.accounts.stats_eq held.accounts records ?_
      rw [← holds.bodies_rules few, ← held.bodies_rules few_order] at same
      exact same
    · rw [holds.rules_eq_ofRecords few, held.rules_eq_ofRecords few_order]
      exact SharedRule.perm_content_ofRecords records

/-- Two sources with a body in common, one with a name that is declared twice, in both orders. -/
theorem source_order_irrelevant_swapped :
    let a := ("a.tsx",
      "const Tag = styled.i\x60color: $\x7bp => p.on ? 'red' : 'tan'\x7d;\x60; const TAG = css\x60top: 0;\x60;")
    let b := ("b.tsx", "const Box = styled.i\x60color: tan;\x60;")
    Compiler.initial.Fresh .default ∧ [a, b].Pairwise SourcesApart ∧ [b, a].Perm [a, b] ∧
      ((Compiler.initial.sourceRecords [a, b]).map (·.body)).eraseDups.length ≤ UInt32.size ∧
      Compiler.initial.modules [b, a] =
        [⟨"b.tsx", 1, ["Box"], 1, []⟩, ⟨"a.tsx", 2, ["Tag"], 2, [.skipped "TAG" .nameClash]⟩] ∧
      (Compiler.initial.after [b, a]).registry.store.stats = (Compiler.initial.after [a, b]).registry.store.stats ∧
      ((Compiler.initial.after [b, a]).registry.rules.map SharedRule.content).Perm
        ((Compiler.initial.after [a, b]).registry.rules.map SharedRule.content) := by
  intro a b
  have fresh : Compiler.initial.Fresh .default := .made Compiler.ofConfig_default
  have apart : [a, b].Pairwise SourcesApart := by decide +kernel
  have swapped : [b, a].Perm [a, b] := .swap a b []
  have few : ((Compiler.initial.sourceRecords [a, b]).map (·.body)).eraseDups.length ≤ UInt32.size := by
    have bodies : (Compiler.initial.sourceRecords [a, b]).map (·.body) =
        ["color: red;", "color: tan;", "color: tan;"] := by
      decide +kernel
    rw [bodies]
    decide
  obtain ⟨⟨_, modules⟩, _, _, _, _, _, counted⟩ := source_order_irrelevant fresh apart swapped
  obtain ⟨stats, rules⟩ := counted few
  refine ⟨fresh, apart, swapped, few, ?_, stats, rules⟩
  rw [modules]
  decide +kernel

end StaticStyles
