import StaticStyles.Proofs.BuildRun

/-!
Sources that are compiled again. A name that is taken keeps its body, and a name that clashes with it stays out, however
a registry grows (`Registry.Extends`). So each declaration of a source that was compiled before gets the answer that it
got then, but for a new one, which is known by now: nothing changes, and what is reported is what was reported while the
source was read and names were given (`recompile_unchanged`).
-/
namespace StaticStyles

/-! ## Answers to a declaration -/

namespace Registry
variable {registry before after : Registry} {declaration : Declaration}

/-- A name that differs from a taken one at most in upper and lower case. -/
def Clashes (registry : Registry) (name : String) : Prop :=
  ∃ taken ∈ registry.components.keys, foldedName taken = foldedName name

theorem register_known {component : Component}
    (named : registry.components.get? declaration.component = some component)
    (same : component.hash = declaration.hash) : registry.register declaration = .known := by
  simp only [register, named, if_pos same]

theorem register_taken {component : Component}
    (named : registry.components.get? declaration.component = some component)
    (different : component.hash ≠ declaration.hash) : registry.register declaration = .refused .nameTaken := by
  simp only [register, named, if_neg different]

theorem register_clash (unnamed : registry.components.get? declaration.component = none)
    (clash : registry.Clashes declaration.component) : registry.register declaration = .refused .nameClash := by
  have known : registry.components.keys.any
      (fun taken => foldedName taken = foldedName declaration.component) = true := by
    simpa [Clashes] using clash
  simp only [register, unnamed, if_pos known]

theorem register_free (unnamed : registry.components.get? declaration.component = none)
    (free : ¬ registry.Clashes declaration.component) : registry.register declaration = .new
      { registry with components := registry.components.insert declaration.component ⟨declaration.hash, ∅⟩ } := by
  have fresh : ¬ registry.components.keys.any
      (fun taken => foldedName taken = foldedName declaration.component) = true := by
    simpa [Clashes] using free
  simp only [register, unnamed, if_neg fresh]

/-- The four answers to a declaration, each with its condition. -/
theorem register_cases (registry : Registry) (declaration : Declaration) :
    (∃ component, registry.components.get? declaration.component = some component ∧
      component.hash = declaration.hash ∧ registry.register declaration = .known) ∨
    (∃ component, registry.components.get? declaration.component = some component ∧
      component.hash ≠ declaration.hash ∧ registry.register declaration = .refused .nameTaken) ∨
    (registry.components.get? declaration.component = none ∧ registry.Clashes declaration.component ∧
      registry.register declaration = .refused .nameClash) ∨
    (registry.components.get? declaration.component = none ∧ ¬ registry.Clashes declaration.component ∧
      registry.register declaration = .new
        { registry with components := registry.components.insert declaration.component ⟨declaration.hash, ∅⟩ }) := by
  cases named : registry.components.get? declaration.component with
  | some component =>
    by_cases same : component.hash = declaration.hash
    · exact .inl ⟨component, rfl, same, register_known named same⟩
    · exact .inr (.inl ⟨component, rfl, same, register_taken named same⟩)
  | none =>
    by_cases clash : registry.Clashes declaration.component
    · exact .inr (.inr (.inl ⟨rfl, clash, register_clash named clash⟩))
    · exact .inr (.inr (.inr ⟨rfl, clash, register_free named clash⟩))

/-! ## Growth -/

/-- A registry into which another one can grow: every name keeps its body, and names that came later clash with none
of those before. -/
structure Extends (before after : Registry) : Prop where
  kept : ∀ name component, before.components.get? name = some component →
    ∃ classes, after.components.get? name = some ⟨component.hash, classes⟩
  apart : ∀ name, before.components.get? name = none → before.Clashes name → after.components.get? name = none

namespace Extends

theorem refl (registry : Registry) : registry.Extends registry where
  kept _ component named := ⟨component.classes, named⟩
  apart _ unnamed _ := unnamed

theorem clashes (grown : before.Extends after) {name : String} (clash : before.Clashes name) : after.Clashes name := by
  obtain ⟨taken, key, same⟩ := clash
  obtain ⟨component, named⟩ := Option.isSome_iff_exists.mp (SortedMap.get?_isSome_iff.mpr key)
  obtain ⟨classes, still⟩ := grown.kept taken component named
  exact ⟨taken, SortedMap.get?_isSome_iff.mp (Option.isSome_of_eq_some still), same⟩

theorem trans {middle : Registry} (first : before.Extends middle) (second : middle.Extends after) :
    before.Extends after where
  kept name component named := by
    obtain ⟨classes, still⟩ := first.kept name component named
    exact second.kept name ⟨component.hash, classes⟩ still
  apart name unnamed clash := second.apart name (first.apart name unnamed clash) (first.clashes clash)

/-- The same body is known from then on. -/
theorem register_known (grown : before.Extends after) {component : Component}
    (named : before.components.get? declaration.component = some component)
    (same : component.hash = declaration.hash) : after.register declaration = .known := by
  obtain ⟨classes, still⟩ := grown.kept _ component named
  exact Registry.register_known still same

/-- A refusal stays, with its reason. -/
theorem register_refused (grown : before.Extends after) {reason : SkipReason}
    (answer : before.register declaration = .refused reason) : after.register declaration = .refused reason := by
  rcases before.register_cases declaration with
    ⟨component, _, _, known⟩ | ⟨component, named, different, taken⟩ | ⟨unnamed, clash, refused⟩ | ⟨_, _, new⟩
  · rw [known] at answer
    contradiction
  · obtain ⟨classes, still⟩ := grown.kept _ component named
    rw [← answer, taken]
    exact register_taken still different
  · have later := grown.apart _ unnamed clash
    rw [← answer, refused]
    exact register_clash later (grown.clashes clash)
  · rw [new] at answer
    contradiction

end Extends

/-- Compiling a declaration adds a name that clashes with none, or nothing. -/
theorem extends_compileDeclaration (config : BuildConfig) (source : List Char) (registry : Registry)
    (declaration : Declaration) :
    registry.Extends (Compiler.compileDeclaration config source registry declaration).1 := by
  rcases registry.register_cases declaration with
    ⟨_, _, _, answer⟩ | ⟨_, _, _, answer⟩ | ⟨_, _, answer⟩ | ⟨unnamed, free, answer⟩
  · simpa only [Compiler.compileDeclaration, answer] using Extends.refl registry
  · simpa only [Compiler.compileDeclaration, answer] using Extends.refl registry
  · simpa only [Compiler.compileDeclaration, answer] using Extends.refl registry
  · rw [compileDeclaration_of_new answer]
    constructor
    · intro name component named
      have other : declaration.component ≠ name := by
        rintro rfl
        rw [unnamed] at named
        contradiction
      exact ⟨component.classes, by simp [withFound, SortedMap.get?_insert, other, named]⟩
    · intro name still clash
      have other : declaration.component ≠ name := by
        rintro rfl
        exact free clash
      simp [withFound, SortedMap.get?_insert, other, still]

theorem extends_compileDeclarations (config : BuildConfig) (source : List Char) (registry : Registry) (output : Module)
    (declarations : List Declaration) :
    registry.Extends (Compiler.compileDeclarations config source registry output declarations).1 := by
  induction declarations generalizing registry output with
  | nil => exact .refl registry
  | cons declaration rest ih => exact (extends_compileDeclaration config source registry declaration).trans (ih _ _)

end Registry

theorem Compiler.extends_after (compiler : Compiler) (sources : List (String × String)) :
    compiler.registry.Extends (compiler.after sources).registry := by
  induction sources generalizing compiler with
  | nil => exact .refl _
  | cons first rest ih =>
    exact (Registry.extends_compileDeclarations _ _ _ _ _).trans (ih (compiler.compileSource first.1 first.2).2)

/-! ## What a source reports, and when -/

/-- When a diagnostic of a source arises: while it is read, while a declaration takes its name, or while records are
generated. -/
inductive Stage where
  | reading
  | naming
  | generating
deriving DecidableEq

namespace Compiler
variable {config : BuildConfig} {source : List Char} {registry later : Registry}

def declarationReports (config : BuildConfig) (source : List Char) (registry : Registry) (declaration : Declaration) :
    List (Stage × Diagnostic) :=
  match registry.register declaration with
  | .known => []
  | .refused reason => [(.naming, .skipped declaration.component reason)]
  | .new _ => (compileDeclaration config source registry declaration).2.diagnostics.map (.generating, ·)

/-- The diagnostics of declarations that are compiled one after the other. -/
def declarationsReports (config : BuildConfig) (source : List Char) :
    Registry → List Declaration → List (Stage × Diagnostic)
  | _, [] => []
  | registry, declaration :: rest =>
    declarationReports config source registry declaration ++
      declarationsReports config source (compileDeclaration config source registry declaration).1 rest

/-- The diagnostics of a source that is compiled next, in order. -/
def reports (compiler : Compiler) (text : String) : List (Stage × Diagnostic) :=
  (Source.diagnostics text.toList).map (.reading, ·) ++
    declarationsReports compiler.config text.toList compiler.registry (Source.declarations text.toList)

theorem declarationReports_eq (config : BuildConfig) (source : List Char) (registry : Registry)
    (declaration : Declaration) :
    (declarationReports config source registry declaration).map (·.2) =
      (compileDeclaration config source registry declaration).2.diagnostics := by
  unfold declarationReports
  cases answer : registry.register declaration with
  | new taken => simp [Function.comp_def]
  | known => simp [compileDeclaration, answer]
  | refused reason => simp [compileDeclaration, answer]

theorem diagnostics_compileDeclarations (config : BuildConfig) (source : List Char) (registry : Registry)
    (output : Module) (declarations : List Declaration) :
    (compileDeclarations config source registry output declarations).2.diagnostics =
      output.diagnostics ++ (declarationsReports config source registry declarations).map (·.2) := by
  induction declarations generalizing registry output with
  | nil => exact (List.append_nil _).symm
  | cons declaration rest ih =>
    rw [compileDeclarations, ih, declarationsReports, List.map_append, declarationReports_eq, ← List.append_assoc]
    rfl

theorem count_compileDeclarations (config : BuildConfig) (source : List Char) (registry : Registry) (output : Module)
    (declarations : List Declaration) :
    (compileDeclarations config source registry output declarations).2.declarations = output.declarations := by
  induction declarations generalizing registry output with
  | nil => rfl
  | cons declaration rest ih => exact ih _ _

/-- A module reports the diagnostics of its source in the order in which they arise. -/
theorem diagnostics_compileSource (compiler : Compiler) (file text : String) :
    (compiler.compileSource file text).1.diagnostics = (compiler.reports text).map (·.2) := by
  have read : ((Source.diagnostics text.toList).map (Stage.reading, ·)).map (·.2) = Source.diagnostics text.toList := by
    simp [Function.comp_def]
  rw [reports, List.map_append, read]
  exact diagnostics_compileDeclarations ..

theorem declarations_compileSource (compiler : Compiler) (file text : String) :
    (compiler.compileSource file text).1.declarations = (Source.declarations text.toList).length :=
  count_compileDeclarations compiler.config text.toList compiler.registry
    ⟨file, (Source.declarations text.toList).length, [], 0, Source.diagnostics text.toList⟩ _

/-! ## The same declarations again -/

/-- A declaration that was compiled before adds nothing, and is refused again if it was refused. -/
theorem compileDeclaration_again (declaration : Declaration)
    (grown : (compileDeclaration config source registry declaration).1.Extends later) :
    compileDeclaration config source later declaration = (later,
      ⟨[], ((declarationReports config source registry declaration).filter (·.1 ≠ .generating)).map (·.2)⟩) := by
  have whole := (registry.extends_compileDeclaration config source declaration).trans grown
  rcases registry.register_cases declaration with
    ⟨component, named, same, answer⟩ | ⟨_, _, _, answer⟩ | ⟨_, _, answer⟩ | ⟨_, _, answer⟩
  · simp [compileDeclaration, whole.register_known named same, declarationReports, answer]
  · simp [compileDeclaration, whole.register_refused answer, declarationReports, answer]
  · simp [compileDeclaration, whole.register_refused answer, declarationReports, answer]
  · rw [Registry.compileDeclaration_of_new answer] at grown
    have named : (registry.withFound config ⟨source, declaration⟩).components.get? declaration.component =
        some ⟨declaration.hash, .ofRecords ((Found.mk source declaration).records config)⟩ := by
      simp [Registry.withFound, SortedMap.get?_insert]
    have unsaid : (declarationReports config source registry declaration).filter (·.1 ≠ .generating) = [] := by
      simp [declarationReports, answer]
    rw [unsaid]
    simp [compileDeclaration, grown.register_known named rfl]

/-- Declarations that were compiled before add nothing, however the registry has grown since. -/
theorem compileDeclarations_again (output other : Module) (declarations : List Declaration)
    (grown : (compileDeclarations config source registry output declarations).1.Extends later) :
    compileDeclarations config source later other declarations =
      (later, { other with
        diagnostics := other.diagnostics ++
          ((declarationsReports config source registry declarations).filter (·.1 ≠ .generating)).map (·.2) }) := by
  induction declarations generalizing registry output other with
  | nil => simp [compileDeclarations, declarationsReports]
  | cons declaration rest ih =>
    have remaining : (compileDeclarations config source (compileDeclaration config source registry declaration).1
        (output.add declaration.component (compileDeclaration config source registry declaration).2) rest).1.Extends
          later := grown
    have first : (compileDeclaration config source registry declaration).1.Extends later :=
      (Registry.extends_compileDeclarations config source _ _ rest).trans remaining
    rw [compileDeclarations, compileDeclaration_again declaration first, declarationsReports, List.filter_append,
      List.map_append]
    refine (ih _ _ remaining).trans ?_
    simp only [Module.add, List.isEmpty_nil, if_true, List.length_nil, Nat.add_zero, List.append_assoc]

/-- A source that was compiled before yields a module without records and components. -/
theorem compileSource_again (compiler later : Compiler) (file again text : String)
    (config : later.config = compiler.config)
    (grown : (compiler.compileSource file text).2.registry.Extends later.registry) :
    (later.compileSource again text).2.registry = later.registry ∧
      (later.compileSource again text).1 = ⟨again, (Source.declarations text.toList).length, [], 0,
        ((compiler.reports text).filter (·.1 ≠ .generating)).map (·.2)⟩ := by
  have read : (((Source.diagnostics text.toList).map (Stage.reading, ·)).filter (·.1 ≠ .generating)).map (·.2) =
      Source.diagnostics text.toList := by
    simp [List.filter_map, Function.comp_def]
  have repeated := compileDeclarations_again _
    ⟨again, (Source.declarations text.toList).length, [], 0, Source.diagnostics text.toList⟩ _ grown
  rw [reports, List.filter_append, List.map_append, read]
  simp only [compileSource, config, repeated, and_self]

end Compiler

/-- A source that was compiled before, whatever was compiled since, leaves the registry as it is and adds no record and
no component. Its declarations are counted again, and its diagnostics are those that it had while it was read and
while names were given, in their order. -/
theorem recompile_unchanged (compiler : Compiler) (file again text : String) (between : List (String × String)) :
    let first := compiler.compileSource file text
    let later := first.2.after between
    let second := later.compileSource again text
    second.2.registry = later.registry ∧
    second.1.declarations = first.1.declarations ∧ second.1.records = 0 ∧ second.1.components = [] ∧
    first.1.diagnostics = (compiler.reports text).map (·.2) ∧
    second.1.diagnostics = ((compiler.reports text).filter (·.1 ≠ .generating)).map (·.2) := by
  intro first later second
  have config : later.config = compiler.config := Compiler.config_after first.2 between
  obtain ⟨registry, output⟩ :=
    Compiler.compileSource_again compiler later file again text config (Compiler.extends_after first.2 between)
  have counted : first.1.declarations = (Source.declarations text.toList).length :=
    Compiler.declarations_compileSource compiler file text
  have diagnostics : first.1.diagnostics = (compiler.reports text).map (·.2) :=
    Compiler.diagnostics_compileSource compiler file text
  refine ⟨registry, ?_, ?_, ?_, diagnostics, ?_⟩
  · rw [output, counted]
  · rw [output]
  · rw [output]
  · rw [output]

end StaticStyles
