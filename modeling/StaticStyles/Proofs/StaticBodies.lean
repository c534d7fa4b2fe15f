import StaticStyles.Proofs.BuildAccounts
import StaticStyles.Proofs.ScanProgress
import StaticStyles.Proofs.TrimmedCss

/-!
Bodies without holes. What the scan of a source accepts as a body that has none, the generator compiles: there is one
record, of no props, with the trimmed body. So a build that does not analyze props knows the same components, and of
their maps it has those of bodies without holes (`static_bodies_compiled`).
-/
namespace StaticStyles

/-! ## Bodies without holes -/

namespace Template
variable {body : List Char}

theorem expressions_of_bare (bare : interpolations body = []) : expressions body = [] := by
  rw [expressions, bare, List.map_nil]

/-- Nothing is replaced in a body without holes. -/
theorem replace_of_bare (bare : interpolations body = []) (value? : List Char → Option (List Char)) :
    replace value? body = body := by
  refine replace_eq_self ?_
  rw [expressions_of_bare bare]
  simp

end Template

namespace Declaration

/-- The record of a declaration of no props, with the trimmed body. -/
def plainRecord (declaration : Declaration) : Record :=
  .ofBody declaration.component ∅ (String.ofList (Text.trim declaration.body.toList))

end Declaration

section
variable {declaration : Declaration}

/-- A body without holes is its own interpolation, apart from the white space around it. -/
theorem Rule.interpolate_of_bare (bare : Template.interpolations declaration.body.toList = []) (props : Combination) :
    interpolate declaration.body props = .ok declaration.plainRecord.body := by
  have faultless : (Template.expressions declaration.body.toList).findSome? (holeFault? props) = none := by
    rw [Template.expressions_of_bare bare]
    rfl
  rw [interpolate, faultless, Template.replace_of_bare bare]
  rfl

/-- What is accepted as a body without holes yields one record, and no diagnostic. -/
theorem Rule.generate_of_bare {limit : Nat} (some_allowed : limit ≠ 0) (still : declaration.animated = false)
    (accepted : Css.checkBody declaration.body.toList = .ok ())
    (bare : Template.interpolations declaration.body.toList = []) :
    generate limit declaration [] = ⟨[declaration.plainRecord], []⟩ := by
  have checked : Css.check declaration.body.toList = .ok () := by
    rwa [Css.checkBody, Css.neutral, Template.replace_of_bare bare] at accepted
  have made : outcome declaration.component declaration.body (Pattern.heldDefaults []) ∅ =
      .ok declaration.plainRecord := by
    refine outcome_eq_ok_iff.mpr ⟨_, bodyFor_eq_ok_iff.mpr ⟨interpolate_of_bare bare _, ?_⟩, rfl⟩
    rw [Declaration.plainRecord, Record.ofBody, String.toList_ofList]
    exact Css.check_trim checked
  have one : Pattern.combinations [] = [∅] := rfl
  have few : ¬ Pattern.combinationCount [] > limit := by
    have count : Pattern.combinationCount [] = 1 := by decide +kernel
    omega
  rw [generate, if_neg (by simp [still]), accepted]
  simp only [if_neg few, one, List.map_cons, List.map_nil, made]
  rfl

/-- A body without holes has no patterns, whether props are analyzed or not. -/
theorem Compiler.patterns?_of_bare (config : BuildConfig) (source : List Char)
    (bare : Template.interpolations declaration.body.toList = []) :
    patterns? config source declaration = some [] := by
  rw [patterns?]
  split
  · have unread : Pattern.readable declaration.body.toList = [] := by
      rw [Pattern.readable, Template.expressions_of_bare bare]
      rfl
    rw [Pattern.extract, unread]
    rfl
  · rw [bare]
    rfl

end

/-! ## Declarations of a source -/

/-- The body of a declaration that a source has is accepted. -/
theorem Source.accepted_of_mem {text : List Char} {declaration : Declaration}
    (member : declaration ∈ Source.declarations text) :
    Css.checkBody declaration.body.toList = .ok () := by
  obtain ⟨outcome, yielded, yields⟩ := List.mem_filterMap.mp member
  obtain rfl : outcome = .ok declaration := by
    cases outcome with
    | ok other => rw [Option.some.inj yields]
    | error diagnostic => contradiction
  obtain ⟨sites, _, found⟩ := @exists_scan_from text [] text rfl
  have yielded : .ok declaration ∈ sites.map (·.outcome) := found ▸ yielded
  obtain ⟨site, _, outcome⟩ := List.mem_map.mp yielded
  exact (Site.declares outcome).accepted

/-- A declaration of a source without holes, which does not move, is compiled if its name is new. -/
theorem Compiler.compileDeclaration_of_bare {config : BuildConfig} (some_allowed : config.maxCombinations ≠ 0)
    {text : List Char} {declaration : Declaration} (member : declaration ∈ Source.declarations text)
    (bare : Template.interpolations declaration.body.toList = []) (still : declaration.animated = false)
    {before registry : Registry} (new : before.register declaration = .new registry) :
    compileDeclaration config text before declaration =
      (registry.addRecords Registry.bodyHash declaration.component [declaration.plainRecord],
        ⟨[declaration.plainRecord], []⟩) := by
  have accepted := Source.accepted_of_mem member
  simp only [compileDeclaration, new, patterns?_of_bare config text bare,
    Rule.generate_of_bare some_allowed still accepted bare]
  rfl

/-! ## Settings -/

namespace Compiler
variable {config : BuildConfig} {compiler : Compiler}

theorem maxCombinations_ne_zero (made : ofConfig config = .ok compiler) : config.maxCombinations ≠ 0 := by
  intro none
  rw [ofConfig, BuildConfig.validate, if_pos none] at made
  contradiction

/-- Whether props are analyzed has no part in whether settings are valid. -/
theorem ofConfig_analyzing (made : ofConfig config = .ok compiler) (analyzing : Bool) :
    ofConfig { config with analyzeProps := analyzing } =
      .ok { compiler with config := { config with analyzeProps := analyzing } } := by
  unfold ofConfig BuildConfig.validate at made ⊢
  split at made
  · contradiction
  · next some_allowed =>
    split at made
    · contradiction
    · next some_time =>
      simp only [bind, Except.bind] at made
      split at made
      · contradiction
      · next filter read =>
        obtain rfl := Except.ok.inj made
        simp only [if_neg some_allowed, if_neg some_time, bind, Except.bind, read]
        rfl

end Compiler

/-! ## Builds that do not analyze props -/

namespace Found

/-- A declaration whose body has no holes. -/
def isBare (found : Found) : Bool := (Template.interpolations found.declaration.body.toList).isEmpty

/-- Whether the body that has a component's name is one without holes. -/
def registersBare (all : List Found) (component : String) : Bool :=
  (firsts all).any fun found => found.declaration.component = component && found.isBare

theorem registersBare_iff {all : List Found} {found : Found} (first : IsFirst all found) :
    registersBare all found.declaration.component = found.isBare := by
  rw [registersBare, Bool.eq_iff_iff, List.any_eq_true]
  constructor
  · rintro ⟨other, member, told⟩
    obtain ⟨named, bare⟩ := Bool.and_eq_true_iff.mp told
    rwa [(mem_firsts_iff.mp member).unique first (of_decide_eq_true named)] at bare
  · intro bare
    exact ⟨found, mem_firsts_iff.mpr first, by simp [bare]⟩

/-- Without analysis, bodies without holes have the records that they have with it, and others have none. -/
theorem records_analyzing (config : BuildConfig) (found : Found) :
    found.records { config with analyzeProps := false } =
      if found.isBare then found.records { config with analyzeProps := true } else [] := by
  by_cases bare : found.isBare = true
  · have none : Template.interpolations found.declaration.body.toList = [] := List.isEmpty_iff.mp bare
    rw [if_pos bare, records, records, Compiler.patterns?_of_bare _ _ none, Compiler.patterns?_of_bare _ _ none]
  · have left : Compiler.patterns? { config with analyzeProps := false } found.source found.declaration = none := by
      rw [Compiler.patterns?, if_neg Bool.false_ne_true]
      exact if_neg bare
    rw [if_neg bare, records, left]

end Found

section
variable {config : BuildConfig} {all : List Found} {on off : Registry}

theorem Registry.Holds.hashes_eq {other : BuildConfig} (holds_on : on.Holds config all)
    (holds_off : off.Holds other all) : off.components.mapValues (·.hash) = on.components.mapValues (·.hash) := by
  refine SortedMap.ext_get? fun name => ?_
  rw [SortedMap.get?_mapValues, SortedMap.get?_mapValues, holds_on.component, holds_off.component, Option.map_map,
    Option.map_map]
  rfl

theorem Registry.Holds.classMaps_analyzing
    (holds_on : on.Holds { config with analyzeProps := true } (Found.firsts all))
    (holds_off : off.Holds { config with analyzeProps := false } (Found.firsts all)) :
    off.classMaps = on.classMaps.filter fun component _ => Found.registersBare all component := by
  refine SortedMap.ext_get? fun component => Option.ext fun map => ?_
  rw [SortedMap.get?_filter, Option.filter_eq_some_iff, holds_off.classMaps_get?_eq_some_iff,
    holds_on.classMaps_get?_eq_some_iff]
  simp only [Found.records_analyzing]
  constructor
  · rintro ⟨found, first, rfl, filled, rfl⟩
    by_cases bare : found.isBare = true
    · rw [if_pos bare] at filled ⊢
      exact ⟨⟨found, first, rfl, filled, rfl⟩, (Found.registersBare_iff first).trans bare⟩
    · rw [if_neg bare] at filled
      contradiction
  · rintro ⟨⟨found, first, rfl, filled, rfl⟩, bare⟩
    rw [Found.registersBare_iff first] at bare
    refine ⟨found, first, rfl, ?_, ?_⟩
    · rwa [if_pos bare]
    · rw [if_pos bare]

end

/-! ## Runs -/

theorem mem_declarations_of_isFirst {sources : List (String × String)} {found : Found}
    (first : Found.IsFirst (declared sources) found) : found.declaration ∈ Source.declarations found.source := by
  obtain ⟨⟨file, text⟩, _, listed⟩ := List.mem_flatMap.mp first.mem
  have listed : found ∈ (Source.declarations text.toList).map (Found.mk text.toList) := listed
  obtain ⟨declaration, member, rfl⟩ := List.mem_map.mp listed
  exact member

/-- The class map of a body without holes, if it does not move, is that of its one record. -/
theorem classMap_of_bare {config : BuildConfig} (some_allowed : config.maxCombinations ≠ 0)
    {sources : List (String × String)} {registry : Registry}
    (holds : registry.Holds config (Found.firsts (declared sources))) {found : Found}
    (first : Found.IsFirst (declared sources) found)
    (bare : Template.interpolations found.declaration.body.toList = []) (still : found.declaration.animated = false) :
    registry.classMaps.get? found.declaration.component = some (.ofRecords [found.declaration.plainRecord]) := by
  have accepted := Source.accepted_of_mem (mem_declarations_of_isFirst first)
  have records : found.records config = [found.declaration.plainRecord] := by
    rw [Found.records, Compiler.patterns?_of_bare config found.source bare]
    simp only [Rule.generate_of_bare some_allowed still accepted bare]
  exact holds.classMaps_get?_eq_some_iff.mpr ⟨found, first, rfl, by simp [records], by rw [records]⟩

/-- With valid settings, and whatever was compiled before, a declaration whose body has no holes and does not move is
compiled when its name is taken: it yields one record, of no props, with the trimmed body, and no diagnostic. So a run
gives its component the class of that record. If props are not analyzed, a run knows the same components by the same
bodies, and their maps are those of a run that analyzes them, for bodies without holes only. -/
theorem static_bodies_compiled {config : BuildConfig} {compiler : Compiler}
    (made : Compiler.ofConfig config = .ok compiler) :
    (∀ reached : Compiler, reached.config = config →
      ∀ (text : String) (output : Module) (earlier later : List Declaration) (declaration : Declaration),
        Source.declarations text.toList = earlier ++ declaration :: later →
        Template.interpolations declaration.body.toList = [] → declaration.animated = false →
        let before := (Compiler.compileDeclarations reached.config text.toList reached.registry output earlier).1
        ∀ registry, before.register declaration = .new registry →
          Compiler.compileDeclaration reached.config text.toList before declaration =
            (registry.addRecords Registry.bodyHash declaration.component [declaration.plainRecord],
              ⟨[declaration.plainRecord], []⟩)) ∧
    (∀ fresh : Compiler, fresh.Fresh config → ∀ sources found, Found.IsFirst (declared sources) found →
      Template.interpolations found.declaration.body.toList = [] → found.declaration.animated = false →
      (fresh.after sources).registry.classMaps.get? found.declaration.component =
        some (.ofRecords [found.declaration.plainRecord])) ∧
    ∃ on off, Compiler.ofConfig { config with analyzeProps := true } = .ok on ∧
      Compiler.ofConfig { config with analyzeProps := false } = .ok off ∧
      ∀ sources,
        (off.after sources).registry.components.mapValues (·.hash) =
          (on.after sources).registry.components.mapValues (·.hash) ∧
        (off.after sources).registry.classMaps =
          (on.after sources).registry.classMaps.filter fun component _ =>
            Found.registersBare (declared sources) component := by
  have some_allowed := Compiler.maxCombinations_ne_zero made
  refine ⟨?_, ?_, _, _, Compiler.ofConfig_analyzing made true, Compiler.ofConfig_analyzing made false, ?_⟩
  · rintro reached rfl text output earlier later declaration found bare still before registry new
    have member : declaration ∈ Source.declarations text.toList := by
      rw [found]
      exact List.mem_append_right _ List.mem_cons_self
    exact Compiler.compileDeclaration_of_bare some_allowed member bare still new
  · intro fresh made sources found first bare still
    obtain ⟨rfl, empty, _⟩ := made.state
    exact classMap_of_bare some_allowed (Compiler.registry_after_of_empty empty sources) first bare still
  · intro sources
    have holds (analyzing : Bool) := Compiler.registry_after (Compiler.ofConfig_analyzing made analyzing) sources
    exact ⟨(holds true).hashes_eq (holds false), (holds true).classMaps_analyzing (holds false)⟩

/-- A body without holes beside one that has a hole. -/
theorem static_bodies_compiled_card :
    let source := "const Card = styled.div\x60\n  margin: 0;\n\x60;\n" ++
      "const Tag = styled.i\x60color: $\x7bp => p.on ? 'red' : 'tan'\x7d;\x60;"
    let sources := [("a.tsx", source)]
    let record : Record := .ofBody "Card" ∅ "margin: 0;"
    (∃ declaration registry, Registry.empty.register declaration = .new registry ∧
      Compiler.compileDeclaration .default source.toList .empty declaration =
        (registry.addRecords Registry.bodyHash "Card" [record], ⟨[record], []⟩)) ∧
      (Compiler.initial.after sources).registry.classMaps.get? "Card" = some (.ofRecords [record]) ∧
      ∃ on off, Compiler.ofConfig { BuildConfig.default with analyzeProps := true } = .ok on ∧
        Compiler.ofConfig { BuildConfig.default with analyzeProps := false } = .ok off ∧
        (on.after sources).registry.classMaps.keys = ["Card", "Tag"] ∧
        (off.after sources).registry.classMaps.keys = ["Card"] := by
  intro source sources record
  let card : Declaration := .ofBody "Card" (some "div") "\n  margin: 0;\n"
  let tag : Declaration := .ofBody "Tag" (some "i") "color: $\x7bp => p.on ? 'red' : 'tan'\x7d;"
  have found : Source.declarations source.toList = [] ++ card :: [tag] := by decide +kernel
  have bare : Template.interpolations card.body.toList = [] := by decide +kernel
  have still : card.animated = false := by decide +kernel
  have same : card.plainRecord = record := by decide +kernel
  have first : Found.IsFirst (declared sources) ⟨source.toList, card⟩ := by
    refine Found.mem_firsts_iff.mp ?_
    have declares : declared sources = [⟨source.toList, card⟩, ⟨source.toList, tag⟩] := by
      simp [declared, sources, found]
    rw [declares]
    decide +kernel
  obtain ⟨step, run, on, off, made_on, made_off, compare⟩ := static_bodies_compiled Compiler.ofConfig_default
  have compiled := step .initial rfl source ⟨"a.tsx", 2, [], 0, []⟩ [] [tag] card found bare still _ rfl
  have mapped := run .initial (.made Compiler.ofConfig_default) sources _ first bare still
  rw [same] at compiled mapped
  obtain rfl : Compiler.initial = on := Except.ok.inj (Compiler.ofConfig_default.symm.trans made_on)
  refine ⟨⟨card, _, rfl, compiled⟩, mapped, _, off, made_on, made_off, by decide +kernel, ?_⟩
  rw [(compare sources).2]
  decide +kernel

end StaticStyles
