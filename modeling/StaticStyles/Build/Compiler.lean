import StaticStyles.Build.Config
import StaticStyles.Build.FileTree
import StaticStyles.Css.Optimize
import StaticStyles.Registry.Components
import StaticStyles.Resolver.Lookup
import StaticStyles.Source.Scan

/-!
A build: sources are compiled one after the other into one registry, which in the end gives the
stylesheet and the class maps. A declaration that cannot be compiled is reported and left to the running
program.
-/
namespace StaticStyles

/-- What one source has added to a build: how many declarations it has, the components that got a class, how many
records were generated, and what is left out. -/
structure Module where
  file : String
  declarations : Nat
  components : List String
  records : Nat
  diagnostics : List Diagnostic
deriving DecidableEq

/-- A module with what comes of one more declaration. -/
def Module.add (output : Module) (component : String) (generated : Rule.Generated) : Module :=
  { output with
    components := if generated.records.isEmpty then output.components else output.components ++ [component]
    records := output.records + generated.records.length
    diagnostics := output.diagnostics ++ generated.diagnostics }

/-- The state of a build, with the number of its diagnostics so far. -/
structure Compiler where
  config : BuildConfig
  filter : SourceFilter
  registry : Registry
  diagnostics : Nat

namespace Compiler

/-- A compiler of valid settings, with nothing compiled. -/
def ofConfig (config : BuildConfig) : Except ConfigError Compiler := do
  let config ← config.validate
  match SourceFilter.ofPatterns config.included config.excluded with
  | .error error => .error (.badPattern error)
  | .ok filter => return ⟨config, filter, .empty, 0⟩

/-- The patterns to compile a declaration with; none if it is left alone, since props are not analyzed
and its body has holes. -/
def patterns? (config : BuildConfig) (source : List Char) (declaration : Declaration) :
    Option (List Pattern) :=
  let body := declaration.body.toList
  if config.analyzeProps then some (Pattern.extract true body source)
  else if (Template.interpolations body).isEmpty then some []
  else none

/-- What comes of one declaration: the records of its component, and what is left out. -/
def compileDeclaration (config : BuildConfig) (source : List Char) (registry : Registry)
    (declaration : Declaration) : Registry × Rule.Generated :=
  match registry.register declaration with
  | .known => (registry, ⟨[], []⟩)
  | .refused reason => (registry, ⟨[], [.skipped declaration.component reason]⟩)
  | .new registry =>
    match patterns? config source declaration with
    | none => (registry, ⟨[], []⟩)
    | some patterns =>
      let generated := Rule.generate config.maxCombinations declaration patterns
      if generated.records.isEmpty then (registry, generated)
      else (registry.addRecords Registry.bodyHash declaration.component generated.records, generated)

def compileDeclarations (config : BuildConfig) (source : List Char) :
    Registry → Module → List Declaration → Registry × Module
  | registry, output, [] => (registry, output)
  | registry, output, declaration :: rest =>
    let (registry, generated) := compileDeclaration config source registry declaration
    compileDeclarations config source registry
      (output.add declaration.component generated) rest

def compileSource (compiler : Compiler) (file source : String) : Module × Compiler :=
  let text := source.toList
  let found := Source.declarations text
  let (registry, output) := compileDeclarations compiler.config text compiler.registry
    ⟨file, found.length, [], 0, Source.diagnostics text⟩ found
  (output, { compiler with registry, diagnostics := compiler.diagnostics + output.diagnostics.length })

def reset (compiler : Compiler) : Compiler := { compiler with registry := .empty, diagnostics := 0 }

end Compiler

/-- What a build gives in the end; `raw` is the stylesheet before it was optimized. -/
structure Artifact where
  raw : String
  stylesheet : Css.Optimized
  classMaps : ClassMaps
  stats : StoreStats
  diagnostics : Nat

namespace Artifact

def size (artifact : Artifact) : Css.Size := .ofTexts artifact.raw artifact.stylesheet.code

def manifest (artifact : Artifact) : String := artifact.classMaps.toJson

/-- The resolver of a component; it is degraded if the component has no class. -/
def resolver (artifact : Artifact) (component : String) : Resolver :=
  .ofMap (artifact.classMaps.get? component)

end Artifact

/-- The artifact of what has been compiled. The stylesheet is optimized by a transform for the
settings, if there is any rule. -/
def Compiler.finish (transform : BuildConfig → String → Css.Outcome) (compiler : Compiler) : Artifact :=
  let raw := compiler.registry.stylesheet
  let config := compiler.config
  { raw
    stylesheet := if raw = "" then .empty else Css.optimize (transform config) config.minify raw
    classMaps := compiler.registry.classMaps
    stats := compiler.registry.store.stats
    diagnostics := compiler.diagnostics }

end StaticStyles
