import StaticStyles.Build.Filter
import StaticStyles.Json.Decode
import StaticStyles.Rule.Generate

/-!
Settings of a build. They are kept as JSON, either an object, in which absent settings have their
defaults, or a list of the settings in a fixed order.
-/
namespace StaticStyles

/-- The settings of a build. Without targets the transform makes its own choice of browsers, and without included
patterns all scripts are taken. The transform may take `timeout` milliseconds. -/
structure BuildConfig where
  targets : List String
  minify : Bool
  analyzeProps : Bool
  maxCombinations : Nat
  included : List String
  excluded : List String
  sourceMaps : Bool
  timeout : Nat
deriving DecidableEq, Repr

/-- Why settings cannot be used. -/
inductive ConfigError where
  | unreadable
  | noCombinations
  | noTime
  | badPattern (error : Glob.PatternError)
deriving DecidableEq, Repr

/-- The wording of an error that lies in the settings and not in their syntax. -/
def ConfigError.message? : ConfigError → Option String
  | .unreadable => none
  | .noCombinations => some "Invalid configuration: maxPropCombinations must be at least 1"
  | .noTime => some "Invalid configuration: transformTimeoutMs must be at least 1"
  | .badPattern error => some ("Invalid configuration: invalid glob pattern: " ++ error.message)

namespace BuildConfig
open Json.Raw

/-- The settings of a build that says nothing. -/
def default : BuildConfig where
  targets := []
  minify := true
  analyzeProps := true
  maxCombinations := Rule.defaultLimit
  included := []
  excluded := ["**/node_modules/**"]
  sourceMaps := false
  timeout := 5000

def fieldNames : List String :=
  ["targets", "minify", "analyzePropPatterns", "maxPropCombinations", "include", "exclude", "sourceMaps",
    "transformTimeoutMs"]

def ofRaw? (raw : Json.Raw) : Option BuildConfig := do
  let fields ← fields? fieldNames raw
  return {
    targets := ← field? fields "targets" (list? text?) (some default.targets)
    minify := ← field? fields "minify" bool? (some default.minify)
    analyzeProps := ← field? fields "analyzePropPatterns" bool? (some default.analyzeProps)
    maxCombinations := ← field? fields "maxPropCombinations" nat? (some default.maxCombinations)
    included := ← field? fields "include" (list? text?) (some default.included)
    excluded := ← field? fields "exclude" (list? text?) (some default.excluded)
    sourceMaps := ← field? fields "sourceMaps" bool? (some default.sourceMaps)
    timeout := ← field? fields "transformTimeoutMs" nat? (some default.timeout) }

/-- The settings if they allow anything at all. -/
def validate (config : BuildConfig) : Except ConfigError BuildConfig :=
  if config.maxCombinations = 0 then .error .noCombinations
  else if config.timeout = 0 then .error .noTime
  else .ok config

/-- The settings of a JSON text, not validated. -/
def read (text : String) : Except ConfigError BuildConfig :=
  match (Json.Raw.ofText? text).bind ofRaw? with
  | some config => .ok config
  | none => .error .unreadable

def ofJson (text : String) : Except ConfigError BuildConfig := do (← read text).validate

/-- The queries to hand to the transform, if there are any. -/
def browserTargets? (config : BuildConfig) : Option (List String) :=
  if config.targets.isEmpty then none else some config.targets

end BuildConfig
end StaticStyles
