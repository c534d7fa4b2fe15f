import StaticStyles.Diagnostic
import StaticStyles.Registry.Store
import StaticStyles.Resolver.ClassMap
import StaticStyles.Source.Declaration
import StaticStyles.Text.Lowercase

/-!
What a build has gathered: the components it knows, each with its class map, and the rules of their
styles. A component's name is taken by the first body declared for it, in upper and lower case alike.
-/
namespace StaticStyles

/-- What is known of a component: the hash of the body that has its name, and its classes. -/
structure Component where
  hash : String
  classes : ClassMap
deriving DecidableEq

/-- The components and rules of a build. -/
structure Registry where
  store : RuleStore
  components : SortedMap Component

/-- What comes of a declaration: its name is taken from now on, was taken by the same body, or cannot be taken. -/
inductive Registration where
  | new (registry : Registry)
  | known
  | refused (reason : SkipReason)

namespace Registry

def empty : Registry := ⟨.empty, ∅⟩

instance : Inhabited Registry := ⟨empty⟩

/-- A component's name apart from upper and lower case. -/
def foldedName (name : String) : List Char := Text.lower name.toList

/-- Takes the name of a declaration's component for its body. -/
def register (registry : Registry) (declaration : Declaration) : Registration :=
  let name := declaration.component
  match registry.components.get? name with
  | some component => if component.hash = declaration.hash then .known else .refused .nameTaken
  | none =>
    if registry.components.keys.any fun taken => foldedName taken = foldedName name then
      .refused .nameClash
    else
      .new { registry with components := registry.components.insert name ⟨declaration.hash, ∅⟩ }

/-- A hash to bucket the bodies of rules by; any other would do. -/
def bodyHash (body : String) : UInt64 := (rollingHash body.toList).toUInt64

/-- The registry with a component's records: their bodies among the rules, their keys in its map. -/
def addRecords (hash : String → UInt64) (registry : Registry) (component : String)
    (records : List Record) : Registry where
  store := registry.store.internAll hash records
  components :=
    let known := (registry.components.get? component).getD ⟨"", ∅⟩
    registry.components.insert component { known with classes := known.classes.addRecords records }

/-- The registry with a class for a body, and the number of its rule. -/
def intern (hash : String → UInt64) (registry : Registry) (body className : String) :
    Registry × RuleId :=
  let (store, id) := registry.store.intern hash body className
  ({ registry with store }, id)

/-- The rules in the order their bodies were first seen. -/
def rules (registry : Registry) : List SharedRule := registry.store.rules

def stylesheet (registry : Registry) : String := SharedRule.sheet registry.rules

/-- The class maps of the components that have a class. -/
def classMaps (registry : Registry) : ClassMaps :=
  (registry.components.filter fun _ component => !component.classes.isEmpty).mapValues (·.classes)

end Registry
end StaticStyles
