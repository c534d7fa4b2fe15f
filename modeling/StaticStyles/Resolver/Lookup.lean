import StaticStyles.Number.Binary64
import StaticStyles.Resolver.ClassMap

/-!
Looking up the class of live props. A resolver that has no map is degraded and never finds one; each
resolver counts its own lookups.
-/
namespace StaticStyles

/-- Props that say nothing about style, and are no part of a key. -/
def internalProps : List String := ["children", "key", "ref", "className", "style", "theme"]

/-- The text of a prop's value: a text itself, anything else as JSON. -/
def propText : Json.Value → String
  | .text value => value
  | value => value.compact

/-- The props of an object that take part in its key, as text. -/
def keyedProps (members : List (String × Json.Value)) : List (String × String) :=
  (members.filter fun (name, value) => !value.isNull && !internalProps.contains name).map
    fun (name, value) => (name, propText value)

/-- The key of props; only an object has one. -/
def propsKey? (props : Json.Value) : Option String :=
  props.members?.map fun members => canonicalKey (keyedProps members)

/-- The lookups of a resolver so far. -/
structure LookupStats where
  hits : Nat
  misses : Nat
deriving DecidableEq, Repr

namespace LookupStats

def zero : LookupStats := ⟨0, 0⟩

def total (stats : LookupStats) : Nat := stats.hits + stats.misses

/-- The share of hits in percent, as a stored double. -/
def hitRate (stats : LookupStats) : UInt64 := Binary64.percent stats.hits stats.total

/-- One more lookup. -/
def count (stats : LookupStats) (found : Bool) : LookupStats :=
  if found then { stats with hits := stats.hits + 1 } else { stats with misses := stats.misses + 1 }

end LookupStats

/-- A component's map, if there is one, and what has been looked up in it. With the fallback, props without a class
are reported as needing styles while the program runs. -/
structure Resolver where
  map : Option ClassMap
  dynamicFallback : Bool
  stats : LookupStats
deriving DecidableEq

namespace Resolver

/-- A resolver over a map; without one it is degraded. -/
def ofMap (map : Option ClassMap) : Resolver := ⟨map, true, .zero⟩

/-- A resolver over a persisted map; it is degraded if the map cannot be used. -/
def ofJson (text : String) : Resolver :=
  match ClassMap.ofJson text with
  | .ok map => ofMap (some map)
  | .error _ => ofMap none

def isDegraded (resolver : Resolver) : Bool := resolver.map.isNone

/-- The class of props, whatever has been looked up before. -/
def class? (resolver : Resolver) (props : Json.Value) : Option String := do
  let map ← resolver.map
  let key ← propsKey? props
  map.get? key

/-- The class of props, counted. -/
def resolve (resolver : Resolver) (props : Json.Value) : Option String × Resolver :=
  let found := resolver.class? props
  (found, { resolver with stats := resolver.stats.count found.isSome })

/-- Whether styles must be computed while the program runs; it is a lookup and counted. -/
def needsRuntime (resolver : Resolver) (props : Json.Value) : Bool × Resolver :=
  let (found, resolver) := resolver.resolve props
  (found.isNone && resolver.dynamicFallback, resolver)

def reset (resolver : Resolver) : Resolver := { resolver with stats := .zero }

end Resolver
end StaticStyles
