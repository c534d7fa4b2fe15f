import Std.Data.HashMap
import StaticStyles.Number.Binary64
import StaticStyles.Rule.Record

/-!
The rules of a build, each body once. A body is found through the bucket of its hash; bodies that share
a hash share a bucket, and are told apart by their text.
-/
namespace StaticStyles

/-- The number of a stored rule. -/
structure RuleId where
  index : UInt32
deriving DecidableEq, Repr

/-- How much deduplication has saved: the bodies put in, how many of them were stored and how many were there already,
and the bytes of both. -/
structure StoreStats where
  total : Nat
  unique : Nat
  deduplicated : Nat
  bytesStored : Nat
  bytesSaved : Nat
deriving DecidableEq, Repr

namespace StoreStats

def zero : StoreStats := ⟨0, 0, 0, 0, 0⟩

/-- The share of bodies that were stored already, in percent, as a stored double. -/
def deduplicationRate (stats : StoreStats) : UInt64 := Binary64.percent stats.deduplicated stats.total

/-- The share of bytes that were stored already, in percent, as a stored double. -/
def savingsRate (stats : StoreStats) : UInt64 :=
  Binary64.percent stats.bytesSaved (stats.bytesStored + stats.bytesSaved)

/-- One more body that was stored already. -/
def reused (stats : StoreStats) (bytes : Nat) : StoreStats :=
  { stats with
    total := stats.total + 1, deduplicated := stats.deduplicated + 1,
    bytesSaved := stats.bytesSaved + bytes }

/-- One more body that is stored now. -/
def stored (stats : StoreStats) (bytes : Nat) : StoreStats :=
  { stats with
    total := stats.total + 1, unique := stats.unique + 1, bytesStored := stats.bytesStored + bytes }

end StoreStats

/-- Rules in the order they were first seen, found by the hash of their body. -/
structure RuleStore where
  rules : List SharedRule
  buckets : Std.HashMap UInt64 (List RuleId)
  stats : StoreStats

namespace RuleStore

def empty : RuleStore := ⟨[], ∅, .zero⟩

instance : Inhabited RuleStore := ⟨empty⟩

def body? (store : RuleStore) (id : RuleId) : Option String :=
  (store.rules[id.index.toNat]?).map (·.body)

def find? (hash : String → UInt64) (store : RuleStore) (body : String) : Option RuleId :=
  (store.buckets.getD (hash body) []).find? fun id => store.body? id = some body

/-- The store with a class for a body, and the number of its rule. -/
def intern (hash : String → UInt64) (store : RuleStore) (body className : String) :
    RuleStore × RuleId :=
  match store.find? hash body with
  | some id =>
    ({ store with
        rules := store.rules.modify id.index.toNat (·.addClass className)
        stats := store.stats.reused body.utf8ByteSize }, id)
  | none =>
    let id : RuleId := ⟨UInt32.ofNat store.rules.length⟩
    let bucket := store.buckets.getD (hash body) []
    ({ rules := store.rules ++ [⟨[className], body⟩]
       buckets := store.buckets.insert (hash body) (bucket ++ [id])
       stats := store.stats.stored body.utf8ByteSize }, id)

/-- The store with the classes and bodies of records. -/
def internAll (hash : String → UInt64) (store : RuleStore) (records : List Record) : RuleStore :=
  records.foldl (fun store record => (store.intern hash record.body record.className).1) store

end RuleStore
end StaticStyles
