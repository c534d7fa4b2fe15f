import Mathlib.Algebra.GroupWithZero.Nat
import StaticStyles.Proofs.StoredRules

/-!
The statistics of a rule store. Whatever hash its buckets go by, every body that is put in is counted once, as
stored or as stored already, with its bytes (`RuleStore.Accounts.internAll`).
-/
namespace StaticStyles.RuleStore
variable {hash : String → UInt64} {store : RuleStore} {records : List Record}

/-- The statistics of a store that some records were put into. -/
structure Accounts (records : List Record) (store : RuleStore) : Prop where
  total : store.stats.total = records.length
  unique : store.stats.unique = store.rules.length
  split : store.stats.total = store.stats.unique + store.stats.deduplicated
  stored : store.stats.bytesStored = (store.rules.map (·.body.utf8ByteSize)).sum
  bytes : store.stats.bytesStored + store.stats.bytesSaved = (records.map (·.body.utf8ByteSize)).sum

theorem accounts_empty : Accounts [] .empty := ⟨rfl, rfl, rfl, rfl, rfl⟩

namespace Accounts

/-- A body that is found is counted as stored already, and no rule changes its body. -/
theorem intern_of_found (accounts : store.Accounts records) (record : Record) {id : RuleId}
    (found : store.find? hash record.body = some id) :
    (store.intern hash record.body record.className).1.Accounts (records ++ [record]) := by
  have stats : (store.intern hash record.body record.className).1.stats =
      store.stats.reused record.body.utf8ByteSize := by
    simp only [intern, found]
  have length := length_intern_of_found hash found record.className
  have sizes : (store.intern hash record.body record.className).1.rules.map (·.body.utf8ByteSize) =
      store.rules.map (·.body.utf8ByteSize) := by
    simpa only [List.map_map, Function.comp_def] using
      congrArg (List.map String.utf8ByteSize) (bodies_intern_of_found hash found record.className)
  obtain ⟨total, unique, split, stored, bytes⟩ := accounts
  constructor
  · simp [stats, StoreStats.reused, total]
  · rw [length, stats]
    exact unique
  · simp only [stats, StoreStats.reused]
    omega
  · rw [sizes, stats]
    exact stored
  · simp only [stats, StoreStats.reused, List.map_append, List.map_singleton, List.sum_append, List.sum_singleton]
    omega

theorem intern_of_missing (accounts : store.Accounts records) (record : Record)
    (missing : store.find? hash record.body = none) :
    (store.intern hash record.body record.className).1.Accounts (records ++ [record]) := by
  have rules := rules_intern_of_missing hash missing record.className
  have stats : (store.intern hash record.body record.className).1.stats =
      store.stats.stored record.body.utf8ByteSize := by
    simp only [intern, missing]
  obtain ⟨total, unique, split, stored, bytes⟩ := accounts
  constructor
  · simp [stats, StoreStats.stored, total]
  · simp [rules, stats, StoreStats.stored, unique]
  · simp only [stats, StoreStats.stored]
    omega
  · simp [rules, stats, StoreStats.stored, stored]
  · simp only [stats, StoreStats.stored, List.map_append, List.map_singleton, List.sum_append, List.sum_singleton]
    omega

theorem intern (accounts : store.Accounts records) (record : Record) :
    (store.intern hash record.body record.className).1.Accounts (records ++ [record]) := by
  cases found : store.find? hash record.body with
  | some id => exact accounts.intern_of_found record found
  | none => exact accounts.intern_of_missing record found

theorem internAll (accounts : store.Accounts records) (more : List Record) :
    (store.internAll hash more).Accounts (records ++ more) := by
  induction more generalizing store records with
  | nil => rwa [List.append_nil]
  | cons record more ih =>
    rw [List.append_cons]
    exact ih (accounts.intern record)

end Accounts
end StaticStyles.RuleStore
