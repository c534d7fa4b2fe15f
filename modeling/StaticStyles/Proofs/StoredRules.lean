import Mathlib.Data.List.Nodup
import StaticStyles.Registry.Store

/-!
What a rule store lists. Whatever hash its buckets go by, storing a class for a body adds that pair and
nothing else (`lists_intern`), so a store lists exactly the records put in (`lists_internAll`), and no
rule is without a class (`classes_ne_nil_internAll`).
-/
namespace StaticStyles

/-! ## Classes of one rule -/

theorem SharedRule.mem_addClass {rule : SharedRule} {name className : String} :
    className ∈ (rule.addClass name).classes ↔ className ∈ rule.classes ∨ className = name := by
  unfold addClass
  by_cases known : name ∈ rule.classes
  · rw [if_pos (by simpa using known)]
    constructor
    · exact .inl
    · rintro (h | rfl)
      · exact h
      · exact known
  · rw [if_neg (by simpa using known)]
    simp

theorem SharedRule.addClass_body (rule : SharedRule) (name : String) : (rule.addClass name).body = rule.body := by
  unfold addClass
  split <;> rfl

theorem SharedRule.nodup_addClass {rule : SharedRule} (nodup : rule.classes.Nodup) (name : String) :
    (rule.addClass name).classes.Nodup := by
  unfold addClass
  by_cases known : name ∈ rule.classes
  · rwa [if_pos (by simpa using known)]
  · rw [if_neg (by simpa using known), ← List.concat_eq_append]
    exact nodup.concat known

namespace RuleStore

/-- A rule of the store has the body and lists the class. -/
def Lists (store : RuleStore) (body className : String) : Prop :=
  ∃ rule ∈ store.rules, rule.body = body ∧ className ∈ rule.classes

variable (hash : String → UInt64)

/-! ## Storing one class -/

/-- A body that is found gives the class to the rule of its number, which has it. -/
theorem rules_intern_of_found {store : RuleStore} {body : String} {id : RuleId}
    (found : store.find? hash body = some id) (className : String) :
    ∃ earlier rule later, store.rules = earlier ++ rule :: later ∧ rule.body = body ∧
      earlier.length = id.index.toNat ∧
      (store.intern hash body className).1.rules = earlier ++ rule.addClass className :: later := by
  -- An id is only taken from a bucket if its rule has the body, so a bucket that several bodies
  -- share, or that holds a number twice, does no harm.
  have has : store.body? id = some body := by simpa using List.find?_some found
  obtain ⟨rule, stored, same⟩ := Option.map_eq_some_iff.mp has
  obtain ⟨inside, at_id⟩ := List.getElem?_eq_some_iff.mp stored
  obtain ⟨earlier, other, later, split, size, modified⟩ :=
    List.exists_of_modify (·.addClass className) inside
  have equal : other = rule := by
    rw [← at_id]
    simp [split, ← size]
  subst equal
  refine ⟨earlier, other, later, split, same, size, ?_⟩
  simp only [intern, found, modified]

theorem bodies_intern_of_found {store : RuleStore} {body : String} {id : RuleId}
    (found : store.find? hash body = some id) (className : String) :
    (store.intern hash body className).1.rules.map (·.body) = store.rules.map (·.body) := by
  obtain ⟨earlier, rule, later, before, _, _, after⟩ := rules_intern_of_found hash found className
  simp [after, before, SharedRule.addClass_body]

theorem length_intern_of_found {store : RuleStore} {body : String} {id : RuleId}
    (found : store.find? hash body = some id) (className : String) :
    (store.intern hash body className).1.rules.length = store.rules.length := by
  simpa using congrArg List.length (bodies_intern_of_found hash found className)

/-- A body that is not found gets a rule at the end. -/
theorem rules_intern_of_missing {store : RuleStore} {body : String} (missing : store.find? hash body = none)
    (className : String) : (store.intern hash body className).1.rules = store.rules ++ [⟨[className], body⟩] := by
  simp only [intern, missing]

/-- The two ways in which a class is stored: one of the rules has the body and gets the class, or a rule
of the body is new at the end. -/
theorem rules_intern (store : RuleStore) (body className : String) :
    (∃ earlier rule later, store.rules = earlier ++ rule :: later ∧ rule.body = body ∧
      (store.intern hash body className).1.rules = earlier ++ rule.addClass className :: later) ∨
    (store.intern hash body className).1.rules = store.rules ++ [⟨[className], body⟩] := by
  cases found : store.find? hash body with
  | none => exact .inr (rules_intern_of_missing hash found className)
  | some id =>
    obtain ⟨earlier, rule, later, before, same, _, after⟩ := rules_intern_of_found hash found className
    exact .inl ⟨earlier, rule, later, before, same, after⟩

theorem lists_intern {store : RuleStore} {body className otherBody other : String} :
    (store.intern hash body className).1.Lists otherBody other ↔
      store.Lists otherBody other ∨ (otherBody = body ∧ other = className) := by
  rcases rules_intern hash store body className with
    ⟨earlier, rule, later, before, same, after⟩ | after
  · simp only [Lists, before, after, List.mem_append, List.mem_cons, or_and_right, exists_or, exists_eq_left,
      SharedRule.mem_addClass, SharedRule.addClass_body, same]
    constructor
    · rintro (h | ⟨rfl, h | rfl⟩ | h)
      · exact .inl (.inl h)
      · exact .inl (.inr (.inl ⟨rfl, h⟩))
      · exact .inr ⟨rfl, rfl⟩
      · exact .inl (.inr (.inr h))
    · rintro ((h | ⟨rfl, h⟩ | h) | ⟨rfl, rfl⟩)
      · exact .inl h
      · exact .inr (.inl ⟨rfl, .inl h⟩)
      · exact .inr (.inr h)
      · exact .inr (.inl ⟨rfl, .inr rfl⟩)
  · simp only [Lists, after, List.mem_append, List.mem_singleton, or_and_right, exists_or, exists_eq_left]
    exact or_congr_right (and_congr_left' eq_comm)

/-- What holds of new rules, and is kept by one more class, holds of all rules. -/
theorem forall_rules_intern {store : RuleStore} {holds : SharedRule → Prop}
    (new : ∀ body className, holds ⟨[className], body⟩)
    (kept : ∀ rule className, holds rule → holds (rule.addClass className))
    (before : ∀ rule ∈ store.rules, holds rule) (body className : String) :
    ∀ rule ∈ (store.intern hash body className).1.rules, holds rule := by
  intro rule member
  rcases rules_intern hash store body className with
    ⟨earlier, changed, later, split, _, after⟩ | after
  · rw [split] at before
    rw [after] at member
    rcases List.mem_append.mp member with h | h
    · exact before rule (List.mem_append_left _ h)
    · rcases List.mem_cons.mp h with rfl | h
      · exact kept changed className (before changed (List.mem_append_right _ List.mem_cons_self))
      · exact before rule (List.mem_append_right _ (List.mem_cons_of_mem _ h))
  · rw [after] at member
    rcases List.mem_append.mp member with h | h
    · exact before rule h
    · rw [List.mem_singleton.mp h]
      exact new body className

/-! ## Storing records -/

theorem internAll_append (store : RuleStore) (records more : List Record) :
    store.internAll hash (records ++ more) = (store.internAll hash records).internAll hash more :=
  List.foldl_append

/-- A store lists what it listed before and the records that are put in. -/
theorem lists_internAll {store : RuleStore} {records : List Record} {body className : String} :
    (store.internAll hash records).Lists body className ↔
      store.Lists body className ∨ ∃ record ∈ records, record.body = body ∧ record.className = className := by
  induction records generalizing store with
  | nil => simp [internAll]
  | cons record records ih =>
    have step : store.internAll hash (record :: records) =
        (store.intern hash record.body record.className).1.internAll hash records := rfl
    rw [step, ih, lists_intern, or_assoc]
    simp [eq_comm]

theorem forall_rules_internAll {store : RuleStore} {holds : SharedRule → Prop}
    (new : ∀ body className, holds ⟨[className], body⟩)
    (kept : ∀ rule className, holds rule → holds (rule.addClass className))
    (before : ∀ rule ∈ store.rules, holds rule) (records : List Record) :
    ∀ rule ∈ (store.internAll hash records).rules, holds rule := by
  induction records generalizing store with
  | nil => exact before
  | cons record records ih => exact ih (forall_rules_intern hash new kept before _ _)

theorem classes_ne_nil_internAll {store : RuleStore} (some_class : ∀ rule ∈ store.rules, rule.classes ≠ [])
    (records : List Record) : ∀ rule ∈ (store.internAll hash records).rules, rule.classes ≠ [] := by
  refine forall_rules_internAll hash ?_ ?_ some_class records
  · intro body className
    exact List.cons_ne_nil _ _
  · intro rule className _
    exact List.ne_nil_of_mem (SharedRule.mem_addClass.mpr (.inr rfl))

theorem nodup_classes_internAll {store : RuleStore} (single : ∀ rule ∈ store.rules, rule.classes.Nodup)
    (records : List Record) : ∀ rule ∈ (store.internAll hash records).rules, rule.classes.Nodup := by
  refine forall_rules_internAll hash ?_ ?_ single records
  · intro body className
    exact List.nodup_singleton _
  · intro rule className nodup
    exact SharedRule.nodup_addClass nodup className

theorem lists_internAll_empty {records : List Record} {body className : String} :
    (RuleStore.empty.internAll hash records).Lists body className ↔
      ∃ record ∈ records, record.body = body ∧ record.className = className := by
  rw [lists_internAll]
  simp [Lists, empty]

end RuleStore
end StaticStyles
