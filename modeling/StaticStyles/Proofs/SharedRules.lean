import StaticStyles.Proofs.MergedRules

/-!
Buckets change nothing. Whatever hash its buckets go by, a store represents the rules of its records merged one
after the other (`RuleStore.represents_internAll_empty`): the rules that a machine word can number agree, and all
of them do if there are no more (`Represents.rules_eq`).
-/
namespace StaticStyles.RuleStore
variable {hash : String → UInt64} {store : RuleStore} {merged : List SharedRule}

/-! ## Buckets -/

/-- A store represents merged rules: up to the number of machine words the rules are the same, and each one's
number stands in the bucket of its body. Behind that a body may have more rules than one. -/
structure Represents (hash : String → UInt64) (merged : List SharedRule) (store : RuleStore) : Prop where
  bucketed : ∀ (index : Nat) (rule : SharedRule), index < UInt32.size → store.rules[index]? = some rule →
    (⟨UInt32.ofNat index⟩ : RuleId) ∈ store.buckets.getD (hash rule.body) []
  numbered : store.rules.take UInt32.size = merged.take UInt32.size
  distinct : (merged.map (·.body)).Nodup
  least : merged.length ≤ store.rules.length
  whole : store.rules.length ≤ UInt32.size ∨ UInt32.size < merged.length

theorem represents_empty (hash : String → UInt64) : Represents hash [] .empty where
  bucketed index rule _ stored := by simp [empty] at stored
  numbered := rfl
  distinct := .nil
  least := Nat.le_refl _
  whole := .inl (Nat.zero_le _)

namespace Represents

/-- If a machine word can number all rules of the store, they are the merged ones. -/
theorem rules_eq (represents : store.Represents hash merged) (few : store.rules.length ≤ UInt32.size) :
    store.rules = merged := by
  have agree := represents.numbered
  rwa [List.take_of_length_le few, List.take_of_length_le (Nat.le_trans represents.least few)] at agree

/-- If a machine word can number all merged rules, they are those of the store. -/
theorem rules_eq_of_merged (represents : store.Represents hash merged) (few : merged.length ≤ UInt32.size) :
    store.rules = merged := by
  rcases represents.whole with whole | many
  · exact represents.rules_eq whole
  · omega

theorem nodup_numbered (represents : store.Represents hash merged) :
    ((store.rules.take UInt32.size).map (·.body)).Nodup := by
  rw [represents.numbered]
  exact represents.distinct.sublist ((List.take_sublist _ _).map _)

theorem mem_numbered_of_getElem? {index : Nat} {rule : SharedRule} (numbers : index < UInt32.size)
    (stored : store.rules[index]? = some rule) : rule ∈ store.rules.take UInt32.size := by
  refine List.mem_of_getElem? (i := index) ?_
  rw [List.getElem?_take_of_lt numbers, stored]

/-- A body is not found exactly if none of the rules that have a number of their own has it. -/
theorem find?_eq_none_iff (represents : store.Represents hash merged) {body : String} :
    store.find? hash body = none ↔ ∀ rule ∈ store.rules.take UInt32.size, rule.body ≠ body := by
  rw [find?, List.find?_eq_none]
  constructor
  · intro missing rule member same
    obtain ⟨index, inside, rfl⟩ := List.mem_iff_getElem.mp member
    rw [List.length_take, Nat.lt_min] at inside
    obtain ⟨numbers, inside⟩ := inside
    rw [List.getElem_take] at same
    have stored : store.rules[index]? = some store.rules[index] := List.getElem?_eq_getElem inside
    have number : (UInt32.ofNat index).toNat = index := UInt32.toNat_ofNat_of_lt' numbers
    refine missing _ (same ▸ represents.bucketed index _ numbers stored) ?_
    simp [body?, number, stored, same]
  · intro fresh id _ has
    obtain ⟨rule, stored, same⟩ := Option.map_eq_some_iff.mp (of_decide_eq_true has)
    exact fresh rule (mem_numbered_of_getElem? id.index.toNat_lt stored) same

/-! ## Storing one class -/

/-- A class for a body that is found goes to the rule that the merged rules have for it. -/
theorem intern_of_found (represents : store.Represents hash merged) {body : String} {id : RuleId}
    (found : store.find? hash body = some id) (name : String) :
    (store.intern hash body name).1.Represents hash (SharedRule.add body name merged) := by
  obtain ⟨earlier, rule, later, split, same, number, rules⟩ := rules_intern_of_found hash found name
  have buckets : (store.intern hash body name).1.buckets = store.buckets := by
    simp only [RuleStore.intern, found]
  have bodies := bodies_intern_of_found hash found name
  have length := length_intern_of_found hash found name
  have inside : id.index.toNat < UInt32.size := id.index.toNat_lt
  obtain ⟨beyond, words⟩ : ∃ beyond, UInt32.size = earlier.length + (beyond + 1) :=
    ⟨UInt32.size - earlier.length - 1, by omega⟩
  have numbered : store.rules.take UInt32.size = earlier ++ rule :: later.take beyond := by
    rw [split, words, List.take_length_add_append, List.take_succ_cons]
  have known : body ∈ merged.map (·.body) := by
    refine List.mem_map.mpr ⟨rule, List.mem_of_mem_take (i := UInt32.size) ?_, same⟩
    rw [← represents.numbered, numbered]
    exact List.mem_append_right _ List.mem_cons_self
  refine ⟨?_, ?_, SharedRule.nodup_bodies_add represents.distinct, ?_, ?_⟩
  · intro index changed numbers stored
    have at_bodies := congrArg (Option.map SharedRule.body) stored
    rw [← List.getElem?_map, bodies, List.getElem?_map] at at_bodies
    obtain ⟨unchanged, before, equal⟩ := Option.map_eq_some_iff.mp at_bodies
    rw [buckets, ← equal]
    exact represents.bucketed index unchanged numbers before
  · -- The bodies differ, so the rule that the bucket leads to is the first one of the body.
    have distinct := represents.nodup_numbered
    rw [numbered, List.map_append, List.map_cons] at distinct
    have fresh : ∀ first ∈ earlier, first.body ≠ body := by
      intro first member
      rw [← same]
      exact (List.nodup_append.mp distinct).2.2 _ (List.mem_map_of_mem member) _ List.mem_cons_self
    rw [SharedRule.take_add, ← represents.numbered, numbered, SharedRule.add_of_first fresh same, rules, words,
      List.take_length_add_append, List.take_length_add_append, List.take_succ_cons, List.take_succ_cons,
      List.take_take, Nat.min_self]
  · rw [SharedRule.length_add, if_pos known, length]
    exact represents.least
  · rw [SharedRule.length_add, if_pos known, length]
    exact represents.whole

/-- If a machine word can number all rules, a body that is not found is new among the merged ones. -/
theorem not_mem_of_missing (represents : store.Represents hash merged) {body : String}
    (missing : store.find? hash body = none) (few : store.rules.length ≤ UInt32.size) :
    body ∉ merged.map (·.body) := by
  rw [← represents.rules_eq few, List.mem_map]
  rintro ⟨rule, member, has⟩
  have fresh := represents.find?_eq_none_iff.mp missing
  rw [List.take_of_length_le few] at fresh
  exact fresh rule member has

/-- The number of a rule at the end goes into the bucket of its body, and no other bucket changes. -/
theorem bucketed_of_missing (represents : store.Represents hash merged) {body : String}
    (missing : store.find? hash body = none) (name : String) {index : Nat} {rule : SharedRule}
    (numbers : index < UInt32.size) (stored : (store.intern hash body name).1.rules[index]? = some rule) :
    (⟨UInt32.ofNat index⟩ : RuleId) ∈ (store.intern hash body name).1.buckets.getD (hash rule.body) [] := by
  have bucket : (store.intern hash body name).1.buckets.getD (hash rule.body) [] =
      if hash body = hash rule.body then
        store.buckets.getD (hash body) [] ++ [⟨UInt32.ofNat store.rules.length⟩]
      else store.buckets.getD (hash rule.body) [] := by
    simp only [RuleStore.intern, missing, Std.HashMap.getD_insert, beq_iff_eq]
  rw [rules_intern_of_missing hash missing, List.getElem?_append] at stored
  rw [bucket]
  split at stored
  · have before := represents.bucketed index rule numbers stored
    by_cases shared : hash body = hash rule.body
    · rw [if_pos shared, shared]
      exact List.mem_append_left _ before
    · rwa [if_neg shared]
  · next outside =>
    obtain ⟨last, equal⟩ := List.getElem?_eq_some_iff.mp stored
    have at_end : index = store.rules.length := by
      rw [List.length_singleton] at last
      omega
    subst at_end
    simp only [Nat.sub_self, List.getElem_cons_zero] at equal
    rw [← equal, if_pos rfl]
    exact List.mem_append_right _ List.mem_cons_self

/-- A body that is not found gets a rule at the end; unless there are too many rules, so it does among the
merged ones. -/
theorem intern_of_missing (represents : store.Represents hash merged) {body : String}
    (missing : store.find? hash body = none) (name : String) :
    (store.intern hash body name).1.Represents hash (SharedRule.add body name merged) := by
  have fresh := represents.find?_eq_none_iff.mp missing
  have rules := rules_intern_of_missing hash missing name
  have added : (SharedRule.add body name merged).length =
      if body ∈ merged.map (·.body) then merged.length else merged.length + 1 := SharedRule.length_add body name merged
  refine ⟨?_, ?_, SharedRule.nodup_bodies_add represents.distinct, ?_, ?_⟩
  · intro index rule numbers stored
    exact represents.bucketed_of_missing missing name numbers stored
  · rw [SharedRule.take_add, ← represents.numbered, SharedRule.add_of_fresh fresh, rules]
    by_cases room : store.rules.length ≤ UInt32.size
    · rw [List.take_of_length_le room]
    · rw [List.take_append_of_le_length (by omega), List.take_append_of_le_length (by rw [List.length_take]; omega),
        List.take_take, Nat.min_self]
  · rw [added, rules, List.length_append, List.length_singleton]
    have least := represents.least
    split <;> omega
  · rw [added, rules, List.length_append, List.length_singleton]
    by_cases room : store.rules.length < UInt32.size
    · exact .inl room
    · -- All words are numbers of rules, so the body is new among the merged rules as well.
      refine .inr ?_
      rcases represents.whole with whole | many
      · rw [if_neg (represents.not_mem_of_missing missing whole), ← represents.rules_eq whole]
        omega
      · split <;> omega

theorem intern (represents : store.Represents hash merged) (body name : String) :
    (store.intern hash body name).1.Represents hash (SharedRule.add body name merged) := by
  cases found : store.find? hash body with
  | some id => exact represents.intern_of_found found name
  | none => exact represents.intern_of_missing found name

/-! ## Storing records -/

theorem internAll (represents : store.Represents hash merged) (records : List Record) :
    (store.internAll hash records).Represents hash
      (records.foldl (fun rules record => SharedRule.add record.body record.className rules) merged) := by
  induction records generalizing store merged with
  | nil => exact represents
  | cons record records ih => exact ih (represents.intern record.body record.className)

end Represents

/-- A store that was empty represents the merged rules of the records. -/
theorem represents_internAll_empty (hash : String → UInt64) (records : List Record) :
    (RuleStore.empty.internAll hash records).Represents hash (SharedRule.ofRecords records) :=
  (represents_empty hash).internAll records

theorem rules_internAll_empty {records : List Record}
    (few : (RuleStore.empty.internAll hash records).rules.length ≤ UInt32.size) :
    (RuleStore.empty.internAll hash records).rules = SharedRule.ofRecords records :=
  (represents_internAll_empty hash records).rules_eq few

theorem nodup_bodies_internAll {records : List Record}
    (few : (RuleStore.empty.internAll hash records).rules.length ≤ UInt32.size) :
    ((RuleStore.empty.internAll hash records).rules.map (·.body)).Nodup := by
  rw [rules_internAll_empty few]
  exact (represents_internAll_empty hash records).distinct

/-! ## How many rules there are -/

theorem length_le_intern (hash : String → UInt64) (store : RuleStore) (body name : String) :
    store.rules.length ≤ (store.intern hash body name).1.rules.length := by
  unfold intern
  cases store.find? hash body <;> simp

theorem length_le_internAll (hash : String → UInt64) (store : RuleStore) (records : List Record) :
    store.rules.length ≤ (store.internAll hash records).rules.length := by
  induction records generalizing store with
  | nil => exact Nat.le_refl _
  | cons record records ih =>
    exact Nat.le_trans (length_le_intern hash store record.body record.className) (ih _)

theorem length_intern_le (hash : String → UInt64) (store : RuleStore) (body name : String) :
    (store.intern hash body name).1.rules.length ≤ store.rules.length + 1 := by
  unfold intern
  cases store.find? hash body <;> simp

theorem length_internAll_le (hash : String → UInt64) (store : RuleStore) (records : List Record) :
    (store.internAll hash records).rules.length ≤ store.rules.length + records.length := by
  induction records generalizing store with
  | nil => exact Nat.le_refl _
  | cons record records ih =>
    have step : store.internAll hash (record :: records) =
        (store.intern hash record.body record.className).1.internAll hash records := rfl
    have first := length_intern_le hash store record.body record.className
    have others := ih (store.intern hash record.body record.className).1
    rw [step, List.length_cons]
    omega

end StaticStyles.RuleStore
