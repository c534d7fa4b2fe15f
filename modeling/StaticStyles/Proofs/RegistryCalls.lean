import StaticStyles.Proofs.SharedRules
import StaticStyles.Registry.Components

/-!
Calls of a registry. Whatever hash it buckets bodies by, its rules are those of all records that it was given,
merged one after the other, and the number that a body gets stays that of the body (`Registry.refines_merge`).
Rules are numbered by machine words, so both need that there are no more bodies than words; up to there the rules
agree in any case.
-/
namespace StaticStyles

/-! ## Numbers of rules -/

namespace RuleStore
variable {hash : String → UInt64} {store : RuleStore} {merged : List SharedRule} {id other : RuleId}
  {body : String}

theorem body?_eq (store : RuleStore) (id : RuleId) : store.body? id = (store.rules.map (·.body))[id.index.toNat]? := by
  rw [body?, List.getElem?_map]

/-- Storing a class leaves the bodies of all numbers as they are. -/
theorem body?_intern (numbered : store.body? id = some body) (otherBody name : String) :
    (store.intern hash otherBody name).1.body? id = some body := by
  rw [body?_eq] at numbered ⊢
  rcases rules_intern hash store otherBody name with ⟨earlier, rule, later, before, _, after⟩ | after
  · rw [before] at numbered
    rw [after]
    simpa [SharedRule.addClass_body] using numbered
  · rw [after, List.map_append]
    exact List.getElem?_append_left (List.getElem?_eq_some_iff.mp numbered).1 ▸ numbered

theorem body?_internAll (numbered : store.body? id = some body) (records : List Record) :
    (store.internAll hash records).body? id = some body := by
  induction records generalizing store with
  | nil => exact numbered
  | cons record records ih => exact ih (body?_intern numbered _ _)

/-- The number that is answered for a body is a number of the body. -/
theorem body?_intern_self {name : String}
    (few : (store.intern hash body name).1.rules.length ≤ UInt32.size) :
    (store.intern hash body name).1.body? (store.intern hash body name).2 = some body := by
  cases found : store.find? hash body with
  | some id =>
    have has : store.body? id = some body := by simpa using List.find?_some found
    have answered : (store.intern hash body name).2 = id := by simp only [intern, found]
    rw [answered]
    exact body?_intern has body name
  | none =>
    have rules : (store.intern hash body name).1.rules = store.rules ++ [⟨[name], body⟩] := by
      simp only [intern, found]
    have answered : (store.intern hash body name).2 = ⟨UInt32.ofNat store.rules.length⟩ := by
      simp only [intern, found]
    rw [rules, List.length_append, List.length_singleton] at few
    have number : (UInt32.ofNat store.rules.length).toNat = store.rules.length :=
      UInt32.toNat_ofNat_of_lt' (by omega)
    rw [body?, rules, answered, number]
    simp

/-- No body has two numbers. -/
theorem Represents.eq_of_body? (represents : store.Represents hash merged) (left : store.body? id = some body)
    (right : store.body? other = some body) : id = other := by
  have at_number {id : RuleId} (numbered : store.body? id = some body) :
      ((store.rules.take UInt32.size).map (·.body))[id.index.toNat]? = some body := by
    rw [List.map_take, List.getElem?_take_of_lt id.index.toNat_lt, ← body?_eq]
    exact numbered
  obtain ⟨inside, _⟩ := List.getElem?_eq_some_iff.mp (at_number left)
  have same := (List.getElem?_inj inside represents.nodup_numbered).mp
    ((at_number left).trans (at_number right).symm)
  cases id
  cases other
  exact congrArg RuleId.mk (UInt32.toNat_inj.mp same)

/-- A body that has a number already gets it again, and no other body gets it. -/
theorem Represents.number_eq_iff (represents : store.Represents hash merged) (numbered : store.body? id = some body)
    {otherBody name : String} (few : (store.intern hash otherBody name).1.rules.length ≤ UInt32.size) :
    (store.intern hash otherBody name).2 = id ↔ otherBody = body := by
  have kept : (store.intern hash otherBody name).1.body? id = some body := body?_intern numbered otherBody name
  have answered := body?_intern_self few
  constructor
  · rintro rfl
    exact Option.some.inj (answered.symm.trans kept)
  · rintro rfl
    exact (represents.intern otherBody name).eq_of_body? answered kept

end RuleStore

/-! ## Calls -/

namespace Registry

/-- What is asked of a registry: to take the name of a declaration's component, to take the records of a component, or
to store one body under a class. -/
inductive Call where
  | register (declaration : Declaration)
  | add (component : String) (records : List Record)
  | intern (body className : String)

/-- The records that a call brings; a body on its own counts as one of no combination. -/
def Call.records : Call → List Record
  | .register _ => []
  | .add _ records => records
  | .intern body className => [⟨∅, className, body, "", ""⟩]

/-- The registry after a call. A name that cannot be taken changes nothing. -/
def afterCall (hash : String → UInt64) (registry : Registry) : Call → Registry
  | .register declaration =>
    match registry.register declaration with
    | .new after => after
    | .known => registry
    | .refused _ => registry
  | .add component records => registry.addRecords hash component records
  | .intern body className => (registry.intern hash body className).1

def afterCalls (hash : String → UInt64) (registry : Registry) (calls : List Call) : Registry :=
  calls.foldl (afterCall hash) registry

theorem store_afterCall (hash : String → UInt64) (registry : Registry) (call : Call) :
    (registry.afterCall hash call).store = registry.store.internAll hash call.records := by
  cases call with
  | register declaration =>
    have kept : ∀ after, registry.register declaration = .new after → after.store = registry.store := by
      intro after taken
      simp only [register] at taken
      split at taken
      · split at taken <;> contradiction
      · split at taken
        · contradiction
        · obtain rfl := Registration.new.inj taken
          rfl
    rw [afterCall]
    split
    · next after taken => exact kept after taken
    · rfl
    · rfl
  | add component records => rfl
  | intern body className => rfl

/-- The rules depend on the records only that the calls bring. -/
theorem store_afterCalls (hash : String → UInt64) (registry : Registry) (calls : List Call) :
    (registry.afterCalls hash calls).store = registry.store.internAll hash (calls.flatMap Call.records) := by
  induction calls generalizing registry with
  | nil => rfl
  | cons call calls ih =>
    have step : registry.afterCalls hash (call :: calls) = (registry.afterCall hash call).afterCalls hash calls := rfl
    rw [step, ih, store_afterCall, List.flatMap_cons, RuleStore.internAll_append]

theorem store_afterCalls_empty (hash : String → UInt64) (calls : List Call) :
    (Registry.empty.afterCalls hash calls).store =
      RuleStore.empty.internAll hash (calls.flatMap Call.records) :=
  store_afterCalls hash .empty calls

/-- After any calls the rules of a registry refine the merged rules of all records: each body once and each class
of a body once, in the order they are first seen, as long as there are no more bodies than machine words. The
number that a body gets stays its own: it is answered for the body again, for no other body, and gives the body in
every later state. -/
theorem refines_merge (hash : String → UInt64) (calls : List Call) :
    let registry := Registry.empty.afterCalls hash calls
    let records := calls.flatMap Call.records
    SharedRule.Merges records (SharedRule.ofRecords records) ∧
    registry.rules.take UInt32.size = (SharedRule.ofRecords records).take UInt32.size ∧
    ((records.map (·.body)).eraseDups.length ≤ UInt32.size → registry.rules = SharedRule.ofRecords records) ∧
    (∀ rule ∈ registry.rules, rule.classes.Nodup) ∧
    (∀ body className, (∃ rule ∈ registry.rules, rule.body = body ∧ className ∈ rule.classes) ↔
      ∃ record ∈ records, record.body = body ∧ record.className = className) ∧
    ∀ (body className : String) (between : List Call) (other otherName : String),
      let first := registry.intern hash body className
      let second := (first.1.afterCalls hash between).intern hash other otherName
      (first.1.rules.length ≤ UInt32.size →
        ∀ later, (first.1.afterCalls hash later).store.body? first.2 = some body) ∧
      (second.1.rules.length ≤ UInt32.size → (second.2 = first.2 ↔ other = body)) := by
  intro registry records
  have stored : registry.store = RuleStore.empty.internAll hash records := store_afterCalls_empty hash calls
  have represents : registry.store.Represents hash (SharedRule.ofRecords records) := by
    rw [stored]
    exact RuleStore.represents_internAll_empty hash records
  refine ⟨SharedRule.merges_ofRecords records, represents.numbered, ?_, ?_, ?_, ?_⟩
  · intro few
    rw [← SharedRule.length_ofRecords] at few
    exact represents.rules_eq_of_merged few
  · rw [rules, stored]
    exact RuleStore.nodup_classes_internAll hash (fun rule member => absurd member List.not_mem_nil) records
  · intro body className
    rw [rules, stored]
    exact RuleStore.lists_internAll_empty hash
  · intro body className between other otherName first second
    have kept (later : List Call) : (first.1.afterCalls hash later).store =
        first.1.store.internAll hash (later.flatMap Call.records) := store_afterCalls hash first.1 later
    constructor
    · intro few later
      rw [kept]
      exact RuleStore.body?_internAll (RuleStore.body?_intern_self few) _
    · intro few
      have few : ((first.1.afterCalls hash between).store.intern hash other otherName).1.rules.length ≤
          UInt32.size := few
      have grown : first.1.rules.length ≤ UInt32.size := by
        refine Nat.le_trans ?_ (Nat.le_trans (RuleStore.length_le_intern hash _ other otherName) few)
        rw [kept]
        exact RuleStore.length_le_internAll hash _ _
      have numbered : (first.1.afterCalls hash between).store.body? first.2 = some body := by
        rw [kept]
        exact RuleStore.body?_internAll (RuleStore.body?_intern_self grown) _
      obtain ⟨merged, still⟩ : ∃ merged, (first.1.afterCalls hash between).store.Represents hash merged := by
        rw [kept]
        exact ⟨_, (represents.intern body className).internAll _⟩
      exact still.number_eq_iff numbered few

/-- All bodies in one bucket: a body that two components share has one rule, and its number stays apart from that
of a later one. -/
theorem refines_merge_colliding :
    let hash : String → UInt64 := fun _ => 0
    let tag : List Record := [⟨∅, "tag", "color: red;", "", ""⟩, ⟨∅, "tag_on-true", "color: tan;", "", ""⟩]
    let box : List Record := [⟨∅, "box", "color: tan;", "", ""⟩]
    let calls : List Call := [.register (.ofBody "Tag" none "color: red;"), .add "Tag" tag, .add "Box" box]
    let registry := Registry.empty.afterCalls hash calls
    let first := registry.intern hash "top: 0;" "box"
    let second := (first.1.afterCalls hash [.add "Tag" tag]).intern hash "color: tan;" "link"
    ((tag ++ box).map (·.body)).eraseDups.length ≤ UInt32.size ∧ first.1.rules.length ≤ UInt32.size ∧
      second.1.rules.length ≤ UInt32.size ∧
      registry.rules = [⟨["tag"], "color: red;"⟩, ⟨["tag_on-true", "box"], "color: tan;"⟩] ∧
      (first.1.afterCalls hash [.add "Tag" tag]).store.body? first.2 = some "top: 0;" ∧ second.2 ≠ first.2 := by
  intro hash tag box calls registry first second
  have few : ((tag ++ box).map (·.body)).eraseDups.length ≤ UInt32.size := by decide
  have room : first.1.rules.length ≤ UInt32.size := by decide +kernel
  have more : second.1.rules.length ≤ UInt32.size := by decide +kernel
  obtain ⟨_, _, rules, _, _, numbers⟩ := refines_merge hash calls
  obtain ⟨kept, apart⟩ := numbers "top: 0;" "box" [.add "Tag" tag] "color: tan;" "link"
  refine ⟨few, room, more, rules few, kept room _, ?_⟩
  intro same
  exact absurd ((apart more).mp same) (by decide)

end Registry
end StaticStyles
