import Mathlib.Data.List.Induction
import Mathlib.Data.List.Nodup
import StaticStyles.Proofs.StoredRules

/-!
Merging records without a store. The merged rules have the bodies of the records and, for each body, its
classes, both in the order they are first seen and without repetition (`SharedRule.merges_ofRecords`).
-/
namespace StaticStyles

/-! ## First occurrences -/

section
variable {α : Type} [DecidableEq α]

theorem eraseDups_concat (seen : List α) (last : α) :
    (seen ++ [last]).eraseDups = if last ∈ seen then seen.eraseDups else seen.eraseDups ++ [last] := by
  rw [List.eraseDups_append]
  by_cases known : last ∈ seen
  · simp [List.removeAll, known]
  · simp [List.removeAll, known, List.eraseDups_cons]

theorem nodup_eraseDups (list : List α) : list.eraseDups.Nodup := by
  induction list using List.reverseRecOn with
  | nil => exact .nil
  | append_singleton seen last ih =>
    rw [eraseDups_concat]
    by_cases known : last ∈ seen
    · rwa [if_pos known]
    · rw [if_neg known, List.nodup_append]
      refine ⟨ih, List.nodup_singleton _, ?_⟩
      rintro old before _ newest rfl
      rw [List.mem_singleton] at newest
      exact known (newest ▸ List.mem_eraseDups.mp before)

end

namespace SharedRule

/-! ## Adding one class -/

theorem add_of_fresh {body : String} {rules : List SharedRule} (fresh : ∀ rule ∈ rules, rule.body ≠ body)
    (name : String) : add body name rules = rules ++ [⟨[name], body⟩] := by
  induction rules with
  | nil => rfl
  | cons rule rest ih =>
    obtain ⟨different, fresh⟩ := List.forall_mem_cons.mp fresh
    rw [add, if_neg different, ih fresh]
    rfl

theorem add_of_first {body : String} {earlier later : List SharedRule} {rule : SharedRule}
    (fresh : ∀ other ∈ earlier, other.body ≠ body) (same : rule.body = body) (name : String) :
    add body name (earlier ++ rule :: later) = earlier ++ rule.addClass name :: later := by
  induction earlier with
  | nil => exact if_pos same
  | cons other rest ih =>
    obtain ⟨different, fresh⟩ := List.forall_mem_cons.mp fresh
    rw [List.cons_append, add, if_neg different, ih fresh]
    rfl

/-- An addition keeps the bodies, and puts a new one at the end. -/
theorem bodies_add (body name : String) (rules : List SharedRule) :
    (add body name rules).map (·.body) =
      if body ∈ rules.map (·.body) then rules.map (·.body) else rules.map (·.body) ++ [body] := by
  by_cases known : body ∈ rules.map (·.body)
  · rw [if_pos known]
    induction rules with
    | nil => contradiction
    | cons rule rest ih =>
      rw [add]
      by_cases same : rule.body = body
      · rw [if_pos same, List.map_cons, List.map_cons, addClass_body]
      · rw [if_neg same, List.map_cons, List.map_cons, ih ((List.mem_cons.mp known).resolve_left (Ne.symm same))]
  · have fresh : ∀ rule ∈ rules, rule.body ≠ body := by
      rintro rule member rfl
      exact known (List.mem_map_of_mem member)
    rw [if_neg known, add_of_fresh fresh, List.map_append, List.map_singleton]

theorem nodup_bodies_add {body name : String} {rules : List SharedRule} (distinct : (rules.map (·.body)).Nodup) :
    ((add body name rules).map (·.body)).Nodup := by
  rw [bodies_add]
  by_cases known : body ∈ rules.map (·.body)
  · rwa [if_pos known]
  · rw [if_neg known, ← List.concat_eq_append]
    exact distinct.concat known

theorem length_add (body name : String) (rules : List SharedRule) :
    (add body name rules).length = if body ∈ rules.map (·.body) then rules.length else rules.length + 1 := by
  rw [← List.length_map (·.body), bodies_add]
  split <;> simp

/-- What the first rules are after an addition depends on the first rules only. -/
theorem take_add (body name : String) (rules : List SharedRule) (n : Nat) :
    (add body name rules).take n = (add body name (rules.take n)).take n := by
  induction rules generalizing n with
  | nil => simp
  | cons rule rest ih =>
    cases n with
    | zero => rfl
    | succ n =>
      rw [List.take_succ_cons, add, add]
      by_cases same : rule.body = body
      · rw [if_pos same, if_pos same, List.take_succ_cons, List.take_succ_cons, List.take_take, Nat.min_self]
      · rw [if_neg same, if_neg same, List.take_succ_cons, List.take_succ_cons, ih]

/-! ## Merging records -/

/-- The classes that records have for a body, in the order they are first seen. -/
def classesOf (records : List Record) (body : String) : List String :=
  ((records.filter (·.body = body)).map (·.className)).eraseDups

/-- The rules of records: one for each body, in the order they are first seen, with the classes that the
records have for it. -/
structure Merges (records : List Record) (rules : List SharedRule) : Prop where
  bodies : rules.map (·.body) = (records.map (·.body)).eraseDups
  distinct : (rules.map (·.body)).Nodup
  classes : ∀ rule ∈ rules, rule.classes = classesOf records rule.body
  single : ∀ rule ∈ rules, rule.classes.Nodup

theorem classesOf_of_ne {last : Record} {body : String} (different : last.body ≠ body) (records : List Record) :
    classesOf (records ++ [last]) body = classesOf records body := by
  simp [classesOf, List.filter_append, different]

/-- One more record gives the rule of its body one more class. -/
theorem classesOf_concat (records : List Record) (last : Record) :
    (⟨classesOf (records ++ [last]) last.body, last.body⟩ : SharedRule) =
      addClass ⟨classesOf records last.body, last.body⟩ last.className := by
  have listed : (classesOf records last.body).contains last.className =
      decide (last.className ∈ (records.filter (·.body = last.body)).map (·.className)) := by
    rw [Bool.eq_iff_iff]
    simp [classesOf]
  have taken : ((records ++ [last]).filter (·.body = last.body)).map (·.className) =
      (records.filter (·.body = last.body)).map (·.className) ++ [last.className] := by
    simp [List.filter_append]
  rw [addClass, listed, classesOf, taken, eraseDups_concat]
  by_cases known : last.className ∈ (records.filter (·.body = last.body)).map (·.className)
  · rw [if_pos known, if_pos (by simpa using known)]
    rfl
  · rw [if_neg known, if_neg (by simpa using known)]
    rfl

theorem ofRecords_concat (records : List Record) (last : Record) :
    ofRecords (records ++ [last]) = add last.body last.className (ofRecords records) :=
  List.foldl_append

theorem ofRecords_eq (records : List Record) :
    ofRecords records = (records.map (·.body)).eraseDups.map fun body => ⟨classesOf records body, body⟩ := by
  induction records using List.reverseRecOn with
  | nil => rfl
  | append_singleton records last ih =>
    rw [ofRecords_concat, ih, List.map_append, List.map_singleton, eraseDups_concat]
    have others {bodies : List String} (fresh : last.body ∉ bodies) :
        bodies.map (fun body => (⟨classesOf (records ++ [last]) body, body⟩ : SharedRule)) =
          bodies.map fun body => ⟨classesOf records body, body⟩ := by
      refine List.map_congr_left ?_
      intro body member
      rw [classesOf_of_ne]
      rintro rfl
      exact fresh member
    have unlike {bodies : List String} (fresh : last.body ∉ bodies) :
        ∀ rule ∈ bodies.map fun body => (⟨classesOf records body, body⟩ : SharedRule), rule.body ≠ last.body := by
      intro rule member
      obtain ⟨body, listed, rfl⟩ := List.mem_map.mp member
      rintro rfl
      exact fresh listed
    by_cases known : last.body ∈ records.map (·.body)
    · obtain ⟨earlier, later, split⟩ := List.append_of_mem (List.mem_eraseDups.mpr known)
      have distinct := nodup_eraseDups (records.map (·.body))
      rw [split, List.nodup_append] at distinct
      have before : last.body ∉ earlier := fun member => distinct.2.2 _ member _ List.mem_cons_self rfl
      have behind : last.body ∉ later := (List.nodup_cons.mp distinct.2.1).1
      rw [if_pos known, split, List.map_append, List.map_cons, List.map_append, List.map_cons,
        add_of_first (unlike before) rfl, others before, others behind, classesOf_concat]
    · have new : last.body ∉ (records.map (·.body)).eraseDups := by rwa [List.mem_eraseDups]
      have unseen : classesOf records last.body = [] := by
        have none : records.filter (·.body = last.body) = [] := by
          refine List.filter_eq_nil_iff.mpr ?_
          intro record member same
          exact known (List.mem_map.mpr ⟨record, member, by simpa using same⟩)
        rw [classesOf, none]
        rfl
      rw [if_neg known, add_of_fresh (unlike new), List.map_append, others new, List.map_singleton,
        classesOf_concat, unseen]
      rfl

/-- Merging records gives each body once, and each class of a body once. -/
theorem merges_ofRecords (records : List Record) : Merges records (ofRecords records) := by
  have bodies : (ofRecords records).map (·.body) = (records.map (·.body)).eraseDups := by
    rw [ofRecords_eq, List.map_map]
    exact List.map_id _
  have classes : ∀ rule ∈ ofRecords records, rule.classes = classesOf records rule.body := by
    intro rule member
    rw [ofRecords_eq] at member
    obtain ⟨body, _, rfl⟩ := List.mem_map.mp member
    rfl
  refine ⟨bodies, ?_, classes, ?_⟩
  · rw [bodies]
    exact nodup_eraseDups _
  · intro rule member
    rw [classes rule member]
    exact nodup_eraseDups _

theorem length_ofRecords (records : List Record) :
    (ofRecords records).length = (records.map (·.body)).eraseDups.length := by
  rw [← (merges_ofRecords records).bodies, List.length_map]

end SharedRule
end StaticStyles
