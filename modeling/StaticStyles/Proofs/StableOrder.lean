import StaticStyles.Proofs.CanonicalKey

/-!
What a key tells of its pairs. Decoding it gives the one list that has the pairs by name, those of one name as they
were given; so lists have one key exactly if they have one such order, and with different names exactly if they hold
the same pairs (`canonicalKey_tells_order`).
-/
namespace StaticStyles.CanonicalKey
variable {pairs ordered a b : List (String × String)}

/-- Pairs by name, those of one name in the order in which they were given. -/
structure IsStableOrder (pairs ordered : List (String × String)) : Prop where
  perm : ordered.Perm pairs
  increasing : ordered.Pairwise fun a b => a.1 ≤ b.1
  stable : ∀ name, ordered.filter (·.1 = name) = pairs.filter (·.1 = name)

theorem isStableOrder_sortByName (pairs : List (String × String)) : IsStableOrder pairs (sortByName pairs) where
  perm := sortByName_perm pairs
  increasing := sortByName_ordered pairs
  stable := filter_sortByName pairs

/-! ## There is one stable order -/

private theorem mem_iff_of_filter_eq (same : ∀ name, a.filter (·.1 = name) = b.filter (·.1 = name))
    (pair : String × String) : pair ∈ a ↔ pair ∈ b := by
  have listed : pair ∈ a.filter (·.1 = pair.1) ↔ pair ∈ b.filter (·.1 = pair.1) := by rw [same]
  simpa [List.mem_filter] using listed

/-- Lists in the order of their names are equal if they have the same pairs of each name, in the same order. -/
theorem eq_of_filter_eq (left : a.Pairwise fun a b => a.1 ≤ b.1) (right : b.Pairwise fun a b => a.1 ≤ b.1)
    (same : ∀ name, a.filter (·.1 = name) = b.filter (·.1 = name)) : a = b := by
  induction a generalizing b with
  | nil =>
    cases b with
    | nil => rfl
    | cons other b => exact absurd ((mem_iff_of_filter_eq same other).mpr List.mem_cons_self) List.not_mem_nil
  | cons first a ih =>
    cases b with
    | nil => exact absurd ((mem_iff_of_filter_eq same first).mp List.mem_cons_self) List.not_mem_nil
    | cons other b =>
      obtain ⟨least, ordered⟩ := List.pairwise_cons.mp left
      obtain ⟨least', ordered'⟩ := List.pairwise_cons.mp right
      -- Each of the two first names is the least of both lists.
      have less : other.1 ≤ first.1 := by
        rcases List.mem_cons.mp ((mem_iff_of_filter_eq same first).mp List.mem_cons_self) with rfl | member
        · exact String.le_refl _
        · exact least' first member
      have more : first.1 ≤ other.1 := by
        rcases List.mem_cons.mp ((mem_iff_of_filter_eq same other).mpr List.mem_cons_self) with rfl | member
        · exact String.le_refl _
        · exact least other member
      have named : other.1 = first.1 := String.le_antisymm less more
      have firsts := same first.1
      rw [List.filter_cons_of_pos (by simp), List.filter_cons_of_pos (by simp [named])] at firsts
      obtain ⟨rfl, _⟩ := List.cons.inj firsts
      have later (name : String) : a.filter (·.1 = name) = b.filter (·.1 = name) := by
        have whole := same name
        by_cases here : first.1 = name
        · rw [List.filter_cons_of_pos (by simp [here]), List.filter_cons_of_pos (by simp [here])] at whole
          exact (List.cons.inj whole).2
        · rwa [List.filter_cons_of_neg (by simp [here]), List.filter_cons_of_neg (by simp [here])] at whole
      rw [ih ordered ordered' later]

theorem isStableOrder_iff : IsStableOrder pairs ordered ↔ sortByName pairs = ordered := by
  constructor
  · intro order
    refine eq_of_filter_eq (sortByName_ordered pairs) order.increasing ?_
    intro name
    rw [filter_sortByName, order.stable]
  · rintro rfl
    exact isStableOrder_sortByName pairs

end StaticStyles.CanonicalKey

namespace StaticStyles
open CanonicalKey

/-- With different names, one key means the same pairs in any order. -/
theorem canonicalKey_eq_iff_perm {a b : List (String × String)} (distinct : (a.map (·.1)).Nodup) :
    canonicalKey a = canonicalKey b ↔ a.Perm b := by
  rw [canonicalKey_eq_iff]
  constructor
  · intro same
    exact (sortByName_perm a).symm.trans (same ▸ sortByName_perm b)
  · intro perm
    exact sortByName_eq_of_perm perm distinct

/-- The decoder gives the pairs of a key in their one stable order by name. So two lists have one key exactly if they
have one stable order; if the names of the first are different, exactly if the second is a permutation of it; and if
those of both are, exactly if no pair is in only one of them. -/
theorem canonicalKey_tells_order (a b : List (String × String)) :
    (∀ ordered, decode (canonicalKey a).toList = ordered ↔ IsStableOrder a ordered) ∧
      (canonicalKey a = canonicalKey b ↔ ∃ ordered, IsStableOrder a ordered ∧ IsStableOrder b ordered) ∧
      ((a.map (·.1)).Nodup →
        (canonicalKey a = canonicalKey b ↔ a.Perm b) ∧
          ((b.map (·.1)).Nodup → (canonicalKey a = canonicalKey b ↔ ∀ pair, pair ∈ a ↔ pair ∈ b))) := by
  refine ⟨?_, ?_, ?_⟩
  · intro ordered
    rw [decode_canonicalKey, isStableOrder_iff]
  · simp only [canonicalKey_eq_iff, isStableOrder_iff]
    exact ⟨fun same => ⟨_, same, rfl⟩, fun ⟨_, left, right⟩ => left.trans right.symm⟩
  · intro distinct
    refine ⟨canonicalKey_eq_iff_perm distinct, ?_⟩
    intro distinct'
    rw [canonicalKey_eq_iff_perm distinct]
    exact List.perm_ext_iff_of_nodup (List.Nodup.of_map _ distinct) (List.Nodup.of_map _ distinct')

/-- A repeated name, an empty name and value, and values that end in a backslash or spell another pair. -/
theorem canonicalKey_tells_order_repeated :
    let a := [("b", "x\\"), ("a", "|b:"), ("b", ""), ("", "y")]
    let b := [("b", ""), ("a", "|b:"), ("b", "x\\"), ("", "y")]
    IsStableOrder a [("", "y"), ("a", "|b:"), ("b", "x\\"), ("b", "")] ∧ canonicalKey a ≠ canonicalKey b ∧
      (a.tail.map (·.1)).Nodup ∧ canonicalKey a.tail = canonicalKey a.tail.reverse := by
  intro a b
  obtain ⟨decoded, same, _⟩ := canonicalKey_tells_order a b
  obtain ⟨_, _, permuted⟩ := canonicalKey_tells_order a.tail a.tail.reverse
  have distinct : (a.tail.map (·.1)).Nodup := by decide
  have sorted : sortByName a = [("", "y"), ("a", "|b:"), ("b", "x\\"), ("b", "")] := by
    simp [a, sortByName, List.mergeSort]
  refine ⟨(decoded _).mp (by rw [decode_canonicalKey, sorted]), ?_, distinct, ?_⟩
  · intro equal
    obtain ⟨ordered, left, right⟩ := same.mp equal
    exact absurd ((left.stable "b").symm.trans (right.stable "b")) (by decide)
  · exact (permuted distinct).1.mpr (List.reverse_perm _).symm

end StaticStyles
