import Mathlib.Data.List.Nodup
import StaticStyles.Props.Combination
import StaticStyles.Proofs.SortedMap

/-!
Keys can be read back: the decoder of a key gives the pairs it was written from, by name
(`decode_canonicalKey`). So lists have one key exactly if they agree by name, and each combination has a
key of its own (`Combination.key_inj`).
-/
namespace StaticStyles.CanonicalKey

/-! ## Reading a key -/

/-- The parts of a key between its bare separators, the first one alone, the others each behind its
separator. What a backslash protects is taken as it is. -/
def parts : List Char → List Char × List (Char × List Char)
  | [] => ([], [])
  | '\\' :: c :: rest => (c :: (parts rest).1, (parts rest).2)
  | c :: rest =>
    if c = '|' || c = ':' then ([], (c, (parts rest).1) :: (parts rest).2)
    else (c :: (parts rest).1, (parts rest).2)

/-- Names and values in turn, as pairs. -/
def pairsOf : List Char → List (Char × List Char) → List (String × String)
  | _, [] => []
  | name, [(_, value)] => [(String.ofList name, String.ofList value)]
  | name, (_, value) :: (_, next) :: rest =>
    (String.ofList name, String.ofList value) :: pairsOf next rest

/-- The pairs that a key is written from. -/
def decode (key : List Char) : List (String × String) := pairsOf (parts key).1 (parts key).2

theorem parts_bare {c : Char} (plain : c ≠ '\\') (separator : c ≠ '|' ∧ c ≠ ':') (rest : List Char) :
    parts (c :: rest) = (c :: (parts rest).1, (parts rest).2) := by
  rw [parts]
  · simp [separator]
  · intro c' rest' same
    exact absurd same plain

theorem parts_separator {c : Char} (separator : c = '|' ∨ c = ':') (rest : List Char) :
    parts (c :: rest) = ([], (c, (parts rest).1) :: (parts rest).2) := by
  rcases separator with rfl | rfl <;> rfl

theorem parts_escape (part rest : List Char) :
    parts (escape part ++ rest) = (part ++ (parts rest).1, (parts rest).2) := by
  induction part with
  | nil => rfl
  | cons c part ih =>
    have step : escape (c :: part) ++ rest =
        (if c = '\\' || c = '|' || c = ':' then ['\\', c] else [c]) ++ (escape part ++ rest) := by
      simp [escape]
    rw [step]
    by_cases special : c = '\\' ∨ c = '|' ∨ c = ':'
    · have protects : (c = '\\' || c = '|' || c = ':') = true := by simpa [or_assoc] using special
      rw [if_pos protects]
      simp [parts, ih]
    · have bare : ¬ (c = '\\' || c = '|' || c = ':') = true := by simpa [or_assoc] using special
      rw [if_neg bare]
      have plain : c ≠ '\\' := fun h => special (.inl h)
      have other : c ≠ '|' ∧ c ≠ ':' := ⟨fun h => special (.inr (.inl h)), fun h => special (.inr (.inr h))⟩
      rw [List.singleton_append, parts_bare plain other, ih, List.cons_append]

theorem parts_encodePair (pair : String × String) (rest : List Char) :
    parts (encodePair pair ++ rest) =
      (pair.1.toList, (':', pair.2.toList ++ (parts rest).1) :: (parts rest).2) := by
  rw [encodePair, List.append_assoc, parts_escape, List.cons_append, parts_separator (.inr rfl), parts_escape]
  simp

theorem encode_cons_cons (pair next : String × String) (rest : List (String × String)) :
    encode (pair :: next :: rest) = encodePair pair ++ '|' :: encode (next :: rest) := by
  simp [encode, List.intercalate]

/-- The decoder undoes the encoding of any list of pairs. -/
theorem decode_encode (pairs : List (String × String)) : decode (encode pairs) = pairs := by
  induction pairs with
  | nil => rfl
  | cons pair rest ih =>
    cases rest with
    | nil =>
      have single : encode [pair] = encodePair pair ++ [] := by simp [encode, List.intercalate]
      rw [decode, single, parts_encodePair]
      simp [parts, pairsOf]
    | cons next rest =>
      rw [decode, encode_cons_cons, parts_encodePair, parts_separator (.inl rfl)]
      simpa [pairsOf, decode] using ih

/-! ## The order of the names -/

theorem sortByName_perm (pairs : List (String × String)) : (sortByName pairs).Perm pairs :=
  List.mergeSort_perm pairs _

private theorem byName_trans (a b c : String × String) (less : decide (a.1 ≤ b.1) = true)
    (more : decide (b.1 ≤ c.1) = true) : decide (a.1 ≤ c.1) = true :=
  decide_eq_true (String.le_trans (of_decide_eq_true less) (of_decide_eq_true more))

private theorem byName_total (a b : String × String) : (decide (a.1 ≤ b.1) || decide (b.1 ≤ a.1)) = true := by
  simpa using String.le_total a.1 b.1

theorem sortByName_ordered (pairs : List (String × String)) :
    (sortByName pairs).Pairwise fun a b => a.1 ≤ b.1 :=
  (List.pairwise_mergeSort byName_trans byName_total pairs).imp of_decide_eq_true

/-- The pairs of one name keep their order. -/
theorem filter_sortByName (pairs : List (String × String)) (name : String) :
    (sortByName pairs).filter (·.1 = name) = pairs.filter (·.1 = name) := by
  -- They are in order already, so they are also in the sorted list one after the other.
  have settled : (pairs.filter (·.1 = name)).Pairwise fun a b => decide (a.1 ≤ b.1) = true := by
    refine List.pairwise_of_forall_mem_list ?_
    intro a left b right
    have same : a.1 = b.1 := by
      rw [of_decide_eq_true (List.mem_filter.mp left).2, of_decide_eq_true (List.mem_filter.mp right).2]
    exact decide_eq_true (same ▸ String.le_refl a.1)
  have kept := (List.sublist_mergeSort byName_trans byName_total settled List.filter_sublist).filter (·.1 = name)
  rw [List.filter_filter] at kept
  simp only [Bool.and_self] at kept
  exact (kept.eq_of_length ((sortByName_perm pairs).filter _).length_eq.symm).symm

theorem sortByName_of_increasing {pairs : List (String × String)}
    (increasing : pairs.Pairwise fun a b => a.1 < b.1) : sortByName pairs = pairs := by
  refine List.mergeSort_of_pairwise (increasing.imp ?_)
  intro a b less
  exact decide_eq_true (Std.le_of_lt less)

/-- With different names, the order that pairs are given in is forgotten. -/
theorem sortByName_eq_of_perm {a b : List (String × String)} (perm : a.Perm b)
    (distinct : (a.map (·.1)).Nodup) : sortByName a = sortByName b := by
  refine List.Perm.eq_of_pairwise ?_ (sortByName_ordered a) (sortByName_ordered b) ?_
  · intro x y left right less more
    have inLeft : x ∈ a := (sortByName_perm a).mem_iff.mp left
    have inRight : y ∈ a := perm.mem_iff.mpr ((sortByName_perm b).mem_iff.mp right)
    exact List.inj_on_of_nodup_map distinct inLeft inRight (String.le_antisymm less more)
  · exact (sortByName_perm a).trans (perm.trans (sortByName_perm b).symm)

end StaticStyles.CanonicalKey

namespace StaticStyles
open CanonicalKey

/-- Decoding a key gives its pairs in the order of their names. -/
theorem decode_canonicalKey (pairs : List (String × String)) :
    decode (canonicalKey pairs).toList = sortByName pairs := by
  rw [canonicalKey, String.toList_ofList, decode_encode]

/-- Two lists have one key exactly if they agree once sorted by name. -/
theorem canonicalKey_eq_iff {a b : List (String × String)} :
    canonicalKey a = canonicalKey b ↔ sortByName a = sortByName b := by
  constructor
  · intro same
    rw [← decode_canonicalKey, same, decode_canonicalKey]
  · intro same
    rw [canonicalKey, canonicalKey, same]

namespace Combination

theorem decode_key (combination : Combination) : decode combination.key.toList = combination.entries := by
  rw [key, decode_canonicalKey, sortByName_of_increasing combination.increasing]

/-- Different combinations have different keys. -/
theorem key_inj {a b : Combination} : a.key = b.key ↔ a = b := by
  constructor
  · intro same
    apply SortedMap.ext_entries
    rw [← decode_key, same, decode_key]
  · rintro rfl
    rfl

end Combination
end StaticStyles
