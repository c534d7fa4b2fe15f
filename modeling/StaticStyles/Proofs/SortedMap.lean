import Mathlib.Data.List.Nodup
import StaticStyles.SortedMap

/-!
Laws of sorted maps. A map is determined by its look-ups (`ext_get?`), and the look-ups of a map that
was made from entries tell the last entry of each key (`get?_insertAll`).
-/
namespace StaticStyles.SortedMap
variable {β γ : Type}

/-! ## Look-ups and entries -/

theorem nodup_keys (map : SortedMap β) : map.keys.Nodup := by
  refine List.pairwise_map.mpr (map.increasing.imp ?_)
  intro a b less same
  exact String.lt_irrefl _ (same ▸ less)

theorem mem_keys_iff {map : SortedMap β} {key : String} :
    key ∈ map.keys ↔ ∃ value, (key, value) ∈ map.entries := by
  simp [keys]

private theorem value_unique {map : SortedMap β} {key : String} {a b : β} (left : (key, a) ∈ map.entries)
    (right : (key, b) ∈ map.entries) : a = b := by
  obtain ⟨entries, increasing⟩ := map
  induction entries with
  | nil => simp at left
  | cons first rest ih =>
    obtain ⟨least, tail⟩ := List.pairwise_cons.mp increasing
    rcases List.mem_cons.mp left with rfl | left <;> rcases List.mem_cons.mp right with same | right
    · exact (congrArg Prod.snd same).symm
    · exact absurd (least _ right) (String.lt_irrefl _)
    · exact absurd (least _ left) (by rw [← same]; exact String.lt_irrefl _)
    · exact ih tail left right

/-- The look-ups of a map are its entries. -/
theorem get?_eq_some_iff {map : SortedMap β} {key : String} {value : β} :
    map.get? key = some value ↔ (key, value) ∈ map.entries := by
  constructor
  · intro found
    obtain ⟨entry, at_key, rfl⟩ := Option.map_eq_some_iff.mp found
    have same : entry.1 = key := by simpa using List.find?_some at_key
    exact same ▸ List.mem_of_find?_eq_some at_key
  · intro member
    cases found : map.entries.find? (fun entry => entry.1 = key) with
    | none => simpa using List.find?_eq_none.mp found _ member
    | some entry =>
      have same : entry.1 = key := by simpa using List.find?_some found
      have present : (key, entry.2) ∈ map.entries := same ▸ List.mem_of_find?_eq_some found
      simp [get?, found, value_unique present member]

theorem get?_isSome_iff {map : SortedMap β} {key : String} : (map.get? key).isSome ↔ key ∈ map.keys := by
  rw [mem_keys_iff, Option.isSome_iff_exists]
  simp only [get?_eq_some_iff]

theorem get?_eq_none_iff {map : SortedMap β} {key : String} : map.get? key = none ↔ key ∉ map.keys := by
  rw [← get?_isSome_iff]
  simp

/-- Maps with the same look-ups are equal. -/
theorem ext_get? {a b : SortedMap β} (same : ∀ key, a.get? key = b.get? key) : a = b := by
  have members (entry : String × β) : entry ∈ a.entries ↔ entry ∈ b.entries := by
    rw [← get?_eq_some_iff, ← get?_eq_some_iff, same]
  have distinct (map : SortedMap β) : map.entries.Nodup :=
    List.Nodup.of_map _ (nodup_keys map)
  apply ext_entries
  refine List.Perm.eq_of_pairwise ?_ a.increasing b.increasing ?_
  · intro x y _ _ less more
    exact absurd (String.lt_trans less more) (String.lt_irrefl _)
  · exact (List.perm_ext_iff_of_nodup (distinct a) (distinct b)).mpr members

theorem insert_insert (map : SortedMap β) (key : String) (first second : β) :
    (map.insert key first).insert key second = map.insert key second := by
  apply ext_get?
  intro other
  simp only [get?_insert]
  by_cases same : key = other <;> simp [same]

/-! ## Maps made from entries -/

/-- After entries have been put in, a key has the value of its last entry, or the one it had before. -/
theorem get?_insertAll (map : SortedMap β) (entries : List (String × β)) (key : String) :
    (map.insertAll entries).get? key =
      ((entries.reverse.find? fun entry => entry.1 = key).map (·.2)).or (map.get? key) := by
  induction entries generalizing map with
  | nil => simp [insertAll]
  | cons first rest ih =>
    have step : map.insertAll (first :: rest) = (map.insert first.1 first.2).insertAll rest := rfl
    rw [step, ih, get?_insert, List.reverse_cons, List.find?_append]
    cases rest.reverse.find? (fun entry => entry.1 = key) with
    | some entry => simp
    | none => by_cases same : first.1 = key <;> simp [same]

theorem get?_ofList (entries : List (String × β)) (key : String) :
    (ofList entries).get? key = (entries.reverse.find? fun entry => entry.1 = key).map (·.2) := by
  rw [ofList, get?_insertAll, get?_empty, Option.or_none]

/-- Among entries with different keys, each is a look-up of their map. -/
theorem get?_ofList_eq_some_iff {entries : List (String × β)} (distinct : (entries.map (·.1)).Nodup)
    {key : String} {value : β} : (ofList entries).get? key = some value ↔ (key, value) ∈ entries := by
  rw [get?_ofList]
  constructor
  · intro found
    obtain ⟨entry, at_key, rfl⟩ := Option.map_eq_some_iff.mp found
    have same : entry.1 = key := by simpa using List.find?_some at_key
    have member := List.mem_reverse.mp (List.mem_of_find?_eq_some at_key)
    exact same ▸ member
  · intro member
    cases found : entries.reverse.find? (fun entry => entry.1 = key) with
    | none => simpa using List.find?_eq_none.mp found _ (List.mem_reverse.mpr member)
    | some entry =>
      have same : entry.1 = key := by simpa using List.find?_some found
      have present := List.mem_reverse.mp (List.mem_of_find?_eq_some found)
      have equal : entry = (key, value) :=
        List.inj_on_of_nodup_map distinct present member same
      simp [equal]

/-- The entries of a map, put in any order, give the map. -/
theorem ofList_eq_of_perm {map : SortedMap β} {entries : List (String × β)} (same : entries.Perm map.entries) :
    ofList entries = map := by
  have distinct : (entries.map (·.1)).Nodup := (same.map _).nodup_iff.mpr (nodup_keys map)
  apply ext_get?
  intro key
  apply Option.ext
  intro value
  rw [get?_ofList_eq_some_iff distinct, get?_eq_some_iff, same.mem_iff]

theorem insertAll_entries (map : SortedMap β) : (∅ : SortedMap β).insertAll map.entries = map :=
  ofList_eq_of_perm (.refl map.entries)

/-- Entries with different keys are those of their map. -/
theorem perm_entries_ofList {entries : List (String × β)} (distinct : (entries.map (·.1)).Nodup) :
    (ofList entries).entries.Perm entries := by
  refine (List.perm_ext_iff_of_nodup (List.Nodup.of_map _ (nodup_keys _)) (List.Nodup.of_map _ distinct)).mpr ?_
  rintro ⟨key, value⟩
  rw [← get?_eq_some_iff, get?_ofList_eq_some_iff distinct]

theorem mem_keys_ofList {entries : List (String × β)} {key : String} :
    key ∈ (ofList entries).keys ↔ key ∈ entries.map (·.1) := by
  rw [← get?_isSome_iff, get?_ofList, Option.isSome_map, List.find?_isSome]
  simp

/-! ## Maps made from maps -/

theorem get?_mapValues (map : SortedMap β) (f : β → γ) (key : String) :
    (map.mapValues f).get? key = (map.get? key).map f := by
  simp only [get?, mapValues, List.find?_map, Option.map_map]
  rfl

theorem get?_filter (map : SortedMap β) (test : String → β → Bool) (key : String) :
    (map.filter test).get? key = (map.get? key).filter (test key) := by
  apply Option.ext
  intro value
  rw [Option.filter_eq_some_iff]
  simp only [get?_eq_some_iff, filter, List.mem_filter]

end StaticStyles.SortedMap
