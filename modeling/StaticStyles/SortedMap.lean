/-!
Finite maps from texts, kept as lists of entries in increasing order of the key. Maps with the same
entries are equal, and walking a map visits its keys in order.
-/
namespace StaticStyles

/-- Entries put in at their place in the order; an entry with the same key is replaced. -/
def insertEntry {β : Type} (key : String) (value : β) : List (String × β) → List (String × β)
  | [] => [(key, value)]
  | (k, v) :: rest =>
    if key < k then (key, value) :: (k, v) :: rest
    else if key = k then (key, value) :: rest
    else (k, v) :: insertEntry key value rest

theorem mem_insertEntry {β : Type} {key : String} {value : β} {entry : String × β}
    {entries : List (String × β)} (h : entry ∈ insertEntry key value entries) :
    entry = (key, value) ∨ entry ∈ entries := by
  induction entries with
  | nil => simpa [insertEntry] using h
  | cons first rest ih =>
    obtain ⟨k, v⟩ := first
    simp only [insertEntry] at h
    split at h
    · simpa using h
    · split at h
      · rcases List.mem_cons.1 h with rfl | h
        · exact .inl rfl
        · exact .inr (List.mem_cons_of_mem _ h)
      · rcases List.mem_cons.1 h with rfl | h
        · exact .inr List.mem_cons_self
        · exact (ih h).imp_right (List.mem_cons_of_mem _)

/-- Looking up a key after an insertion finds the inserted entry, if it has that key. -/
theorem find?_insertEntry {β : Type} {key other : String} {value : β} {entries : List (String × β)} :
    (insertEntry key value entries).find? (fun entry => entry.1 = other) =
      if key = other then some (key, value) else entries.find? (fun entry => entry.1 = other) := by
  induction entries with
  | nil =>
    simp only [insertEntry, List.find?_cons, List.find?_nil]
    split <;> simp_all
  | cons first rest ih =>
    obtain ⟨k, v⟩ := first
    simp only [insertEntry]
    split
    · simp only [List.find?_cons]
      split <;> simp_all
    · split
      · next same =>
        subst same
        simp only [List.find?_cons]
        split <;> simp_all
      · next different =>
        simp only [List.find?_cons, ih]
        split <;> simp_all

/-- A map from texts: its entries have strictly increasing keys. -/
structure SortedMap (β : Type) where
  entries : List (String × β)
  increasing : entries.Pairwise fun a b => a.1 < b.1
deriving DecidableEq

namespace SortedMap
variable {β : Type}

theorem ext_entries {a b : SortedMap β} (h : a.entries = b.entries) : a = b := by
  cases a; cases b; simp_all

def empty : SortedMap β := ⟨[], .nil⟩

instance : EmptyCollection (SortedMap β) := ⟨empty⟩
instance : Inhabited (SortedMap β) := ⟨empty⟩

/-- The map with one entry added or replaced. -/
def insert (map : SortedMap β) (key : String) (value : β) : SortedMap β where
  entries := insertEntry key value map.entries
  increasing := by
    obtain ⟨entries, increasing⟩ := map
    induction entries with
    | nil => simp [insertEntry]
    | cons first rest ih =>
      obtain ⟨k, v⟩ := first
      rw [List.pairwise_cons] at increasing
      obtain ⟨least, tail⟩ := increasing
      simp only [insertEntry]
      split
      · next before =>
        refine List.pairwise_cons.2 ⟨fun e he => ?_, List.pairwise_cons.2 ⟨least, tail⟩⟩
        rcases List.mem_cons.1 he with rfl | he
        · exact before
        · exact String.lt_trans before (least e he)
      · next notBefore =>
        split
        · next same =>
          subst same
          exact List.pairwise_cons.2 ⟨least, tail⟩
        · next other =>
          refine List.pairwise_cons.2 ⟨fun e he => ?_, ih tail⟩
          rcases mem_insertEntry he with rfl | he
          · exact Std.lt_of_le_of_ne (String.not_lt.1 notBefore) (Ne.symm other)
          · exact least e he

def get? (map : SortedMap β) (key : String) : Option β :=
  (map.entries.find? fun entry => entry.1 = key).map (·.2)

@[simp] theorem get?_empty (key : String) : (empty : SortedMap β).get? key = none := rfl

theorem get?_insert (map : SortedMap β) (key other : String) (value : β) :
    (map.insert key value).get? other = if key = other then some value else map.get? other := by
  simp only [get?, insert, find?_insertEntry]
  split <;> rfl

/-- The entries put in one after the other, so that the last of a repeated key stays. -/
def insertAll (map : SortedMap β) (entries : List (String × β)) : SortedMap β :=
  entries.foldl (fun map entry => map.insert entry.1 entry.2) map

/-- The map of a list of entries; the last of a repeated key stays. -/
def ofList (entries : List (String × β)) : SortedMap β := empty.insertAll entries

/-- The keys in increasing order. -/
def keys (map : SortedMap β) : List String := map.entries.map (·.1)

def size (map : SortedMap β) : Nat := map.entries.length

def isEmpty (map : SortedMap β) : Bool := map.entries.isEmpty

/-- The same keys with other values. -/
def mapValues {γ : Type} (f : β → γ) (map : SortedMap β) : SortedMap γ where
  entries := map.entries.map fun (k, v) => (k, f v)
  increasing := List.pairwise_map.2 map.increasing

def filter (test : String → β → Bool) (map : SortedMap β) : SortedMap β where
  entries := map.entries.filter fun (k, v) => test k v
  increasing := map.increasing.filter _

end SortedMap
end StaticStyles
