import Mathlib.Data.List.Basic
import StaticStyles.Proofs.ClassNameText
import StaticStyles.Proofs.SortedMap
import StaticStyles.Text.Search

/-!
When two combinations have one class name. If no prop or value holds the separator and the tokens of the props
tell each other apart, two combinations of one component have it exactly when all their values have the same
tokens; so do two components without the separator, if their own tokens are the same (`className_eq_iff`). Texts
of letters, digits and hyphens are their own tokens, so among them only the same combination of the same component
has the same name (`eq_of_className_eq`).
-/
namespace StaticStyles

theorem Text.split_flatMap {separator : Char} {part : List Char} {parts : List (List Char)}
    (whole : separator ∉ part) (wholes : ∀ part ∈ parts, separator ∉ part) :
    split separator (part ++ parts.flatMap (separator :: ·)) = part :: parts := by
  induction parts generalizing part with
  | nil => simpa using split_of_not_mem whole
  | cons next parts ih =>
    obtain ⟨first, others⟩ := List.forall_mem_cons.mp wholes
    rw [List.flatMap_cons, List.cons_append, split_append whole, ih first others]

namespace ClassName

/-! ## Tokens -/

/-- A character that a token holds as it is, and that separates nothing. -/
def isPlain (c : Char) : Bool := c.isAlphanum || c = '-'

theorem isNameChar_of_isPlain {c : Char} (plain : isPlain c = true) : isNameChar c = true := by
  simp only [isPlain, Bool.or_eq_true] at plain
  simp only [isNameChar, Bool.or_eq_true]
  exact .inl plain

theorem underscore_not_mem_of_isPlain {raw : List Char} (plain : ∀ c ∈ raw, isPlain c = true) : '_' ∉ raw := by
  intro member
  exact absurd (plain '_' member) (by decide)

theorem token_of_isPlain {raw : List Char} (plain : ∀ c ∈ raw, isPlain c = true) : token raw = raw := by
  have unchanged : (raw.map fun c => if isNameChar c then c else '-') = raw := by
    have each (c : Char) (member : c ∈ raw) : (if isNameChar c then c else '-') = c :=
      if_pos (isNameChar_of_isPlain (plain c member))
    rw [List.map_congr_left each, List.map_id']
  simp [token, unchanged, underscore_not_mem_of_isPlain plain]

theorem underscore_not_mem_token {raw : List Char} (absent : '_' ∉ raw) : '_' ∉ token raw := by
  have kept : '_' ∉ raw.map fun c => if isNameChar c then c else '-' := by
    intro member
    obtain ⟨d, present, same⟩ := List.mem_map.mp member
    by_cases allowed : isNameChar d = true
    · rw [if_pos allowed] at same
      exact absent (same ▸ present)
    · rw [if_neg allowed] at same
      exact absurd same (by decide)
  rw [token]
  split
  · exact kept
  · intro member
    rcases List.mem_append.mp member with h | h
    · exact kept h
    · exact absurd (isAlphanum_of_mem_hashSuffix h) (by decide)

/-! ## Tokens of combinations -/

/-- No prop or value of a combination holds the separator of class names. -/
structure Unseparated (combination : Combination) : Prop where
  names : ∀ name ∈ combination.keys, '_' ∉ name.toList
  values : ∀ name value, combination.get? name = some value → '_' ∉ value.toList

/-- The tokens of the props of two combinations tell each other apart: with its hyphen, none begins with that
of another prop. -/
def NamesApart (a b : Combination) : Prop :=
  ∀ x ∈ a.keys, ∀ y ∈ b.keys,
    token x.toList ++ ['-'] <+: token y.toList ++ ['-'] ∨ token y.toList ++ ['-'] <+: token x.toList ++ ['-'] →
      x = y

/-- The tokens of the values of a combination, by prop. -/
def valueTokens (combination : Combination) : SortedMap (List Char) :=
  combination.mapValues fun value => token value.toList

theorem NamesApart.symm {a b : Combination} (apart : NamesApart a b) : NamesApart b a :=
  fun x left y right begins => (apart y right x left begins.symm).symm

theorem mem_keys_of_get? {combination : Combination} {name value : String}
    (given : combination.get? name = some value) : name ∈ combination.keys :=
  SortedMap.mem_keys_iff.mpr ⟨value, SortedMap.get?_eq_some_iff.mp given⟩

theorem forall_entries_iff {combination : Combination} {p q : String → Prop} :
    (∀ entry ∈ combination.entries, p entry.1 ∧ q entry.2) ↔
      (∀ name ∈ combination.keys, p name) ∧ ∀ name value, combination.get? name = some value → q value := by
  constructor
  · intro each
    refine ⟨?_, ?_⟩
    · intro name key
      obtain ⟨value, entry⟩ := SortedMap.mem_keys_iff.mp key
      exact (each (name, value) entry).1
    · intro name value given
      exact (each (name, value) (SortedMap.get?_eq_some_iff.mp given)).2
  · rintro ⟨names, values⟩ ⟨name, value⟩ entry
    have given : combination.get? name = some value := SortedMap.get?_eq_some_iff.mpr entry
    exact ⟨names name (mem_keys_of_get? given), values name value given⟩

theorem unseparated_iff {combination : Combination} :
    Unseparated combination ↔ ∀ entry ∈ combination.entries, '_' ∉ entry.1.toList ∧ '_' ∉ entry.2.toList := by
  rw [forall_entries_iff (p := fun name => '_' ∉ name.toList) (q := fun value => '_' ∉ value.toList)]
  exact ⟨fun unseparated => ⟨unseparated.names, unseparated.values⟩, fun ⟨names, values⟩ => ⟨names, values⟩⟩

instance (combination : Combination) : Decidable (Unseparated combination) :=
  decidable_of_iff _ unseparated_iff.symm

instance (a b : Combination) : Decidable (NamesApart a b) :=
  inferInstanceAs (Decidable (∀ x ∈ a.keys, ∀ y ∈ b.keys, _ → x = y))

theorem get?_valueTokens (combination : Combination) (name : String) :
    (valueTokens combination).get? name = (combination.get? name).map fun value => token value.toList :=
  SortedMap.get?_mapValues _ _ _

/-- The pair tokens of a combination, in the order of its props, come from its value tokens. -/
theorem map_pairToken (combination : Combination) :
    combination.entries.map pairToken =
      (valueTokens combination).entries.map fun entry => token entry.1.toList ++ '-' :: entry.2 := by
  simp only [valueTokens, SortedMap.mapValues, List.map_map]
  rfl

theorem Unseparated.underscore_not_mem_pairTokens {combination : Combination}
    (unseparated : Unseparated combination) : ∀ part ∈ pairTokens combination, '_' ∉ part := by
  intro part member
  obtain ⟨⟨name, value⟩, entry, rfl⟩ := List.mem_map.mp ((List.mergeSort_perm _ _).mem_iff.mp member)
  have given : combination.get? name = some value := SortedMap.get?_eq_some_iff.mpr entry
  have left := underscore_not_mem_token (unseparated.names name (mem_keys_of_get? given))
  have right := underscore_not_mem_token (unseparated.values name value given)
  simp [pairToken, left, right]

theorem Unseparated.split_flatMap {combination : Combination} (unseparated : Unseparated combination)
    {part : List Char} (whole : '_' ∉ part) :
    Text.split '_' (part ++ (pairTokens combination).flatMap ('_' :: ·)) = part :: pairTokens combination :=
  Text.split_flatMap whole unseparated.underscore_not_mem_pairTokens

/-- If the pair tokens of two combinations are the same, whatever their order, so are the tokens of each
value. -/
private theorem get?_valueTokens_of_perm {a b : Combination} (apart : NamesApart a b)
    (same : (a.entries.map pairToken).Perm (b.entries.map pairToken)) {name : String} {part : List Char}
    (given : (valueTokens a).get? name = some part) : (valueTokens b).get? name = some part := by
  rw [get?_valueTokens] at given
  obtain ⟨value, at_name, rfl⟩ := Option.map_eq_some_iff.mp given
  have listed : pairToken (name, value) ∈ a.entries.map pairToken :=
    List.mem_map_of_mem (SortedMap.get?_eq_some_iff.mp at_name)
  obtain ⟨⟨other, twin⟩, entry, equal⟩ := List.mem_map.mp (same.mem_iff.mp listed)
  have at_other : b.get? other = some twin := SortedMap.get?_eq_some_iff.mpr entry
  have joined :
      (token other.toList ++ ['-']) ++ token twin.toList = (token name.toList ++ ['-']) ++ token value.toList := by
    rw [List.append_assoc, List.append_assoc]
    exact equal
  -- Both names, each with its hyphen, begin one text, so one of them begins with the other.
  have begins := List.prefix_or_prefix_of_prefix (List.prefix_append _ (token value.toList))
    (joined ▸ List.prefix_append (token other.toList ++ ['-']) (token twin.toList))
  obtain rfl := apart name (mem_keys_of_get? at_name) other (mem_keys_of_get? at_other) begins
  rw [get?_valueTokens, at_other, Option.map_some, List.append_cancel_left joined]

theorem valueTokens_eq_of_perm {a b : Combination} (apart : NamesApart a b)
    (same : (a.entries.map pairToken).Perm (b.entries.map pairToken)) : valueTokens a = valueTokens b := by
  apply SortedMap.ext_get?
  intro name
  apply Option.ext
  intro part
  exact ⟨get?_valueTokens_of_perm apart same, get?_valueTokens_of_perm apart.symm same.symm⟩

theorem chars_eq_iff {a b : Combination} {component other : String} (left : Unseparated a) (right : Unseparated b)
    (apart : NamesApart a b)
    (components : Text.lower component.toList = Text.lower other.toList ∨
      '_' ∉ Text.lower component.toList ∧ '_' ∉ Text.lower other.toList) :
    chars component a = chars other b ↔
      token (Text.lower component.toList) = token (Text.lower other.toList) ∧ valueTokens a = valueTokens b := by
  constructor
  · intro same
    obtain ⟨tokens, pairs⟩ : token (Text.lower component.toList) = token (Text.lower other.toList) ∧
        pairTokens a = pairTokens b := by
      rcases components with equal | ⟨whole, others⟩
      · rw [chars, chars, equal] at same
        have parts := congrArg (Text.split '_') (List.append_cancel_left same)
        rw [← List.nil_append ((pairTokens a).flatMap _), ← List.nil_append ((pairTokens b).flatMap _),
          left.split_flatMap List.not_mem_nil, right.split_flatMap List.not_mem_nil] at parts
        exact ⟨congrArg token equal, (List.cons.inj parts).2⟩
      · have parts := congrArg (Text.split '_') same
        rw [chars, chars, left.split_flatMap (underscore_not_mem_token whole),
          right.split_flatMap (underscore_not_mem_token others)] at parts
        exact List.cons.inj parts
    refine ⟨tokens, valueTokens_eq_of_perm apart ?_⟩
    have sorted : (pairTokens a).Perm (pairTokens b) := .of_eq pairs
    exact (List.mergeSort_perm _ _).symm.trans (sorted.trans (List.mergeSort_perm _ _))
  · rintro ⟨tokens, values⟩
    rw [chars, chars, pairTokens, pairTokens, map_pairToken, map_pairToken, tokens, values]

/-! ## Plain texts -/

/-- A combination whose values are letters, digits and hyphens, and whose props are letters and digits. -/
structure Spelled (combination : Combination) : Prop where
  names : ∀ name ∈ combination.keys, ∀ c ∈ name.toList, c.isAlphanum = true
  values : ∀ name value, combination.get? name = some value → ∀ c ∈ value.toList, isPlain c = true

theorem spelled_iff {combination : Combination} : Spelled combination ↔
    (combination.entries.all fun entry => entry.1.toList.all Char.isAlphanum && entry.2.toList.all isPlain) = true := by
  simp only [List.all_eq_true, Bool.and_eq_true]
  rw [forall_entries_iff (p := fun name => ∀ c ∈ name.toList, c.isAlphanum = true)
    (q := fun value => ∀ c ∈ value.toList, isPlain c = true)]
  exact ⟨fun spelled => ⟨spelled.names, spelled.values⟩, fun ⟨names, values⟩ => ⟨names, values⟩⟩

instance (combination : Combination) : Decidable (Spelled combination) := decidable_of_iff _ spelled_iff.symm

section
variable {a b : Combination}

theorem Spelled.isPlain_name (spelled : Spelled a) {name : String} (key : name ∈ a.keys) :
    ∀ c ∈ name.toList, isPlain c = true := by
  intro c member
  simp [isPlain, spelled.names name key c member]

theorem Spelled.unseparated (spelled : Spelled a) : Unseparated a where
  names _ key := underscore_not_mem_of_isPlain (spelled.isPlain_name key)
  values _ _ given := underscore_not_mem_of_isPlain (spelled.values _ _ given)

private theorem eq_of_begins_hyphen {x y : List Char} (left : '-' ∉ x) (right : '-' ∉ y)
    (begins : x ++ ['-'] <+: y ++ ['-']) : x = y := by
  obtain ⟨rest, joined⟩ := begins
  have parts := congrArg (Text.split '-') joined
  rw [List.append_assoc, List.singleton_append, Text.split_append left, Text.split_append right] at parts
  exact (List.cons.inj parts).1

theorem Spelled.namesApart (left : Spelled a) (right : Spelled b) : NamesApart a b := by
  intro x key y twin begins
  have whole {name : String} (letters : ∀ c ∈ name.toList, c.isAlphanum = true) : '-' ∉ name.toList := by
    intro member
    exact absurd (letters '-' member) (by decide)
  rw [token_of_isPlain (left.isPlain_name key), token_of_isPlain (right.isPlain_name twin)] at begins
  rcases begins with h | h
  · exact String.toList_inj.mp (eq_of_begins_hyphen (whole (left.names x key)) (whole (right.names y twin)) h)
  · exact String.toList_inj.mp (eq_of_begins_hyphen (whole (right.names y twin)) (whole (left.names x key)) h).symm

private theorem Spelled.get?_of_valueTokens_eq (left : Spelled a) (right : Spelled b)
    (same : valueTokens a = valueTokens b) {name value : String} (given : a.get? name = some value) :
    b.get? name = some value := by
  have at_name := congrArg (SortedMap.get? · name) same
  simp only [get?_valueTokens, given, Option.map_some] at at_name
  obtain ⟨twin, found, equal⟩ := Option.map_eq_some_iff.mp at_name.symm
  rw [token_of_isPlain (left.values name value given), token_of_isPlain (right.values name twin found)] at equal
  rw [found, String.toList_inj.mp equal]

theorem Spelled.eq_of_valueTokens_eq (left : Spelled a) (right : Spelled b)
    (same : valueTokens a = valueTokens b) : a = b := by
  apply SortedMap.ext_get?
  intro name
  apply Option.ext
  intro value
  exact ⟨left.get?_of_valueTokens_eq right same, right.get?_of_valueTokens_eq left same.symm⟩

end
end ClassName

open ClassName

/-- Two class names are equal exactly if the tokens of the components are, and those of all values. -/
theorem className_eq_iff {component other : String} {a b : Combination} (left : Unseparated a)
    (right : Unseparated b) (apart : NamesApart a b)
    (components : Text.lower component.toList = Text.lower other.toList ∨
      '_' ∉ Text.lower component.toList ∧ '_' ∉ Text.lower other.toList) :
    className component a = className other b ↔
      token (Text.lower component.toList) = token (Text.lower other.toList) ∧ valueTokens a = valueTokens b := by
  rw [className, className, String.ofList_inj, chars_eq_iff left right apart components]

/-- Among plain texts, a class name tells the component, apart from upper and lower case, and the
combination. -/
theorem eq_of_className_eq {component other : String} {a b : Combination} (left : Spelled a) (right : Spelled b)
    (components : Text.lower component.toList = Text.lower other.toList ∨
      (∀ c ∈ Text.lower component.toList, isPlain c = true) ∧ ∀ c ∈ Text.lower other.toList, isPlain c = true)
    (same : className component a = className other b) :
    Text.lower component.toList = Text.lower other.toList ∧ a = b := by
  have apart := left.namesApart right
  rcases components with equal | ⟨plain, others⟩
  · have values := ((className_eq_iff left.unseparated right.unseparated apart (.inl equal)).mp same).2
    exact ⟨equal, left.eq_of_valueTokens_eq right values⟩
  · have whole := And.intro (underscore_not_mem_of_isPlain plain) (underscore_not_mem_of_isPlain others)
    obtain ⟨tokens, values⟩ := (className_eq_iff left.unseparated right.unseparated apart (.inr whole)).mp same
    rw [token_of_isPlain plain, token_of_isPlain others] at tokens
    exact ⟨tokens, left.eq_of_valueTokens_eq right values⟩

end StaticStyles
