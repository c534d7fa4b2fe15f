import StaticStyles.Rule.ClassName

/-!
The characters of class names: letters and digits of ASCII, hyphens and underscores, whatever the
component, its props and their values are called (`isNameChar_of_mem_className`).
-/
namespace StaticStyles.ClassName

private theorem isAlphanum_digitChar {digit : Nat} (small : digit < 16) : digit.digitChar.isAlphanum = true := by
  have all : ∀ digit < 16, (Nat.digitChar digit).isAlphanum = true := by decide
  exact all digit small

theorem isAlphanum_of_mem_hexDigits {n : Nat} {c : Char} (member : c ∈ Text.hexDigits n) : c.isAlphanum = true := by
  induction n using Nat.strongRecOn with
  | ind n ih =>
    rw [Text.hexDigits, Nat.toDigits_eq_if (by omega)] at member
    by_cases small : n < 16
    · rw [if_pos small, List.mem_singleton] at member
      rw [member]
      exact isAlphanum_digitChar small
    · rw [if_neg small] at member
      rcases List.mem_append.mp member with h | h
      · exact ih (n / 16) (by omega) h
      · rw [List.mem_singleton.mp h]
        exact isAlphanum_digitChar (Nat.mod_lt n (by omega))

theorem isAlphanum_of_mem_hashSuffix {raw : List Char} {c : Char} (member : c ∈ hashSuffix raw) :
    c.isAlphanum = true := by
  have digit := List.mem_of_mem_drop member
  rw [Text.hexPadded] at digit
  rcases List.mem_append.mp digit with h | h
  · rw [(List.mem_replicate.mp h).2]
    decide
  · exact isAlphanum_of_mem_hexDigits h

theorem isNameChar_of_isAlphanum {c : Char} (letter : c.isAlphanum = true) : isNameChar c = true := by
  simp [isNameChar, letter]

theorem isNameChar_of_mem_token {raw : List Char} {c : Char} (member : c ∈ token raw) : isNameChar c = true := by
  have plain {c : Char} (mapped : c ∈ raw.map fun c => if isNameChar c then c else '-') : isNameChar c = true := by
    obtain ⟨d, _, rfl⟩ := List.mem_map.mp mapped
    by_cases allowed : isNameChar d = true
    · rwa [if_pos allowed]
    · rw [if_neg allowed]
      decide
  simp only [token] at member
  split at member
  · exact plain member
  · rcases List.mem_append.mp member with h | h
    · exact plain h
    · exact isNameChar_of_isAlphanum (isAlphanum_of_mem_hashSuffix h)

theorem isNameChar_of_mem_pairToken {pair : String × String} {c : Char} (member : c ∈ pairToken pair) :
    isNameChar c = true := by
  rcases List.mem_append.mp member with h | h
  · exact isNameChar_of_mem_token h
  · rcases List.mem_cons.mp h with rfl | h
    · decide
    · exact isNameChar_of_mem_token h

theorem isNameChar_of_mem_chars {component : String} {combination : Combination} {c : Char}
    (member : c ∈ chars component combination) : isNameChar c = true := by
  rcases List.mem_append.mp member with h | h
  · exact isNameChar_of_mem_token h
  · obtain ⟨token, present, h⟩ := List.mem_flatMap.mp h
    rcases List.mem_cons.mp h with rfl | h
    · decide
    · obtain ⟨pair, _, rfl⟩ := List.mem_map.mp ((List.mergeSort_perm _ _).mem_iff.mp present)
      exact isNameChar_of_mem_pairToken h

end StaticStyles.ClassName

namespace StaticStyles

/-- A class name holds name characters only. -/
theorem isNameChar_of_mem_className {component : String} {combination : Combination} {c : Char}
    (member : c ∈ (className component combination).toList) : ClassName.isNameChar c = true := by
  rw [className, String.toList_ofList] at member
  exact ClassName.isNameChar_of_mem_chars member

end StaticStyles
