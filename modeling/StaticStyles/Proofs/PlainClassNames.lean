import StaticStyles.Proofs.ClassTokens
import StaticStyles.Proofs.TextSearch

/-!
Class names read back. If a component and the values of its props are spelled with letters, digits and hyphens, and the
props with letters and digits, then the parts of the class name between underscores are the component and one token for
each prop, and the first hyphen of a token ends its prop (`read_className`). So such a class name stands for one
component, apart from upper and lower case, and one combination (`plain_className_read_back`).
-/
namespace StaticStyles.ClassName
open Text

/-! ## Reading -/

/-- The prop and the value of a token: what stands before its first hyphen, and what stands behind it. -/
def readToken (part : List Char) : String × String :=
  (String.ofList (part.takeWhile (· != '-')), String.ofList ((part.dropWhile (· != '-')).drop 1))

/-- The component and the combination that the parts of a class name say. -/
def read (name : String) : String × Combination :=
  match split '_' name.toList with
  | [] => ("", ∅)
  | component :: tokens => (String.ofList component, .ofList (tokens.map readToken))

/-! ## What is read -/

/-- A component, in lower case, and a combination that a class name holds as they are spelled. -/
structure Plain (component : String) (combination : Combination) : Prop where
  component : ∀ c ∈ lower component.toList, isPlain c = true
  spelled : Spelled combination

variable {component other : String} {combination a b : Combination}

theorem plain_iff : Plain component combination ↔
    (lower component.toList).all isPlain = true ∧ Spelled combination := by
  rw [List.all_eq_true]
  exact ⟨fun plain => ⟨plain.component, plain.spelled⟩, fun ⟨letters, spelled⟩ => ⟨letters, spelled⟩⟩

instance : Decidable (Plain component combination) := decidable_of_iff _ plain_iff.symm

theorem readToken_pairToken {pair : String × String} (name : ∀ c ∈ pair.1.toList, c.isAlphanum = true)
    (value : ∀ c ∈ pair.2.toList, isPlain c = true) : readToken (pairToken pair) = pair := by
  have plain : ∀ c ∈ pair.1.toList, isPlain c = true := by
    intro c member
    simp [isPlain, name c member]
  have unhyphened : pair.1.toList.all (· != '-') = true := by
    rw [List.all_eq_true]
    intro c member
    rw [bne_iff_ne]
    rintro rfl
    exact absurd (name '-' member) (by decide)
  have ends : ('-' != '-') = false := by decide
  rw [pairToken, token_of_isPlain plain, token_of_isPlain value, readToken, takeWhile_append_cons unhyphened ends,
    dropWhile_append_cons unhyphened ends]
  simp

/-- The tokens stand in an order of their own; read, they are the entries of the combination in some order. -/
theorem Spelled.perm_readToken (spelled : Spelled combination) :
    ((pairTokens combination).map readToken).Perm combination.entries := by
  have read_back : (combination.entries.map pairToken).map readToken = combination.entries := by
    rw [List.map_map]
    conv_rhs => rw [← List.map_id combination.entries]
    apply List.map_congr_left
    intro pair entry
    have letters := List.all_eq_true.mp (spelled_iff.mp spelled) pair entry
    rw [Bool.and_eq_true, List.all_eq_true, List.all_eq_true] at letters
    exact readToken_pairToken letters.1 letters.2
  exact ((List.mergeSort_perm _ _).map readToken).trans (.of_eq read_back)

/-- Reading the class name of a plain component and combination gives them back. -/
theorem Plain.read_className (plain : Plain component combination) :
    read (className component combination) = (String.ofList (lower component.toList), combination) := by
  have whole : '_' ∉ lower component.toList := underscore_not_mem_of_isPlain plain.component
  rw [read, className, chars, String.toList_ofList, token_of_isPlain plain.component,
    plain.spelled.unseparated.split_flatMap whole]
  simp only
  rw [SortedMap.ofList_eq_of_perm plain.spelled.perm_readToken]

end StaticStyles.ClassName

namespace StaticStyles
open ClassName

/-- A class name of plain texts is read back, so two of them are the same exactly if the components are, apart from
upper and lower case, and the combinations are. -/
theorem plain_className_read_back {component other : String} {a b : Combination} (left : Plain component a)
    (right : Plain other b) :
    read (className component a) = (String.ofList (Text.lower component.toList), a) ∧
      (className component a = className other b ↔
        Text.lower component.toList = Text.lower other.toList ∧ a = b) := by
  refine ⟨left.read_className, ?_⟩
  constructor
  · intro same
    have answers := left.read_className.symm.trans (same ▸ right.read_className)
    obtain ⟨components, combinations⟩ := Prod.mk.inj answers
    exact ⟨String.ofList_inj.mp components, combinations⟩
  · rintro ⟨components, rfl⟩
    rw [className, className, chars, chars, components]

/-- A component in two spellings, and values that hold hyphens, look like another token or are empty. -/
theorem plain_className_read_back_lookalikes :
    let a : Combination := .ofList [("size", "b-x"), ("b", "")]
    let b : Combination := .ofList [("b", "size-b-x"), ("size", "")]
    Plain "My-Card" a ∧ Plain "MY-CARD" b ∧ className "My-Card" a = "my-card_b-_size-b-x" ∧
      read "my-card_b-_size-b-x" = ("my-card", a) ∧ className "My-Card" a ≠ className "MY-CARD" b := by
  intro a b
  have left : Plain "My-Card" a := by decide
  have right : Plain "MY-CARD" b := by decide
  obtain ⟨read_back, same⟩ := plain_className_read_back left right
  have sorted : pairTokens a = ["b-".toList, "size-b-x".toList] := by
    apply List.mergeSort_of_pairwise
    decide
  have text : className "My-Card" a = "my-card_b-_size-b-x" := by
    rw [className, chars, sorted]
    decide
  have lowered : String.ofList (Text.lower "My-Card".toList) = "my-card" := by decide
  refine ⟨left, right, text, ?_, ?_⟩
  · rw [← text, read_back, lowered]
  · rw [Ne, same]
    decide

end StaticStyles
