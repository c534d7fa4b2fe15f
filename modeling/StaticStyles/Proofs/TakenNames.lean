import Mathlib.Data.Nat.ModEq
import Mathlib.Tactic.Ring
import StaticStyles.Proofs.Recompilation
import StaticStyles.Proofs.RegistryCalls

/-!
What becomes of a declaration whose name is taken. A component keeps the hash of the body that was declared for it
first, and a later body is compared by its hash alone. So it passes for the first one exactly if the numbers that the
two texts spell in base 31 agree up to a multiple of the size of a word; any other body is refused, and the registry
stays as it is (`Registry.taken_name_iff`). A change of one character is always seen, a change of two is not: two
colors pass for each other (`Registry.taken_name_colors`).
-/
namespace StaticStyles

/-! ## Numbers of texts -/

/-- The number of a text, whose digits in base 31 are its code points. -/
def codeNumber (text : List Char) : Nat := text.foldl (fun number c => number * 31 + c.toNat) 0

theorem codeNumber_concat (text : List Char) (c : Char) :
    codeNumber (text ++ [c]) = codeNumber text * 31 + c.toNat := by
  simp [codeNumber]

theorem codeNumber_append (text : List Char) (c : Char) (rest : List Char) :
    codeNumber (text ++ c :: rest) =
      codeNumber text * 31 ^ (rest.length + 1) + c.toNat * 31 ^ rest.length + codeNumber rest := by
  induction rest using List.reverseRecOn with
  | nil => simp [codeNumber]
  | append_singleton rest d ih =>
    rw [← List.cons_append, ← List.append_assoc, codeNumber_concat, ih, codeNumber_concat, List.length_append,
      List.length_singleton]
    ring

/-- Texts that differ in one character have numbers that differ by no multiple of the size of a word. -/
theorem codeNumber_modEq_iff_of_char (text : List Char) (c d : Char) (rest : List Char) :
    codeNumber (text ++ c :: rest) ≡ codeNumber (text ++ d :: rest) [MOD UInt32.size] ↔ c = d := by
  constructor
  · intro same
    rw [codeNumber_append, codeNumber_append] at same
    have scaled : c.toNat * 31 ^ rest.length ≡ d.toNat * 31 ^ rest.length [MOD UInt32.size] :=
      Nat.ModEq.add_left_cancel' _ (Nat.ModEq.add_right_cancel' _ same)
    -- the place of the character is a power of an odd number, which cancels
    have odd : Nat.gcd UInt32.size (31 ^ rest.length) = 1 :=
      Nat.Coprime.pow_right rest.length (by decide)
    have codes : c.toNat ≡ d.toNat [MOD UInt32.size] := Nat.ModEq.cancel_right_of_coprime odd scaled
    exact Char.toNat_inj.mp (codes.eq_of_lt_of_lt c.val.toNat_lt d.val.toNat_lt)
  · rintro rfl
    exact Nat.ModEq.refl _

/-! ## Hashes -/

theorem toNat_rollingHash (text : List Char) : (rollingHash text).toNat = codeNumber text % UInt32.size := by
  induction text using List.reverseRecOn with
  | nil => rfl
  | append_singleton text c ih =>
    have step : rollingHash (text ++ [c]) = rollingHash text * 31 + c.val := by simp [rollingHash]
    rw [step, codeNumber_concat, UInt32.toNat_add, UInt32.toNat_mul, ih]
    show (codeNumber text % 2 ^ 32 * 31 % 2 ^ 32 + c.toNat) % 2 ^ 32 = (codeNumber text * 31 + c.toNat) % 2 ^ 32
    omega

/-- The number that a digit in base 16 stands for. -/
private def digitNumber (c : Char) : Nat := if c.isDigit then c.toNat - 48 else c.toNat - 87

/-- The number that digits in base 16 stand for. -/
private def digitsNumber (digits : List Char) : Nat :=
  digits.foldl (fun number c => number * 16 + digitNumber c) 0

private theorem digitNumber_digitChar {digit : Nat} (small : digit < 16) : digitNumber digit.digitChar = digit := by
  have all : ∀ digit < 16, digitNumber (Nat.digitChar digit) = digit := by decide
  exact all digit small

private theorem digitsNumber_hexDigits (n : Nat) : digitsNumber (Text.hexDigits n) = n := by
  induction n using Nat.strongRecOn with
  | ind n ih =>
    rw [Text.hexDigits, Nat.toDigits_eq_if (by omega)]
    by_cases small : n < 16
    · rw [if_pos small]
      simp [digitsNumber, digitNumber_digitChar small]
    · have last (text : List Char) (c : Char) :
          digitsNumber (text ++ [c]) = digitsNumber text * 16 + digitNumber c := by simp [digitsNumber]
      have front : digitsNumber (Nat.toDigits 16 (n / 16)) = n / 16 := ih (n / 16) (by omega)
      rw [if_neg small, last, front, digitNumber_digitChar (Nat.mod_lt n (by omega))]
      omega

private theorem digitsNumber_hexPadded (width n : Nat) : digitsNumber (Text.hexPadded width n) = n := by
  have zeros (count : Nat) (digits : List Char) :
      digitsNumber (List.replicate count '0' ++ digits) = digitsNumber digits := by
    induction count with
    | zero => rfl
    | succ count ih =>
      rw [List.replicate_succ, List.cons_append]
      exact ih
  rw [Text.hexPadded, zeros, digitsNumber_hexDigits]

/-- Two texts have one hash exactly if their numbers agree up to a multiple of the size of a word. -/
theorem contentHash_eq_iff {text other : String} : contentHash text = contentHash other ↔
    codeNumber text.toList ≡ codeNumber other.toList [MOD UInt32.size] := by
  rw [contentHash, contentHash, String.ofList_inj, Nat.ModEq, ← toNat_rollingHash, ← toNat_rollingHash]
  constructor
  · intro same
    rw [← digitsNumber_hexPadded 8 (rollingHash text.toList).toNat, same, digitsNumber_hexPadded]
  · intro same
    rw [same]

namespace Registry
variable {hash : String → UInt64} {registry : Registry} {calls : List Call} {name component : String}
  {declaration : Declaration}

/-! ## Calls of a build -/

/-- Calls as a build makes them: a declaration has the hash of its body, and records come for names that are taken. -/
inductive Orderly (hash : String → UInt64) : List Call → Prop
  | start : Orderly hash []
  | register {calls : List Call} (earlier : Orderly hash calls) (declaration : Declaration)
      (hashed : declaration.hash = contentHash declaration.body) : Orderly hash (calls ++ [.register declaration])
  | add {calls : List Call} (earlier : Orderly hash calls) (component : String) (records : List Record)
      (taken : component ∈ (Registry.empty.afterCalls hash calls).components.keys) :
      Orderly hash (calls ++ [.add component records])
  | intern {calls : List Call} (earlier : Orderly hash calls) (body className : String) :
      Orderly hash (calls ++ [.intern body className])

/-- The declaration that a call brings for a name. -/
def Call.declared? (name : String) : Call → Option Declaration
  | .register declaration => if declaration.component = name then some declaration else none
  | .add _ _ => none
  | .intern _ _ => none

/-- The first declaration of a name among calls. -/
def firstDeclared? (calls : List Call) (name : String) : Option Declaration := calls.findSome? (Call.declared? name)

theorem firstDeclared?_concat (calls : List Call) (call : Call) (name : String) :
    firstDeclared? (calls ++ [call]) name = (firstDeclared? calls name).or (call.declared? name) := by
  rw [firstDeclared?, List.findSome?_append]
  cases found : call.declared? name <;> simp [firstDeclared?, found]

theorem afterCalls_concat (hash : String → UInt64) (registry : Registry) (calls : List Call) (call : Call) :
    registry.afterCalls hash (calls ++ [call]) = (registry.afterCalls hash calls).afterCall hash call :=
  List.foldl_append

/-- A registry after calls: a taken name has the hash of the first body declared for it, and a name was declared
before only if it is taken or clashes with one that is. -/
structure Named (calls : List Call) (registry : Registry) : Prop where
  hashed : ∀ name component, registry.components.get? name = some component →
    ∃ first, firstDeclared? calls name = some first ∧ component.hash = contentHash first.body
  accounted : ∀ name, (firstDeclared? calls name).isSome →
    (registry.components.get? name).isSome ∨ registry.Clashes name

theorem isSome_of_extends {before after : Registry} (grown : before.Extends after)
    (taken : (before.components.get? name).isSome) : (after.components.get? name).isSome := by
  obtain ⟨component, named⟩ := Option.isSome_iff_exists.mp taken
  obtain ⟨classes, still⟩ := grown.kept name component named
  exact Option.isSome_of_eq_some still

/-- A call that declares no new name keeps names and hashes. -/
theorem Named.kept {after : Registry} {call : Call} (holds : Named calls registry) (grown : registry.Extends after)
    (same : ∀ name component, after.components.get? name = some component →
      ∃ before, registry.components.get? name = some before ∧ before.hash = component.hash)
    (declared : ∀ name, (call.declared? name).isSome →
      (after.components.get? name).isSome ∨ after.Clashes name) : Named (calls ++ [call]) after where
  hashed name component named := by
    obtain ⟨before, named, hash⟩ := same name component named
    obtain ⟨first, found, hashed⟩ := holds.hashed name before named
    exact ⟨first, by rw [firstDeclared?_concat, found]; rfl, by rw [← hash, hashed]⟩
  accounted name brought := by
    rw [firstDeclared?_concat, Option.isSome_or, Bool.or_eq_true] at brought
    rcases brought with brought | brought
    · rcases holds.accounted name brought with taken | clash
      · exact .inl (isSome_of_extends grown taken)
      · exact .inr (grown.clashes clash)
    · exact declared name brought

/-- Declaring a name that is free takes it for the declaration. -/
theorem Named.register_free (holds : Named calls registry)
    (hashed : declaration.hash = contentHash declaration.body)
    (unnamed : registry.components.get? declaration.component = none)
    (free : ¬ registry.Clashes declaration.component) : Named (calls ++ [.register declaration])
      { registry with components := registry.components.insert declaration.component ⟨declaration.hash, ∅⟩ } := by
  -- a name that was declared before is taken or clashes, and this one does neither
  have new : firstDeclared? calls declaration.component = none := by
    rw [Option.eq_none_iff_forall_ne_some]
    intro first found
    rcases holds.accounted declaration.component (Option.isSome_of_eq_some found) with taken | clash
    · rw [unnamed] at taken
      contradiction
    · exact free clash
  constructor
  · intro name component named
    rw [SortedMap.get?_insert] at named
    rw [firstDeclared?_concat, Call.declared?]
    by_cases same : declaration.component = name
    · subst same
      rw [if_pos rfl, Option.some.injEq] at named
      exact ⟨declaration, by rw [new, if_pos rfl]; rfl, by rw [← named, hashed]⟩
    · rw [if_neg same] at named
      obtain ⟨first, found, hash⟩ := holds.hashed name component named
      exact ⟨first, by rw [found]; rfl, hash⟩
  · intro name brought
    rw [SortedMap.get?_insert]
    by_cases same : declaration.component = name
    · exact .inl (by rw [if_pos same]; rfl)
    · rw [firstDeclared?_concat, Call.declared?, if_neg same, Option.or_none] at brought
      rw [if_neg same]
      refine (holds.accounted name brought).imp_right ?_
      rintro ⟨taken, key, folded⟩
      refine ⟨taken, ?_, folded⟩
      rw [← SortedMap.get?_isSome_iff] at key ⊢
      rw [SortedMap.get?_insert]
      split
      · rfl
      · exact key

theorem Named.register (holds : Named calls registry) (hashed : declaration.hash = contentHash declaration.body) :
    Named (calls ++ [.register declaration]) (registry.afterCall hash (.register declaration)) := by
  have unchanged (accounted : (registry.components.get? declaration.component).isSome ∨
      registry.Clashes declaration.component) : Named (calls ++ [.register declaration]) registry := by
    refine holds.kept (.refl registry) (fun _ component named => ⟨component, named, rfl⟩) ?_
    intro name brought
    obtain ⟨_, found⟩ := Option.isSome_iff_exists.mp brought
    obtain ⟨rfl, _⟩ := Option.ite_none_right_eq_some.mp found
    exact accounted
  rcases registry.register_cases declaration with
    ⟨_, named, _, answer⟩ | ⟨_, named, _, answer⟩ | ⟨_, clash, answer⟩ | ⟨unnamed, free, answer⟩
  · simpa only [afterCall, answer] using unchanged (.inl (Option.isSome_of_eq_some named))
  · simpa only [afterCall, answer] using unchanged (.inl (Option.isSome_of_eq_some named))
  · simpa only [afterCall, answer] using unchanged (.inr clash)
  · simpa only [afterCall, answer] using holds.register_free hashed unnamed free

theorem Named.add (holds : Named calls registry) (taken : name ∈ registry.components.keys) (records : List Record) :
    Named (calls ++ [.add name records]) (registry.afterCall hash (.add name records)) := by
  obtain ⟨known, named⟩ := Option.isSome_iff_exists.mp (SortedMap.get?_isSome_iff.mpr taken)
  have looked (other : String) : (registry.addRecords hash name records).components.get? other =
      if name = other then some { known with classes := known.classes.addRecords records }
      else registry.components.get? other := by
    simp only [addRecords, named, Option.getD_some, SortedMap.get?_insert]
  have grown : registry.Extends (registry.addRecords hash name records) := by
    constructor
    · intro other component before
      rw [looked]
      by_cases same : name = other
      · subst same
        obtain rfl := Option.some.inj (named.symm.trans before)
        exact ⟨_, if_pos rfl⟩
      · exact ⟨component.classes, by rw [if_neg same, before]⟩
    · intro other unnamed _
      have different : name ≠ other := by
        rintro rfl
        rw [named] at unnamed
        contradiction
      rw [looked, if_neg different, unnamed]
  refine holds.kept grown ?_ ?_
  · intro other component after
    rw [afterCall, looked] at after
    by_cases same : name = other
    · subst same
      rw [if_pos rfl, Option.some.injEq] at after
      exact ⟨known, named, by rw [← after]⟩
    · rw [if_neg same] at after
      exact ⟨component, after, rfl⟩
  · intro _ brought
    contradiction

theorem Named.intern (holds : Named calls registry) (body className : String) :
    Named (calls ++ [.intern body className]) (registry.afterCall hash (.intern body className)) := by
  have grown : registry.Extends (registry.afterCall hash (.intern body className)) :=
    ⟨(Extends.refl registry).kept, (Extends.refl registry).apart⟩
  refine holds.kept grown (fun _ component named => ⟨component, named, rfl⟩) ?_
  intro _ brought
  contradiction

theorem named_afterCalls (orderly : Orderly hash calls) : Named calls (Registry.empty.afterCalls hash calls) := by
  induction orderly with
  | start =>
    constructor
    · intro _ _ named
      contradiction
    · intro _ brought
      contradiction
  | register _ declaration hashed ih =>
    rw [afterCalls_concat]
    exact ih.register hashed
  | add _ component records taken ih =>
    rw [afterCalls_concat]
    exact ih.add taken records
  | intern _ body className ih =>
    rw [afterCalls_concat]
    exact ih.intern body className

/-! ## Taken names -/

/-- A declaration whose name is taken is known exactly if its body and the first one of the name have numbers that
agree up to a multiple of the size of a word, and is refused otherwise, so always if the two bodies differ in one
character. The same body is known. Nothing changes in any case. -/
theorem taken_name_iff (orderly : Orderly hash calls) (hashed : declaration.hash = contentHash declaration.body)
    (taken : declaration.component ∈ (Registry.empty.afterCalls hash calls).components.keys) :
    let registry := Registry.empty.afterCalls hash calls
    ∃ first, firstDeclared? calls declaration.component = some first ∧
      (registry.register declaration = .known ↔
        codeNumber first.body.toList ≡ codeNumber declaration.body.toList [MOD UInt32.size]) ∧
      (registry.register declaration = .refused .nameTaken ↔
        ¬ codeNumber first.body.toList ≡ codeNumber declaration.body.toList [MOD UInt32.size]) ∧
      (first.body = declaration.body → registry.register declaration = .known) ∧
      (∀ text c d rest, first.body.toList = text ++ c :: rest → declaration.body.toList = text ++ d :: rest → c ≠ d →
        registry.register declaration = .refused .nameTaken) ∧
      registry.afterCall hash (.register declaration) = registry := by
  intro registry
  obtain ⟨component, named⟩ := Option.isSome_iff_exists.mp (SortedMap.get?_isSome_iff.mpr taken)
  obtain ⟨first, found, hash⟩ := (named_afterCalls orderly).hashed _ component named
  have compared : component.hash = declaration.hash ↔
      codeNumber first.body.toList ≡ codeNumber declaration.body.toList [MOD UInt32.size] := by
    rw [hash, hashed, contentHash_eq_iff]
  have known (same : component.hash = declaration.hash) : registry.register declaration = .known :=
    register_known named same
  have refused (different : component.hash ≠ declaration.hash) :
      registry.register declaration = .refused .nameTaken := register_taken named different
  refine ⟨first, found, ?_, ?_, ?_, ?_, ?_⟩
  · rw [← compared]
    refine ⟨fun answer => ?_, known⟩
    by_contra different
    rw [refused different] at answer
    contradiction
  · rw [← compared]
    refine ⟨fun answer same => ?_, refused⟩
    rw [known same] at answer
    contradiction
  · intro same
    exact known (compared.mpr (by rw [same]))
  · intro text c d rest before after different
    refine refused fun same => different ?_
    rw [compared, before, after] at same
    exact (codeNumber_modEq_iff_of_char text c d rest).mp same
  · rw [afterCall]
    by_cases same : component.hash = declaration.hash
    · rw [known same]
    · rw [refused same]

/-- A color with one digit changed is refused, after a component of another case was and records have come. -/
theorem taken_name_iff_digit :
    let calls : List Call := [.register (.ofBody "Box" none "color: #Aa0000;"),
      .register (.ofBody "BOX" none "top: 0;"), .add "Box" [⟨∅, "box", "color: #Aa0000;", "", ""⟩]]
    let declaration : Declaration := .ofBody "Box" none "color: #Ab0000;"
    let registry := Registry.empty.afterCalls bodyHash calls
    Orderly bodyHash calls ∧ declaration.hash = contentHash declaration.body ∧
      declaration.component ∈ registry.components.keys ∧
      registry.register declaration = .refused .nameTaken ∧
      registry.afterCall bodyHash (.register declaration) = registry := by
  intro calls declaration registry
  have orderly : Orderly bodyHash calls :=
    ((Orderly.start.register _ rfl).register _ rfl).add "Box" _ (by decide +kernel)
  have taken : declaration.component ∈ registry.components.keys := by decide +kernel
  have hashed : declaration.hash = contentHash declaration.body := rfl
  obtain ⟨first, found, _, _, _, refused, kept⟩ := taken_name_iff orderly hashed taken
  obtain rfl : Declaration.ofBody "Box" none "color: #Aa0000;" = first := Option.some.inj found
  have changed : declaration.body.toList = "color: #A".toList ++ 'b' :: "0000;".toList := by decide
  exact ⟨orderly, rfl, taken, refused "color: #A".toList 'a' 'b' "0000;".toList (by decide) changed (by decide), kept⟩

/-- Two colors of one hash: the second body passes for the first. -/
theorem taken_name_colors :
    let first : Declaration := .ofBody "Box" none "color: #Aa0000;"
    let declaration : Declaration := .ofBody "Box" none "color: #BB0000;"
    let registry := Registry.empty.afterCalls bodyHash [.register first]
    Orderly bodyHash [.register first] ∧ declaration.component ∈ registry.components.keys ∧
      first.body ≠ declaration.body ∧ registry.register declaration = .known := by
  intro first declaration registry
  have taken : registry.components.get? "Box" = some ⟨first.hash, ∅⟩ := by decide +kernel
  have same : first.hash = declaration.hash := by decide +kernel
  refine ⟨Orderly.start.register first rfl, by decide +kernel, by decide, register_known taken same⟩

end Registry
end StaticStyles
