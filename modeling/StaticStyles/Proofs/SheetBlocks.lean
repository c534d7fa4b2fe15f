import StaticStyles.Proofs.Blocks
import StaticStyles.Proofs.BuildRun
import StaticStyles.Proofs.ClassNameText

/-!
The stylesheet of a build. Whatever bodies and values its sources hold, its blocks at the top level are
its rules, each behind its own selector, and nothing in it is left open (`blocks_stylesheet`).
-/
namespace StaticStyles

namespace SharedRule

/-! ## One rule -/

/-- A rule whose classes are class names and whose body is accepted as CSS. -/
structure Checked (rule : SharedRule) : Prop where
  names : ∀ className ∈ rule.classes, ∀ c ∈ className.toList, ClassName.isNameChar c = true
  body : Css.check rule.body.toList = .ok ()

/-- The block of a rule in a sheet, with what separates it from the rule before. -/
def block (separator : List Char) (rule : SharedRule) : Css.Block where
  prelude := separator ++ rule.selector.toList ++ [' ']
  content := ' ' :: rule.body.toList ++ [' ']

/-- The blocks of a sheet: one for each rule, and line breaks between them. -/
def blocks : List SharedRule → List Css.Block
  | [] => []
  | rule :: rest => rule.block [] :: rest.map (block ['\n'])

theorem toList_css (rule : SharedRule) :
    rule.css.toList = rule.selector.toList ++ [' ', '{', ' '] ++ rule.body.toList ++ [' ', '}'] := by
  simp [css]

private theorem mem_intercalate {separator : String} {parts : List String} {c : Char}
    (member : c ∈ (separator.intercalate parts).toList) :
    c ∈ separator.toList ∨ ∃ part ∈ parts, c ∈ part.toList := by
  induction parts with
  | nil => simp at member
  | cons part parts ih =>
    cases parts with
    | nil => exact .inr ⟨part, List.mem_cons_self, by simpa using member⟩
    | cons next parts =>
      rw [String.intercalate_cons_cons, String.toList_append, String.toList_append] at member
      rcases List.mem_append.mp member with h | h
      · rcases List.mem_append.mp h with h | h
        · exact .inr ⟨part, List.mem_cons_self, h⟩
        · exact .inl h
      · rcases ih h with h | ⟨other, present, h⟩
        · exact .inl h
        · exact .inr ⟨other, List.mem_cons_of_mem _ present, h⟩

/-- A selector is made of class names, dots, commas and blanks. -/
theorem Checked.mem_selector {rule : SharedRule} (checked : rule.Checked) {c : Char}
    (member : c ∈ rule.selector.toList) : ClassName.isNameChar c = true ∨ c = '.' ∨ c = ',' ∨ c = ' ' := by
  rcases mem_intercalate member with h | ⟨part, present, h⟩
  · rcases List.mem_cons.mp h with rfl | h
    · exact .inr (.inr (.inl rfl))
    · exact .inr (.inr (.inr (List.mem_singleton.mp h)))
  · obtain ⟨className, listed, rfl⟩ := List.mem_map.mp present
    rw [String.toList_append] at h
    rcases List.mem_append.mp h with h | h
    · exact .inr (.inl (List.mem_singleton.mp h))
    · exact .inl (checked.names className listed c h)

/-- What stands before the body of a rule, its brace apart, has no structure of its own. -/
theorem Checked.mem_prelude {rule : SharedRule} (checked : rule.Checked) {separator : List Char}
    (breaks : ∀ c ∈ separator, c = '\n') {c : Char} (member : c ∈ (rule.block separator).prelude) :
    (c ≠ '\'' ∧ c ≠ '"' ∧ c ≠ '/') ∧ c ≠ '{' ∧ c ≠ '}' := by
  have plain : ClassName.isNameChar c = true ∨ c = '.' ∨ c = ',' ∨ c = ' ' ∨ c = '\n' := by
    rcases List.mem_append.mp member with h | h
    · rcases List.mem_append.mp h with h | h
      · exact .inr (.inr (.inr (.inr (breaks c h))))
      · rcases checked.mem_selector h with h | h | h | h
        · exact .inl h
        · exact .inr (.inl h)
        · exact .inr (.inr (.inl h))
        · exact .inr (.inr (.inr (.inl h)))
    · exact .inr (.inr (.inr (.inl (List.mem_singleton.mp h))))
  refine ⟨⟨?_, ?_, ?_⟩, ?_, ?_⟩ <;>
    · rintro rfl
      revert plain
      decide

/-- The body of a rule, with the blanks around it, leaves nothing open. -/
theorem Checked.closed_content {rule : SharedRule} (checked : rule.Checked) (separator : List Char) :
    Css.Closed (rule.block separator).content := by
  obtain ⟨_, _, body, _⟩ := Css.check_eq_ok_iff.mp checked.body
  have before : Css.Closed (' ' :: rule.body.toList) := Css.closed_blank.append body (by simp [Css.Apart])
  exact before.append Css.closed_blank (by simp [Css.Apart])

/-! ## Rules one below the other -/

/-- A rule adds its block to those of the text behind it. -/
theorem Checked.blocks?_css {rule : SharedRule} (checked : rule.Checked) {separator : List Char}
    (breaks : ∀ c ∈ separator, c = '\n') (rest : List Char) :
    Css.blocks? (separator ++ rule.css.toList ++ rest) =
      (Css.blocks? rest).map fun (blocks, after) => (rule.block separator :: blocks, after) := by
  have text : separator ++ rule.css.toList ++ rest =
      (rule.block separator).prelude ++ '{' :: ((rule.block separator).content ++ '}' :: rest) := by
    simp [block, toList_css]
  rw [text]
  exact Css.blocks?_block (fun c => checked.mem_prelude breaks) (checked.closed_content separator) rest

private theorem blocks?_flatMap {rules : List SharedRule} (checked : ∀ rule ∈ rules, rule.Checked) :
    Css.blocks? (rules.flatMap fun rule => ['\n'] ++ rule.css.toList) = some (rules.map (block ['\n']), []) := by
  induction rules with
  | nil => rfl
  | cons rule rest ih =>
    obtain ⟨first, others⟩ := List.forall_mem_cons.mp checked
    rw [List.flatMap_cons, first.blocks?_css (by simp), ih others]
    rfl

theorem toList_sheet (rule : SharedRule) (rest : List SharedRule) :
    (sheet (rule :: rest)).toList =
      [] ++ rule.css.toList ++ rest.flatMap fun rule => ['\n'] ++ rule.css.toList := by
  induction rest generalizing rule with
  | nil => simp [sheet]
  | cons next rest ih =>
    have step : sheet (rule :: next :: rest) = rule.css ++ "\n" ++ sheet (next :: rest) :=
      String.intercalate_cons_cons
    rw [step, String.toList_append, String.toList_append, ih]
    simp

/-- The blocks of a sheet of checked rules are its rules, and nothing follows them. -/
theorem blocks?_sheet {rules : List SharedRule} (checked : ∀ rule ∈ rules, rule.Checked) :
    Css.blocks? (sheet rules).toList = some (blocks rules, []) := by
  cases rules with
  | nil => rfl
  | cons rule rest =>
    obtain ⟨first, others⟩ := List.forall_mem_cons.mp checked
    rw [toList_sheet, first.blocks?_css (by simp), blocks?_flatMap others]
    rfl

end SharedRule

/-! ## The stylesheet of a run -/

/-- Every rule of a build has class names and a body that was accepted. -/
theorem Registry.Holds.checked {config : BuildConfig} {all : List Found} {registry : Registry}
    (holds : registry.Holds config (Found.firsts all)) : ∀ rule ∈ registry.rules, rule.Checked := by
  intro rule stored
  have recorded {className : String} (listed : className ∈ rule.classes) :
      ∃ found : Found, ∃ record ∈ found.records config,
        record.body = rule.body ∧ record.className = className := by
    obtain ⟨found, _, told⟩ := holds.lists_iff.mp ⟨rule, stored, rfl, listed⟩
    exact ⟨found, told⟩
  constructor
  · intro className listed
    obtain ⟨found, record, member, _, rfl⟩ := recorded listed
    rw [Found.className_of_mem member]
    exact fun c => isNameChar_of_mem_className
  · obtain ⟨className, listed⟩ := List.exists_mem_of_ne_nil _ (holds.classes_ne_nil rule stored)
    obtain ⟨found, record, member, same, _⟩ := recorded listed
    rw [← same]
    exact Found.accepted_of_mem member

/-- After any sources, the stylesheet ends all its strings and comments; outside them no beginning of it
closes more blocks than it opens, and the whole as many. Its blocks at the top level are its rules in
order, each with its own selector before its brace and its own body in it. -/
theorem blocks_stylesheet {config : BuildConfig} {compiler : Compiler}
    (made : Compiler.ofConfig config = .ok compiler) (sources : List (String × String)) :
    let registry := (compiler.after sources).registry
    (∃ kept, Css.strip registry.stylesheet.toList = some kept ∧
      (∀ start, start <+: kept → start.count '}' ≤ start.count '{') ∧ kept.count '}' = kept.count '{') ∧
    Css.blocks? registry.stylesheet.toList = some (SharedRule.blocks registry.rules, []) := by
  intro registry
  have holds : registry.Holds config (Found.firsts (declared sources)) := Compiler.registry_after made sources
  have read := SharedRule.blocks?_sheet holds.checked
  refine ⟨?_, read⟩
  obtain ⟨kept, ended, matched⟩ := Css.closed_of_blocks? read
  exact ⟨kept, ended, Css.balanced_iff.mp matched⟩

/-- A body with a brace in a string, and one with a block of its own. -/
theorem blocks_stylesheet_nested :
    let sources := [("a.tsx", "const A = css\x60content: '\x7d';\x60; const B = styled.i\x60&:hover \x7b top: 0; \x7d\x60;")]
    Compiler.ofConfig .default = .ok .initial ∧
      Css.blocks? (Compiler.initial.after sources).registry.stylesheet.toList =
        some (SharedRule.blocks (Compiler.initial.after sources).registry.rules, []) := by
  intro sources
  exact ⟨Compiler.ofConfig_default, (blocks_stylesheet Compiler.ofConfig_default sources).2⟩

end StaticStyles
