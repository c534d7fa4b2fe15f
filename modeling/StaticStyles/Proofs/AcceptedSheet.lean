import StaticStyles.Proofs.Interpolation
import StaticStyles.Proofs.ScriptSigns
import StaticStyles.Proofs.SheetBlocks

/-!
Which stylesheets are taken for CSS again. Bodies were accepted before, so a sheet can only fail for a class
name in it, and fails exactly if one has the word of a statement between its hyphens
(`SharedRule.check_sheet_iff`); only then does a build leave its sheet as it is (`accepted_stylesheet_iff`).
-/
namespace StaticStyles

namespace SharedRule
open Text

/-! ## Signs of script in rules -/

private theorem occurs_class (name : String) :
    occurs Css.scriptHere none ("." ++ name).toList = occurs Css.scriptHere none name.toList := by
  have text : ("." ++ name).toList = [] ++ '.' :: name.toList := by simp
  rw [text, Css.occurs_append_separator (by decide +kernel)]
  rfl

private theorem occurs_selector (classes : List String) :
    occurs Css.scriptHere none (", ".intercalate (classes.map ("." ++ ·))).toList =
      classes.any fun name => occurs Css.scriptHere none name.toList := by
  induction classes with
  | nil => rfl
  | cons name rest ih =>
    cases rest with
    | nil => simpa using occurs_class name
    | cons next rest =>
      have text : (", ".intercalate ((name :: next :: rest).map ("." ++ ·))).toList =
          ("." ++ name).toList ++ ',' :: ([] ++ ' ' ::
            (", ".intercalate ((next :: rest).map ("." ++ ·))).toList) := by
        rw [List.map_cons, List.map_cons, String.intercalate_cons_cons]
        simp
      rw [text, Css.occurs_append_separator (by decide +kernel), Css.occurs_append_separator (by decide +kernel),
        ih, occurs_class]
      rfl

/-- A rule shows the signs of its class names and of its body. -/
theorem occurs_css (rule : SharedRule) :
    occurs Css.scriptHere none rule.css.toList =
      ((rule.classes.any fun name => occurs Css.scriptHere none name.toList) ||
        occurs Css.scriptHere none rule.body.toList) := by
  have text : rule.css.toList =
      rule.selector.toList ++ ' ' :: (['{'] ++ ' ' :: (rule.body.toList ++ ' ' :: ['}'])) := by
    simp [toList_css]
  have opening : occurs Css.scriptHere none ['{'] = false := by decide +kernel
  have closing : occurs Css.scriptHere none ['}'] = false := by decide +kernel
  have blank : Css.separates ' ' = true := by decide +kernel
  rw [text, Css.occurs_append_separator blank, Css.occurs_append_separator blank,
    Css.occurs_append_separator blank, opening, closing, selector, occurs_selector, Bool.false_or, Bool.or_false]

theorem occurs_sheet (rules : List SharedRule) :
    occurs Css.scriptHere none (sheet rules).toList =
      rules.any fun rule => occurs Css.scriptHere none rule.css.toList := by
  induction rules with
  | nil => rfl
  | cons rule rest ih =>
    cases rest with
    | nil => simp [sheet]
    | cons next rest =>
      have text : (sheet (rule :: next :: rest)).toList = rule.css.toList ++ '\n' :: (sheet (next :: rest)).toList := by
        rw [sheet, List.map_cons, List.map_cons, String.intercalate_cons_cons]
        simp [sheet]
      rw [text, Css.occurs_append_separator (by decide +kernel), ih]
      rfl

/-- An accepted body shows no sign of script. -/
theorem Checked.occurs_body {rule : SharedRule} (checked : rule.Checked) :
    occurs Css.scriptHere none rule.body.toList = false := by
  obtain ⟨_, clean, _, _⟩ := Css.check_eq_ok_iff.mp checked.body
  simp only [Css.looksLikeScript, Bool.or_eq_false_iff] at clean
  exact clean.2

/-! ## Accepted sheets -/

private theorem looksLikeScript_class (text : List Char) :
    Css.looksLikeScript ('.' :: text) = occurs Css.scriptHere none ('.' :: text) := by
  have solid : skipBlanks ('.' :: text) = '.' :: text := rfl
  simp [Css.looksLikeScript, solid, Css.beginsModule, Css.beginsBinding, Css.beginsFunction, Css.beginsAssignment,
    Css.beginsWithWord, after?, afterChars?, name?, isNameStart]

/-- A sheet begins with the dot of a class, and a brace follows. -/
private theorem exists_toList_sheet {rule : SharedRule} (rest : List SharedRule) (named : rule.classes ≠ []) :
    ∃ text, (sheet (rule :: rest)).toList = '.' :: text ∧ '{' ∈ text := by
  obtain ⟨name, others, classes⟩ := List.exists_cons_of_ne_nil named
  have selector : ∃ later, rule.selector.toList = '.' :: later := by
    rw [SharedRule.selector, classes]
    cases others with
    | nil => exact ⟨name.toList, by simp⟩
    | cons next others =>
      rw [List.map_cons, List.map_cons, String.intercalate_cons_cons]
      exact ⟨_, by simp; rfl⟩
  obtain ⟨later, begins⟩ := selector
  refine ⟨_, by rw [toList_sheet, toList_css, begins]; rfl, ?_⟩
  simp

/-- A sheet of checked rules is accepted exactly if no class name of it has the word of a statement. -/
theorem check_sheet_iff {rules : List SharedRule} (filled : rules ≠ []) (checked : ∀ rule ∈ rules, rule.Checked)
    (named : ∀ rule ∈ rules, rule.classes ≠ []) :
    Css.check (sheet rules).toList = .ok () ↔
      ∀ rule ∈ rules, ∀ name ∈ rule.classes, ClassName.saysStatement name.toList = false := by
  have signs : occurs Css.scriptHere none (sheet rules).toList = false ↔
      ∀ rule ∈ rules, ∀ name ∈ rule.classes, ClassName.saysStatement name.toList = false := by
    rw [occurs_sheet, List.any_eq_false]
    refine forall₂_congr fun rule stored => ?_
    rw [occurs_css, (checked rule stored).occurs_body, Bool.or_false, Bool.not_eq_true, List.any_eq_false]
    refine forall₂_congr fun name listed => ?_
    rw [ClassName.occurs_scriptHere ((checked rule stored).names name listed), Bool.not_eq_true]
  obtain ⟨rule, rest, rfl⟩ := List.exists_cons_of_ne_nil filled
  obtain ⟨text, begins, brace⟩ := exists_toList_sheet rest (named rule List.mem_cons_self)
  have solid : isBlankText (sheet (rule :: rest)).toList = false := by
    rw [begins]
    rfl
  have construct : Css.hasConstruct (sheet (rule :: rest)).toList = true := by
    obtain ⟨before, after, rfl⟩ := List.append_of_mem brace
    rw [begins, Css.hasConstruct, ← List.cons_append]
    exact occurs_append (fun _ => by simp [Css.constructHere]) _ _
  have closed : Css.Closed (sheet (rule :: rest)).toList := Css.closed_of_blocks? (blocks?_sheet checked)
  rw [← signs, Css.check_eq_ok_iff, begins, looksLikeScript_class, ← begins]
  simp [solid, construct, closed]

end SharedRule

/-- The rule of a record is that of its class and its body alone. -/
theorem Record.rule_ofBody (component : String) (combination : Combination) (body : String) :
    (ofBody component combination body).rule =
      SharedRule.sheet [⟨[StaticStyles.className component combination], body⟩] := by
  simp [ofBody, SharedRule.sheet, SharedRule.css, SharedRule.selector]

/-! ## The sheet of a build -/

theorem Found.check_rule_iff {config : BuildConfig} {found : Found} {record : Record}
    (member : record ∈ found.records config) :
    Css.check record.rule.toList = .ok () ↔ ClassName.saysStatement record.className.toList = false := by
  have accepted := accepted_of_mem member
  obtain ⟨_, _, _, combination, _, css, _, _, rfl⟩ := mem_records member
  have checked : SharedRule.Checked ⟨[className found.declaration.component combination], css⟩ := by
    refine ⟨?_, accepted⟩
    intro name listed c
    rw [List.mem_singleton.mp listed]
    exact isNameChar_of_mem_className
  rw [Record.rule_ofBody, SharedRule.check_sheet_iff (by simp) (by simpa using checked) (by simp)]
  simp [Record.ofBody]

theorem SharedRule.sheet_eq_empty_iff {rules : List SharedRule} (named : ∀ rule ∈ rules, rule.classes ≠ []) :
    sheet rules = "" ↔ rules = [] := by
  cases rules with
  | nil => simp [sheet]
  | cons rule rest =>
    obtain ⟨text, begins, _⟩ := exists_toList_sheet rest (named rule List.mem_cons_self)
    simp only [reduceCtorEq, iff_false]
    intro empty
    rw [empty] at begins
    contradiction

/-- The rule of a record is accepted as CSS exactly if no part of its class name between hyphens is the word
of a statement. A stylesheet that is not empty is accepted exactly if this holds of all records of its build;
if it does, the transform is reached and its outcome counts, and otherwise the sheet stays as it is. -/
theorem accepted_stylesheet_iff {config : BuildConfig} {compiler : Compiler}
    (made : Compiler.ofConfig config = .ok compiler) (sources : List (String × String))
    (transform : BuildConfig → String → Css.Outcome) :
    let build := compiler.after sources
    let sheet := build.registry.stylesheet
    let plain := ∀ found, Found.IsFirst (declared sources) found → ∀ record ∈ found.records config,
      ClassName.saysStatement record.className.toList = false
    (∀ found, Found.IsFirst (declared sources) found → ∀ record ∈ found.records config,
      (Css.check record.rule.toList = .ok () ↔ ClassName.saysStatement record.className.toList = false)) ∧
    (sheet ≠ "" → (Css.check sheet.toList = .ok () ↔ plain) ∧
      (plain → (build.finish transform).stylesheet = Css.settle config.minify sheet (transform config sheet)) ∧
      (¬ plain → (build.finish transform).stylesheet = ⟨sheet, none⟩)) := by
  intro build sheet plain
  have holds : build.registry.Holds config (Found.firsts (declared sources)) := Compiler.registry_after made sources
  have settings : build.config = config := by
    rw [Compiler.config_after]
    exact (Compiler.ofConfig_eq_ok made).1
  refine ⟨fun found _ record member => Found.check_rule_iff member, ?_⟩
  intro nonempty
  have filled : build.registry.rules ≠ [] := by
    intro none
    exact nonempty ((SharedRule.sheet_eq_empty_iff holds.classes_ne_nil).mpr none)
  have names : plain ↔ ∀ rule ∈ build.registry.rules, ∀ name ∈ rule.classes,
      ClassName.saysStatement name.toList = false := by
    constructor
    · intro clean rule stored name listed
      obtain ⟨found, first, record, member, _, rfl⟩ := holds.lists_iff.mp ⟨rule, stored, rfl, listed⟩
      exact clean found first record member
    · intro clean found first record member
      obtain ⟨rule, stored, _, listed⟩ := holds.lists_iff.mpr ⟨found, first, record, member, rfl, rfl⟩
      exact clean rule stored record.className listed
  have accepted : Css.check sheet.toList = .ok () ↔ plain := by
    rw [names]
    exact SharedRule.check_sheet_iff filled holds.checked holds.classes_ne_nil
  have finished : (build.finish transform).stylesheet = Css.optimize (transform config) config.minify sheet := by
    simp only [Compiler.finish, settings]
    exact if_neg nonempty
  refine ⟨accepted, ?_, ?_⟩
  · intro clean
    rw [finished, Css.optimize, accepted.mpr clean]
  · intro dirty
    rw [finished, Css.optimize]
    cases checked : Css.check sheet.toList with
    | ok _ => exact absurd (accepted.mp checked) dirty
    | error fault => rfl

/-- A class name that contains the word of a statement, but not as a part between hyphens. -/
theorem accepted_stylesheet_iff_returned :
    let sources := [("a.tsx", "const Returned = styled.i\x60color: red\x60;")]
    let build := Compiler.initial.after sources
    let transform (_ : BuildConfig) (_ : String) : Css.Outcome := .produced ".returned\x7bcolor:red\x7d" none
    Compiler.ofConfig .default = .ok .initial ∧ build.registry.stylesheet ≠ "" ∧
      (∀ found, Found.IsFirst (declared sources) found → ∀ record ∈ found.records .default,
        ClassName.saysStatement record.className.toList = false) ∧
      (build.finish transform).stylesheet = ⟨".returned\x7bcolor:red\x7d", none⟩ := by
  intro sources build transform
  have nonempty : build.registry.stylesheet ≠ "" := by
    rw [Registry.stylesheet, Compiler.rules_after Compiler.ofConfig_default (by decide +kernel)]
    decide +kernel
  have plain : ∀ found, Found.IsFirst (declared sources) found → ∀ record ∈ found.records .default,
      ClassName.saysStatement record.className.toList = false := by
    have all : ∀ found ∈ declared sources, ∀ record ∈ found.records .default,
        ClassName.saysStatement record.className.toList = false := by
      decide +kernel
    exact fun found first => all found first.mem
  have accepted := (accepted_stylesheet_iff Compiler.ofConfig_default sources transform).2 nonempty
  exact ⟨Compiler.ofConfig_default, nonempty, plain, accepted.2.1 plain⟩

/-- The rule of a component whose class name is such a word is refused, though its body was accepted, and so is
the whole stylesheet, which no transform sees. -/
theorem refused_stylesheet_return :
    let sources := [("a.tsx", "const Return = styled.i\x60color: red\x60;")]
    let build := Compiler.initial.after sources
    (∃ found, Found.IsFirst (declared sources) found ∧ ∃ record ∈ found.records .default,
      Css.check record.body.toList = .ok () ∧ Css.check record.rule.toList = .error .script) ∧
    build.registry.stylesheet = ".return \x7b color: red \x7d" ∧
    Css.check build.registry.stylesheet.toList = .error .script ∧
    ∀ transform, (build.finish transform).stylesheet = ⟨build.registry.stylesheet, none⟩ := by
  intro sources build
  have sheet : build.registry.stylesheet = ".return \x7b color: red \x7d" := by
    rw [Registry.stylesheet, Compiler.rules_after Compiler.ofConfig_default (by decide +kernel)]
    decide +kernel
  have refused : Css.check build.registry.stylesheet.toList = .error .script := by
    rw [sheet]
    decide +kernel
  refine ⟨?_, sheet, refused, ?_⟩
  · let found : Found := ⟨"const Return = styled.i\x60color: red\x60;".toList, .ofBody "Return" (some "i") "color: red"⟩
    have declares : declared sources = [found] := by decide +kernel
    refine ⟨found, ⟨[], [], declares, by simp⟩, ?_⟩
    decide +kernel
  · intro transform
    have nonempty : build.registry.stylesheet ≠ "" := by
      rw [sheet]
      decide
    simp only [Compiler.finish, if_neg nonempty, Css.optimize, refused]

end StaticStyles
