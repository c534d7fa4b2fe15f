import StaticStyles.Proofs.CssText
import StaticStyles.Proofs.SortedMap
import StaticStyles.Rule.Generate

/-!
What is generated for a declaration: exactly the combinations of its patterns whose body can be told and
is accepted as CSS (`mem_records_generate_iff`). Each combination names the props of the patterns that
have values (`mem_keys_of_mem_combinations`).
-/
namespace StaticStyles

/-! ## Accepted CSS -/

/-- Text is accepted if it is not blank, shows no sign of script, leaves nothing open, and has something
that CSS is made of. -/
theorem Css.check_eq_ok_iff {css : List Char} :
    Css.check css = .ok () ↔
      Text.isBlankText css = false ∧ Css.looksLikeScript css = false ∧
        Css.Closed css ∧ Css.hasConstruct css = true := by
  unfold Css.check Css.Closed
  by_cases blank : Text.isBlankText css = true
  · simp [blank]
  · by_cases script : Css.looksLikeScript css = true
    · simp [blank, script]
    · cases stripped : Css.strip css with
      | none => simp [blank, script]
      | some outside =>
        by_cases closed : Css.balanced outside = true
        · by_cases construct : Css.hasConstruct css = true <;> simp [blank, script, closed, construct]
        · simp [blank, script, closed]

namespace Pattern

/-! ## Combinations -/

theorem names_of_mem_choices {patterns : List Pattern} {choice : List (String × String)}
    (member : choice ∈ choices patterns) : choice.map (·.1) = patterns.map (·.prop) := by
  induction patterns generalizing choice with
  | nil =>
    rw [choices, List.mem_singleton] at member
    rw [member]
    rfl
  | cons pattern rest ih =>
    obtain ⟨value, _, member⟩ := List.mem_flatMap.mp member
    obtain ⟨others, later, rfl⟩ := List.mem_map.mp member
    rw [List.map_cons, List.map_cons, ih later]

/-- A combination names the props of the patterns with values. -/
theorem mem_keys_of_mem_combinations {patterns : List Pattern} {combination : Combination}
    (member : combination ∈ combinations patterns) {prop : String} :
    prop ∈ combination.keys ↔ ∃ pattern ∈ patterns, pattern.values ≠ [] ∧ pattern.prop = prop := by
  obtain ⟨choice, chosen, rfl⟩ := List.mem_map.mp member
  rw [SortedMap.mem_keys_ofList, names_of_mem_choices chosen, List.mem_map]
  simp [and_assoc]

/-- If every pattern has a value, no prop is held at its default. -/
theorem heldDefaults_of_values {patterns : List Pattern} (valued : ∀ pattern ∈ patterns, pattern.values ≠ []) :
    heldDefaults patterns = ∅ := by
  have unheld : patterns.filter (·.values.isEmpty) = [] := by
    refine List.filter_eq_nil_iff.mpr ?_
    intro pattern member
    simpa using valued pattern member
  rw [heldDefaults, unheld]
  rfl

end Pattern

namespace Rule

/-! ## Records -/

/-- The body for a combination is its interpolation, if that is accepted. -/
theorem bodyFor_eq_ok_iff {body css : String} {held combination : Combination} :
    bodyFor body held combination = .ok css ↔
      interpolate body (held.insertAll combination.entries) = .ok css ∧ Css.check css.toList = .ok () := by
  unfold bodyFor
  cases filled : interpolate body (held.insertAll combination.entries) with
  | error fault => simp [bind, Except.bind]
  | ok text =>
    cases checked : Css.check text.toList with
    | error fault =>
      simp only [bind, Except.bind, checked, reduceCtorEq, Except.ok.injEq, false_iff, not_and]
      rintro rfl accepted
      rw [checked] at accepted
      contradiction
    | ok _ =>
      simp only [bind, Except.bind, checked, pure, Except.pure, Except.ok.injEq]
      constructor
      · rintro rfl
        exact ⟨rfl, checked⟩
      · exact And.left

theorem mem_records_ofOutcomes {outcomes : List (Except Diagnostic Record)} {record : Record} :
    record ∈ (Generated.ofOutcomes outcomes).records ↔ .ok record ∈ outcomes := by
  simp only [Generated.ofOutcomes, List.mem_filterMap]
  constructor
  · rintro ⟨outcome, member, taken⟩
    cases outcome with
    | error diagnostic => simp at taken
    | ok other => simpa [← Option.some.inj taken] using member
  · intro member
    exact ⟨.ok record, member, rfl⟩

theorem outcome_eq_ok_iff {component body : String} {held combination : Combination} {record : Record} :
    outcome component body held combination = .ok record ↔
      ∃ css, bodyFor body held combination = .ok css ∧ record = .ofBody component combination css := by
  unfold outcome
  cases bodyFor body held combination with
  | error fault => simp
  | ok css => simp [eq_comm]

/-- The records of a declaration that does not move, has an acceptable body and needs no more
combinations than the limit: one for each combination whose body can be told and is accepted. -/
theorem mem_records_generate_iff {limit : Nat} {declaration : Declaration} {patterns : List Pattern}
    {record : Record} :
    record ∈ (generate limit declaration patterns).records ↔
      (declaration.animated = false ∧ Css.checkBody declaration.body.toList = .ok () ∧
        Pattern.combinationCount patterns ≤ limit) ∧
      ∃ combination ∈ Pattern.combinations patterns, ∃ css,
        bodyFor declaration.body (Pattern.heldDefaults patterns) combination = .ok css ∧
          record = .ofBody declaration.component combination css := by
  unfold generate
  by_cases moves : declaration.animated = true
  · simp [moves]
  · rw [if_neg moves]
    cases accepted : Css.checkBody declaration.body.toList with
    | error fault => simp
    | ok _ =>
      by_cases many : Pattern.combinationCount patterns > limit
      · simp [many, Nat.not_le.mpr many]
      · have few : Pattern.combinationCount patterns ≤ limit := Nat.not_lt.mp many
        simp only [if_neg many, mem_records_ofOutcomes, List.mem_map, outcome_eq_ok_iff]
        simp [moves, few]

end Rule
end StaticStyles
