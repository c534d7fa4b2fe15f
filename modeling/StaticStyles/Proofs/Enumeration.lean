import Mathlib.Data.List.Forall2
import StaticStyles.Proofs.Generation

/-!
The walk through the combinations of a declaration. Every choice of one value for each pattern is met
once, in lexicographic order (`mem_combinations_iff`, `pairwise_combinations`), and yields one record or
one diagnostic; beyond the limit nothing is walked at all (`generate_enumerates`).
-/
namespace StaticStyles

theorem SortedMap.get?_ofList_cons {β : Type} {key : String} {value : β} {entries : List (String × β)}
    (fresh : key ∉ entries.map (·.1)) (other : String) :
    (ofList ((key, value) :: entries)).get? other =
      if key = other then some value else (ofList entries).get? other := by
  simp only [get?_ofList, List.reverse_cons, List.find?_append]
  by_cases same : key = other
  · subst same
    have unseen : entries.reverse.find? (fun entry => entry.1 = key) = none := by
      rw [List.find?_eq_none]
      intro entry member at_key
      refine fresh (List.mem_map.mpr ⟨entry, List.mem_reverse.mp member, ?_⟩)
      simpa using at_key
    simp [unseen]
  · simp [same]

namespace Pattern

/-! ## Choices -/

/-- A combination that gives each of the patterns one of its values, and nothing else. -/
structure IsChoice (patterns : List Pattern) (combination : Combination) : Prop where
  keys : ∀ name, name ∈ combination.keys ↔ ∃ pattern ∈ patterns, pattern.prop = name
  values : ∀ pattern ∈ patterns, ∃ value ∈ pattern.values, combination.get? pattern.prop = some value

/-- The lexicographic order: of the first pattern that tells two combinations apart, the earlier one has
the earlier value. -/
def Before (patterns : List Pattern) (a b : Combination) : Prop :=
  ∃ earlier pattern later, patterns = earlier ++ pattern :: later ∧
    (∀ same ∈ earlier, a.get? same.prop = b.get? same.prop) ∧
    ∃ x y, [x, y].Sublist pattern.values ∧ a.get? pattern.prop = some x ∧ b.get? pattern.prop = some y

theorem not_before_self {patterns : List Pattern} (distinct : ∀ pattern ∈ patterns, pattern.values.Nodup)
    (a : Combination) : ¬ Before patterns a a := by
  rintro ⟨earlier, pattern, later, rfl, -, x, y, order, left, right⟩
  obtain rfl : x = y := Option.some.inj (left.symm.trans right)
  have single := distinct pattern (List.mem_append_right _ List.mem_cons_self)
  exact List.nodup_iff_sublist.mp single x order

theorem mem_choices_cons {pattern : Pattern} {rest : List Pattern} {choice : List (String × String)} :
    choice ∈ choices (pattern :: rest) ↔
      ∃ value ∈ pattern.values, ∃ others ∈ choices rest, choice = (pattern.prop, value) :: others := by
  simp only [choices, List.mem_flatMap, List.mem_map, eq_comm]

theorem length_choices (patterns : List Pattern) :
    (choices patterns).length = (patterns.map (·.values.length)).foldr (· * ·) 1 := by
  induction patterns with
  | nil => rfl
  | cons pattern rest ih =>
    rw [choices, List.map_cons, List.foldr_cons, ← ih]
    induction pattern.values with
    | nil => simp
    | cons value values step =>
      rw [List.flatMap_cons, List.length_append, List.length_map, step, List.length_cons, Nat.succ_mul,
        Nat.add_comm]

section
variable {pattern : Pattern} {rest : List Pattern}

private theorem fresh_of_mem_choices (fresh : pattern.prop ∉ rest.map (·.prop)) {others : List (String × String)}
    (chosen : others ∈ choices rest) : pattern.prop ∉ others.map (·.1) := by
  rwa [names_of_mem_choices chosen]

/-- Behind the first pattern, a choice of it says what the rest of it says. -/
private theorem get?_rest (fresh : pattern.prop ∉ rest.map (·.prop)) {others : List (String × String)}
    (chosen : others ∈ choices rest) {value : String} {other : Pattern} (member : other ∈ rest) :
    (SortedMap.ofList ((pattern.prop, value) :: others)).get? other.prop =
      (SortedMap.ofList others).get? other.prop := by
  have different : pattern.prop ≠ other.prop := by
    intro same
    exact fresh (List.mem_map.mpr ⟨other, member, same.symm⟩)
  rw [SortedMap.get?_ofList_cons (fresh_of_mem_choices fresh chosen), if_neg different]

private theorem before_cons_of_before (fresh : pattern.prop ∉ rest.map (·.prop))
    {value : String} {a b : List (String × String)} (left : a ∈ choices rest) (right : b ∈ choices rest)
    (order : Before rest (.ofList a) (.ofList b)) :
    Before (pattern :: rest) (.ofList ((pattern.prop, value) :: a)) (.ofList ((pattern.prop, value) :: b)) := by
  obtain ⟨earlier, decisive, later, rfl, agree, x, y, sorted, at_a, at_b⟩ := order
  have inside : decisive ∈ earlier ++ decisive :: later := List.mem_append_right _ List.mem_cons_self
  refine ⟨pattern :: earlier, decisive, later, rfl, ?_, x, y, sorted, ?_, ?_⟩
  · intro same member
    rcases List.mem_cons.mp member with rfl | member
    · rw [SortedMap.get?_ofList_cons (fresh_of_mem_choices fresh left),
        SortedMap.get?_ofList_cons (fresh_of_mem_choices fresh right), if_pos rfl, if_pos rfl]
    · have before : same ∈ earlier ++ decisive :: later := List.mem_append_left _ member
      rw [get?_rest fresh left before, get?_rest fresh right before]
      exact agree same member
  · rw [get?_rest fresh left inside]
    exact at_a
  · rw [get?_rest fresh right inside]
    exact at_b

private theorem before_cons_of_sublist (fresh : pattern.prop ∉ rest.map (·.prop))
    {x y : String} (order : [x, y].Sublist pattern.values) {a b : List (String × String)}
    (left : a ∈ choices rest) (right : b ∈ choices rest) :
    Before (pattern :: rest) (.ofList ((pattern.prop, x) :: a)) (.ofList ((pattern.prop, y) :: b)) := by
  refine ⟨[], pattern, rest, rfl, by simp, x, y, order, ?_, ?_⟩
  · rw [SortedMap.get?_ofList_cons (fresh_of_mem_choices fresh left), if_pos rfl]
  · rw [SortedMap.get?_ofList_cons (fresh_of_mem_choices fresh right), if_pos rfl]

end

/-- The choices are walked in lexicographic order. -/
theorem pairwise_choices {patterns : List Pattern} (named : (patterns.map (·.prop)).Nodup) :
    (choices patterns).Pairwise fun a b => Before patterns (.ofList a) (.ofList b) := by
  induction patterns with
  | nil => exact List.pairwise_singleton _ _
  | cons pattern rest ih =>
    obtain ⟨fresh, named⟩ := List.nodup_cons.mp named
    rw [choices, List.pairwise_flatMap]
    constructor
    · intro value _
      rw [List.pairwise_map]
      exact (ih named).imp_of_mem fun left right order => before_cons_of_before fresh left right order
    · rw [List.pairwise_iff_forall_sublist]
      intro x y order a left b right
      obtain ⟨a, in_left, rfl⟩ := List.mem_map.mp left
      obtain ⟨b, in_right, rfl⟩ := List.mem_map.mp right
      exact before_cons_of_sublist fresh order in_left in_right

/-! ## Combinations -/

theorem isChoice_of_mem_choices {patterns : List Pattern} (named : (patterns.map (·.prop)).Nodup)
    {choice : List (String × String)} (chosen : choice ∈ choices patterns) :
    IsChoice patterns (.ofList choice) := by
  refine ⟨?_, ?_⟩
  · intro name
    rw [SortedMap.mem_keys_ofList, names_of_mem_choices chosen, List.mem_map]
  · induction patterns generalizing choice with
    | nil => simp
    | cons pattern rest ih =>
      obtain ⟨fresh, named⟩ := List.nodup_cons.mp named
      obtain ⟨value, listed, others, later, rfl⟩ := mem_choices_cons.mp chosen
      intro other member
      rcases List.mem_cons.mp member with rfl | member
      · refine ⟨value, listed, ?_⟩
        rw [SortedMap.get?_ofList_cons (fresh_of_mem_choices fresh later), if_pos rfl]
      · rw [get?_rest fresh later member]
        exact ih named later other member

/-- Values for patterns are a choice, whatever map tells them. -/
private theorem exists_mem_choices {patterns : List Pattern} (named : (patterns.map (·.prop)).Nodup)
    {combination : Combination}
    (told : ∀ pattern ∈ patterns, ∃ value ∈ pattern.values, combination.get? pattern.prop = some value) :
    ∃ choice ∈ choices patterns, ∀ pattern ∈ patterns,
      (SortedMap.ofList choice).get? pattern.prop = combination.get? pattern.prop := by
  induction patterns with
  | nil => exact ⟨[], by simp [choices], by simp⟩
  | cons pattern rest ih =>
    obtain ⟨fresh, named⟩ := List.nodup_cons.mp named
    obtain ⟨⟨value, listed, at_prop⟩, told⟩ := List.forall_mem_cons.mp told
    obtain ⟨others, chosen, agree⟩ := ih named told
    refine ⟨(pattern.prop, value) :: others, mem_choices_cons.mpr ⟨value, listed, others, chosen, rfl⟩, ?_⟩
    intro other member
    rcases List.mem_cons.mp member with rfl | member
    · rw [SortedMap.get?_ofList_cons (fresh_of_mem_choices fresh chosen), if_pos rfl, at_prop]
    · rw [get?_rest fresh chosen member]
      exact agree other member

/-- The patterns that are walked. -/
abbrev valued (patterns : List Pattern) : List Pattern := patterns.filter (!·.values.isEmpty)

theorem nodup_props_valued {patterns : List Pattern} (named : (patterns.map (·.prop)).Nodup) :
    ((valued patterns).map (·.prop)).Nodup :=
  named.sublist (List.filter_sublist.map _)

theorem mem_combinations_iff {patterns : List Pattern} (named : (patterns.map (·.prop)).Nodup)
    {combination : Combination} :
    combination ∈ combinations patterns ↔ IsChoice (valued patterns) combination := by
  have named := nodup_props_valued named
  constructor
  · intro member
    obtain ⟨choice, chosen, rfl⟩ := List.mem_map.mp member
    exact isChoice_of_mem_choices named chosen
  · intro choice
    obtain ⟨list, chosen, agree⟩ := exists_mem_choices named choice.values
    refine List.mem_map.mpr ⟨list, chosen, SortedMap.ext_get? ?_⟩
    intro name
    by_cases walked : ∃ pattern ∈ valued patterns, pattern.prop = name
    · obtain ⟨pattern, member, rfl⟩ := walked
      exact agree pattern member
    · have unnamed : (SortedMap.ofList list).get? name = none := by
        rwa [SortedMap.get?_eq_none_iff, (isChoice_of_mem_choices named chosen).keys]
      rwa [unnamed, eq_comm, SortedMap.get?_eq_none_iff, choice.keys]

theorem pairwise_combinations {patterns : List Pattern} (named : (patterns.map (·.prop)).Nodup) :
    (combinations patterns).Pairwise (Before (valued patterns)) :=
  List.pairwise_map.mpr (pairwise_choices (nodup_props_valued named))

theorem nodup_combinations {patterns : List Pattern} (named : (patterns.map (·.prop)).Nodup)
    (distinct : ∀ pattern ∈ patterns, pattern.values.Nodup) : (combinations patterns).Nodup := by
  refine (pairwise_combinations named).imp ?_
  rintro a b order rfl
  exact not_before_self (fun pattern member => distinct pattern (List.mem_of_mem_filter member)) a order

/-! ## Their number -/

/-- The number of choices as an unbounded product: patterns without values take no part in it. -/
theorem choiceCount_eq (patterns : List Pattern) :
    choiceCount patterns = ((valued patterns).map (·.values.length)).foldr (· * ·) 1 := by
  induction patterns with
  | nil => rfl
  | cons pattern rest ih =>
    rw [choiceCount, ih]
    by_cases held : pattern.values.isEmpty = true <;> simp [held]

theorem length_combinations (patterns : List Pattern) :
    (combinations patterns).length = choiceCount patterns := by
  rw [combinations, List.length_map, length_choices, choiceCount_eq]

theorem combinationCount_eq_min (patterns : List Pattern) :
    combinationCount patterns = min (choiceCount patterns) greatestCount := by
  unfold combinationCount
  split <;> omega

/-! ## Held defaults -/

/-- The value that a prop is held at: the default of its pattern, if the pattern has no values. -/
def held? (patterns : List Pattern) (name : String) : Option String :=
  (patterns.find? fun pattern => pattern.values.isEmpty && pattern.prop = name).bind (·.default)

/-- The props of a combination and, where it has none, the values that props are held at. -/
def IsContext (patterns : List Pattern) (combination context : Combination) : Prop :=
  ∀ name, context.get? name = (combination.get? name).or (held? patterns name)

private theorem find?_entries_reverse (combination : Combination) (name : String) :
    (combination.entries.reverse.find? fun entry => entry.1 = name).map (·.2) = combination.get? name := by
  rw [← SortedMap.get?_ofList]
  exact congrArg (SortedMap.get? · name) (SortedMap.insertAll_entries combination)

theorem get?_heldDefaults {patterns : List Pattern} (named : (patterns.map (·.prop)).Nodup) (name : String) :
    (heldDefaults patterns).get? name = held? patterns name := by
  induction patterns with
  | nil => rfl
  | cons pattern rest ih =>
    obtain ⟨fresh, named⟩ := List.nodup_cons.mp named
    have unheld : pattern.prop ∉ ((rest.filter (·.values.isEmpty)).filterMap fun pattern =>
        pattern.default.map (pattern.prop, ·)).map (·.1) := by
      simp only [List.mem_map, List.mem_filterMap, Option.map_eq_some_iff, not_exists, not_and]
      rintro entry ⟨other, member, value, _, rfl⟩ same
      exact fresh (List.mem_map.mpr ⟨other, List.mem_of_mem_filter member, same⟩)
    have ih : (SortedMap.ofList ((rest.filter (·.values.isEmpty)).filterMap fun pattern =>
        pattern.default.map (pattern.prop, ·))).get? name = held? rest name := ih named
    rw [heldDefaults, List.filter_cons, held?, List.find?_cons]
    by_cases empty : pattern.values.isEmpty = true
    · rw [if_pos empty, List.filterMap_cons]
      cases default : pattern.default with
      | none =>
        by_cases same : pattern.prop = name
        · subst same
          have absent : held? rest pattern.prop = none := by
            rw [← ih, SortedMap.get?_eq_none_iff, SortedMap.mem_keys_ofList]
            exact unheld
          simpa [empty, default] using ih.trans absent
        · simpa [empty, same, held?] using ih
      | some value =>
        rw [Option.map_some]
        simp only [SortedMap.get?_ofList_cons unheld, ih]
        by_cases same : pattern.prop = name <;> simp [empty, same, default, held?]
    · simpa [empty, held?] using ih

theorem isContext_insertAll {patterns : List Pattern} (named : (patterns.map (·.prop)).Nodup)
    (combination : Combination) :
    IsContext patterns combination ((heldDefaults patterns).insertAll combination.entries) := by
  intro name
  rw [SortedMap.get?_insertAll, find?_entries_reverse, get?_heldDefaults named]

end Pattern

namespace Rule

/-! ## What a combination yields -/

/-- What one combination yields: a record of the body that its props make, with the values that other
props are held at, if that body comes about and is accepted; otherwise one diagnostic that says why
not. -/
inductive Yields (declaration : Declaration) (patterns : List Pattern) (combination : Combination) :
    Except Diagnostic Record → Prop
  | record {context : Combination} {record : Record} (props : Pattern.IsContext patterns combination context)
      (filled : interpolate declaration.body context = .ok record.body)
      (accepted : Css.check record.body.toList = .ok ()) (same : record.combination = combination) :
      Yields declaration patterns combination (.ok record)
  | unfilled {context : Combination} {fault : Css.Fault} (props : Pattern.IsContext patterns combination context)
      (refused : interpolate declaration.body context = .error fault) :
      Yields declaration patterns combination (.error (.rejectedFor declaration.component fault combination))
  | unaccepted {context : Combination} {css : String} {fault : Css.Fault}
      (props : Pattern.IsContext patterns combination context)
      (filled : interpolate declaration.body context = .ok css)
      (refused : Css.check css.toList = .error fault) :
      Yields declaration patterns combination (.error (.rejectedFor declaration.component fault combination))

theorem yields_outcome {declaration : Declaration} {patterns : List Pattern}
    (named : (patterns.map (·.prop)).Nodup) (combination : Combination) :
    Yields declaration patterns combination
      (outcome declaration.component declaration.body (Pattern.heldDefaults patterns) combination) := by
  have props := Pattern.isContext_insertAll named combination
  unfold outcome bodyFor
  cases filled : interpolate declaration.body
      ((Pattern.heldDefaults patterns).insertAll combination.entries) with
  | error fault => exact .unfilled props filled
  | ok css =>
    simp only [bind, Except.bind]
    cases checked : Css.check css.toList with
    | error fault => exact .unaccepted props filled checked
    | ok _ => exact .record props filled checked rfl

/-- The combinations of records are among those of the patterns, in their order. -/
theorem combinations_generate_sublist (limit : Nat) (declaration : Declaration) (patterns : List Pattern) :
    ((generate limit declaration patterns).records.map (·.combination)).Sublist (Pattern.combinations patterns) := by
  have walked (combinations : List Combination) : ((Generated.ofOutcomes (combinations.map
      (outcome declaration.component declaration.body (Pattern.heldDefaults patterns)))).records.map
        (·.combination)).Sublist combinations := by
    induction combinations with
    | nil => exact .slnil
    | cons combination rest ih =>
      simp only [Generated.ofOutcomes] at ih ⊢
      rw [List.map_cons, List.filterMap_cons]
      cases result : outcome declaration.component declaration.body (Pattern.heldDefaults patterns) combination with
      | error diagnostic => exact ih.cons combination
      | ok record =>
        obtain ⟨css, _, rfl⟩ := outcome_eq_ok_iff.mp result
        exact ih.cons_cons combination
  unfold generate
  split
  · exact List.nil_sublist _
  · split
    · exact List.nil_sublist _
    · simp only
      split
      · exact List.nil_sublist _
      · exact walked _

/-- No more records are generated than the limit allows, a number below the greatest one that is told. -/
theorem length_records_generate_le {limit : Nat} (told : limit < Pattern.greatestCount) (declaration : Declaration)
    (patterns : List Pattern) : (generate limit declaration patterns).records.length ≤ limit := by
  by_cases none : (generate limit declaration patterns).records = []
  · rw [none]
    exact Nat.zero_le _
  · obtain ⟨record, member⟩ := List.exists_mem_of_ne_nil _ none
    obtain ⟨⟨_, _, few⟩, _⟩ := mem_records_generate_iff.mp member
    rw [Pattern.combinationCount_eq_min, ← Pattern.length_combinations] at few
    have most := (combinations_generate_sublist limit declaration patterns).length_le
    rw [List.length_map] at most
    omega

theorem length_ofOutcomes (outcomes : List (Except Diagnostic Record)) :
    (Generated.ofOutcomes outcomes).records.length + (Generated.ofOutcomes outcomes).diagnostics.length =
      outcomes.length := by
  induction outcomes with
  | nil => rfl
  | cons first rest ih =>
    simp only [Generated.ofOutcomes] at ih ⊢
    cases first <;> simp only [List.filterMap_cons, List.length_cons] <;> omega

/-- For a declaration that does not move and whose body is accepted: more choices than the limit leave
one diagnostic with their number, as far as it is told, and no record. Otherwise every choice of one value
for each pattern that has values is met once, in lexicographic order, and yields a record or a diagnostic,
in the order of the choices. A limit is a machine word, far below the greatest number that is told. -/
theorem generate_enumerates {limit : Nat} {declaration : Declaration} {patterns : List Pattern}
    (still : declaration.animated = false) (accepted : Css.checkBody declaration.body.toList = .ok ())
    (named : (patterns.map (·.prop)).Nodup) (distinct : ∀ pattern ∈ patterns, pattern.values.Nodup)
    (told : limit < Pattern.greatestCount) :
    let walked := patterns.filter (!·.values.isEmpty)
    let product := (walked.map (·.values.length)).foldr (· * ·) 1
    let generated := generate limit declaration patterns
    (limit < product → generated.records = [] ∧
      generated.diagnostics = [.tooMany declaration.component (min product Pattern.greatestCount) limit]) ∧
    (product ≤ limit → ∃ (combinations : List Combination) (outcomes : List (Except Diagnostic Record)),
      (∀ combination, combination ∈ combinations ↔ Pattern.IsChoice walked combination) ∧
      combinations.Pairwise (Pattern.Before walked) ∧ combinations.Nodup ∧ combinations.length = product ∧
      List.Forall₂ (Yields declaration patterns) combinations outcomes ∧
      generated = .ofOutcomes outcomes ∧
      generated.records.length + generated.diagnostics.length = product) := by
  intro walked product generated
  have count : Pattern.choiceCount patterns = product := Pattern.choiceCount_eq patterns
  have size : Pattern.combinationCount patterns = min product Pattern.greatestCount := by
    rw [Pattern.combinationCount_eq_min, count]
  constructor
  · intro many
    have beyond : min product Pattern.greatestCount > limit := by omega
    have left_out : generated =
        ⟨[], [.tooMany declaration.component (min product Pattern.greatestCount) limit]⟩ := by
      simp only [generated, generate, still, accepted, size, if_pos beyond]
      rfl
    rw [left_out]
    exact ⟨rfl, rfl⟩
  · intro few
    have under : ¬ min product Pattern.greatestCount > limit := by omega
    have walks : generated = .ofOutcomes ((Pattern.combinations patterns).map
        (outcome declaration.component declaration.body (Pattern.heldDefaults patterns))) := by
      simp only [generated, generate, still, accepted, size, if_neg under]
      rfl
    have length : (Pattern.combinations patterns).length = product := by
      rw [Pattern.length_combinations, count]
    refine ⟨Pattern.combinations patterns, _, fun combination => Pattern.mem_combinations_iff named,
      Pattern.pairwise_combinations named, Pattern.nodup_combinations named distinct, length, ?_, walks, ?_⟩
    · rw [List.forall₂_map_right_iff, List.forall₂_same]
      intro combination _
      exact yields_outcome named combination
    · rw [walks, length_ofOutcomes, List.length_map, length]

/-- One prop with two values, one of which is refused, and a prop that is held at its default. -/
theorem generate_enumerates_held :
    let declaration : Declaration := .ofBody "Box" none "color: $\x7bp => p.tone\x7d; top: $\x7bp => p.gap\x7dpx;"
    let tone : Pattern := ⟨"tone", ["red", "\x7d"], none⟩
    let patterns : List Pattern := [⟨"gap", [], some "4"⟩, tone]
    (declaration.animated = false ∧ Css.checkBody declaration.body.toList = .ok () ∧
      (patterns.map (·.prop)).Nodup ∧ (∀ pattern ∈ patterns, pattern.values.Nodup) ∧
      64 < Pattern.greatestCount) ∧
    (generate 1 declaration patterns).diagnostics = [.tooMany "Box" 2 1] ∧
    ∃ (combinations : List Combination) (outcomes : List (Except Diagnostic Record)),
      (∀ combination, combination ∈ combinations ↔ Pattern.IsChoice [tone] combination) ∧
      combinations.length = 2 ∧ List.Forall₂ (Yields declaration patterns) combinations outcomes ∧
      generate 64 declaration patterns = .ofOutcomes outcomes := by
  intro declaration tone patterns
  have still : declaration.animated = false := by decide +kernel
  have accepted : Css.checkBody declaration.body.toList = .ok () := by decide +kernel
  have named : (patterns.map (·.prop)).Nodup := by decide
  have distinct : ∀ pattern ∈ patterns, pattern.values.Nodup := by decide
  have told : 64 < Pattern.greatestCount := by decide
  refine ⟨⟨still, accepted, named, distinct, told⟩, ?_, ?_⟩
  · exact ((generate_enumerates still accepted named distinct (by decide)).1 (by decide)).2
  · obtain ⟨combinations, outcomes, choices, _, _, length, yields, made, _⟩ :=
      (generate_enumerates still accepted named distinct told).2 (by decide)
    exact ⟨combinations, outcomes, choices, length, yields, made⟩

end Rule
end StaticStyles
