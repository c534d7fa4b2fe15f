import StaticStyles.Proofs.Extraction
import StaticStyles.Proofs.MergedRules

/-!
The patterns of a body, read off its expressions. Each prop has the values that all its expressions tell, in the order
they are told and without repetition, and the first default among them (`Pattern.extract_merges`). Without a search of
the source there are fewer values and props, and the defaults stay.
-/
namespace StaticStyles

/-! ## Props without dots -/

namespace Expression
variable {text body : List Char} {scope : Scope} {e : Expression}

def IsOnPath (e : Expression) : Prop := ∃ path default shape, e = onPath path default shape

theorem IsOnPath.undotted (made : e.IsOnPath) (read : e.shape ≠ .member) : '.' ∉ e.prop.toList := by
  obtain ⟨path, default, shape, rfl⟩ := made
  intro dotted
  rw [onPath, String.toList_ofList] at dotted
  exact read (if_pos (List.contains_iff_mem.mpr dotted))

theorem isOnPath_of_equality? (read : equality? scope body = some e) : e.IsOnPath := by
  simp only [equality?, Option.bind_eq_bind, Option.bind_eq_some_iff] at read
  obtain ⟨_, _, _, _, _, _, _, _, _, _, made⟩ := read
  exact ⟨_, _, _, (Option.some.inj made).symm⟩

theorem isOnPath_of_truthy? (read : truthy? scope body = some e) : e.IsOnPath := by
  simp only [truthy?, Option.bind_eq_bind, Option.bind_eq_some_iff] at read
  obtain ⟨_, _, _, _, read⟩ := read
  split at read
  · contradiction
  · simp only [Option.bind_eq_some_iff] at read
    obtain ⟨_, _, made⟩ := read
    exact ⟨_, _, _, (Option.some.inj made).symm⟩

theorem isOnPath_of_fallback? (read : fallback? scope body = some e) : e.IsOnPath := by
  simp only [fallback?, Option.bind_eq_bind, Option.bind_eq_some_iff] at read
  obtain ⟨_, _, _, _, _, _, _, _, made⟩ := read
  exact ⟨_, _, _, (Option.some.inj made).symm⟩

theorem isOnPath_of_direct? (read : direct? scope body = some e) : e.IsOnPath := by
  simp only [direct?, Option.bind_eq_bind, Option.bind_eq_some_iff] at read
  obtain ⟨_, _, read⟩ := read
  split at read
  · contradiction
  · simp only [Option.bind_eq_some_iff] at read
    obtain ⟨_, _, made⟩ := read
    exact ⟨_, _, _, (Option.some.inj made).symm⟩

theorem isOnPath_of_ofText? (read : ofText? text = some e) : e.IsOnPath := by
  simp only [ofText?, Option.orElse_eq_or, Option.or_eq_some_iff] at read
  rcases read with read | ⟨_, read | ⟨_, read | ⟨_, read⟩⟩⟩
  · exact isOnPath_of_equality? read
  · exact isOnPath_of_truthy? read
  · exact isOnPath_of_fallback? read
  · exact isOnPath_of_direct? read

end Expression

namespace Pattern
variable {searching : Bool} {body source : List Char}

theorem undotted_of_mem_readable {e : Expression} (member : e ∈ readable body) : '.' ∉ e.prop.toList := by
  obtain ⟨understood, other⟩ := List.mem_filter.mp member
  obtain ⟨_, _, read⟩ := List.mem_filterMap.mp understood
  exact (Expression.isOnPath_of_ofText? read).undotted (by simpa using other)

/-! ## What expressions tell -/

/-- The values of an open prop that the source tells, if it is searched. -/
def discovered (searching : Bool) (source : List Char) (e : Expression) : List String :=
  if searching && e.isOpen then ((Discovery.values? e.prop.toList source).map (·.2)).getD [] else []

/-- The expressions of a body that read a prop. -/
def reading (body : List Char) (prop : String) : List Expression := (readable body).filter (·.prop = prop)

/-- The values that a body tells of a prop, with repetitions: of each expression its own, then those of the source. -/
def told (searching : Bool) (body source : List Char) (prop : String) : List String :=
  (reading body prop).flatMap fun e => e.candidates ++ discovered searching source e

/-- The first default that a body has for a prop. -/
def firstDefault (body : List Char) (prop : String) : Option String := (reading body prop).findSome? (·.default)

theorem valuesOf_eq (searching : Bool) (source : List Char) (e : Expression) :
    valuesOf searching source e = e.candidates ++ discovered searching source e := by
  rw [valuesOf, discovered]
  split
  · rfl
  · rw [List.append_nil]

theorem addValues_nil (values : List String) : addValues [] values = values.eraseDups := by
  induction values using List.reverseRecOn with
  | nil => rfl
  | append_singleton values last ih =>
    rw [addValues_append, ih, eraseDups_concat, addValues_cons]
    by_cases known : last ∈ values
    · simp [known, addValues]
    · simp [known, addValues]

theorem describe_eq (searching : Bool) (body source : List Char) (prop : String) :
    describe (valuesOf searching source) (readable body) prop =
      ⟨prop, (told searching body source prop).eraseDups, firstDefault body prop⟩ := by
  have values : valuesOf searching source = fun e => e.candidates ++ discovered searching source e :=
    funext (valuesOf_eq searching source)
  rw [describe, addValues_nil, values]
  rfl

theorem isEmpty_eraseDups (values : List String) : values.eraseDups.isEmpty = values.isEmpty := by
  cases values with
  | nil => rfl
  | cons value values => rw [List.eraseDups_cons]; rfl

theorem told_eq_nil_of_unread {prop : String} (unread : ∀ e ∈ readable body, e.prop ≠ prop) :
    told searching body source prop = [] := by
  have none : reading body prop = [] := by
    refine List.filter_eq_nil_iff.mpr ?_
    intro e member
    simpa using unread e member
  rw [told, none, List.flatMap_nil]

/-! ## The patterns -/

/-- The props with values are the props of the expressions, in the order of their first expression. -/
theorem extract_eq_map (searching : Bool) (body source : List Char) :
    extract searching body source =
      (((readable body).map (·.prop)).eraseDups.filter (told searching body source · ≠ [])).map fun prop =>
        ⟨prop, (told searching body source prop).eraseDups, firstDefault body prop⟩ := by
  have described := funext (describe_eq searching body source)
  rw [extract_eq, props, addValues_nil, List.filter_map, described]
  congr 1
  refine List.filter_congr ?_
  intro prop _
  cases tells : told searching body source prop with
  | nil => simp [tells]
  | cons value values => simp [tells, isEmpty_eraseDups]

theorem map_prop_extract (searching : Bool) (body source : List Char) :
    (extract searching body source).map (·.prop) =
      ((readable body).map (·.prop)).eraseDups.filter (told searching body source · ≠ []) := by
  rw [extract_eq_map, List.map_map]
  exact List.map_id _

theorem mem_extract_iff {pattern : Pattern} :
    pattern ∈ extract searching body source ↔
      pattern.values ≠ [] ∧ pattern.values = (told searching body source pattern.prop).eraseDups ∧
        pattern.default = firstDefault body pattern.prop := by
  rw [extract_eq_map, List.mem_map]
  constructor
  · rintro ⟨prop, member, rfl⟩
    obtain ⟨_, some_value⟩ := List.mem_filter.mp member
    have listed : ((told searching body source prop).eraseDups.isEmpty) = false := by
      simpa [isEmpty_eraseDups] using some_value
    exact ⟨by simpa using listed, rfl, rfl⟩
  · rintro ⟨some_value, values, default⟩
    have some_told : told searching body source pattern.prop ≠ [] := by
      intro none
      rw [values, none] at some_value
      exact some_value rfl
    refine ⟨pattern.prop, List.mem_filter.mpr ⟨?_, by simpa using some_told⟩, ?_⟩
    · -- a prop of no expression is told no value
      by_contra fresh
      refine some_told (told_eq_nil_of_unread ?_)
      rintro e member same
      exact fresh (List.mem_eraseDups.mpr (List.mem_map.mpr ⟨e, member, same⟩))
    · rw [← values, ← default]

/-! ## Without a search -/

theorem told_subset (body source : List Char) (prop : String) :
    told false body source prop ⊆ told true body source prop := by
  intro value member
  obtain ⟨e, reads, tells⟩ := List.mem_flatMap.mp member
  refine List.mem_flatMap.mpr ⟨e, reads, ?_⟩
  have own : value ∈ e.candidates := by simpa [discovered] using tells
  exact List.mem_append_left _ own

theorem told_ne_nil {prop : String} (tells : told false body source prop ≠ []) : told true body source prop ≠ [] := by
  obtain ⟨value, member⟩ := List.exists_mem_of_ne_nil _ tells
  exact List.ne_nil_of_mem (told_subset body source prop member)

/-- A search only adds props, in their places. -/
theorem sublist_props_extract (body source : List Char) :
    ((extract false body source).map (·.prop)).Sublist ((extract true body source).map (·.prop)) := by
  rw [map_prop_extract, map_prop_extract]
  refine List.monotone_filter_right _ ?_
  intro prop tells
  simpa using told_ne_nil (by simpa using tells)

/-- A search only adds values to a prop, and leaves its default. -/
theorem exists_searched {pattern : Pattern} (member : pattern ∈ extract false body source) :
    ∃ full ∈ extract true body source,
      full.prop = pattern.prop ∧ full.default = pattern.default ∧ pattern.values ⊆ full.values := by
  obtain ⟨some_value, values, default⟩ := mem_extract_iff.mp member
  have more : pattern.values ⊆ (told true body source pattern.prop).eraseDups := by
    intro value listed
    rw [values, List.mem_eraseDups] at listed
    exact List.mem_eraseDups.mpr (told_subset body source _ listed)
  refine ⟨⟨pattern.prop, (told true body source pattern.prop).eraseDups, pattern.default⟩, ?_, rfl, rfl, more⟩
  refine mem_extract_iff.mpr ⟨?_, rfl, default⟩
  intro none
  change (told true body source pattern.prop).eraseDups = [] at none
  rw [none] at more
  exact some_value (List.subset_nil.mp more)

/-- The patterns of a body are its props in the order of their first expression, each with the values told of it by
all its expressions and by the source, without repetition, and with its first default; a prop that is told no value
has none. A search of the source adds values, between those of the expressions, and props. -/
theorem extract_merges (searching : Bool) (body source : List Char) :
    extract searching body source =
        (((readable body).map (·.prop)).eraseDups.filter (told searching body source · ≠ [])).map (fun prop =>
          ⟨prop, (told searching body source prop).eraseDups, firstDefault body prop⟩) ∧
      ((extract searching body source).map (·.prop)).Nodup ∧
      (∀ pattern ∈ extract searching body source, '.' ∉ pattern.prop.toList ∧ pattern.values ≠ []) ∧
      (∀ prop, prop ∉ (extract searching body source).map (·.prop) ↔
        (∀ e ∈ readable body, e.prop ≠ prop) ∨ told searching body source prop = []) ∧
      ((extract false body source).map (·.prop)).Sublist ((extract true body source).map (·.prop)) ∧
      ∀ pattern ∈ extract false body source, ∃ full ∈ extract true body source,
        full.prop = pattern.prop ∧ full.default = pattern.default ∧ pattern.values ⊆ full.values := by
  refine ⟨extract_eq_map searching body source, nodup_props_extract searching body source, ?_, ?_,
    sublist_props_extract body source, fun pattern => exists_searched⟩
  · intro pattern member
    refine ⟨?_, values_ne_nil_of_mem_extract member⟩
    have listed : pattern.prop ∈ (extract searching body source).map (·.prop) := List.mem_map_of_mem member
    rw [map_prop_extract, List.mem_filter, List.mem_eraseDups] at listed
    obtain ⟨e, reads, same⟩ := List.mem_map.mp listed.1
    rw [← same]
    exact undotted_of_mem_readable reads
  · intro prop
    rw [map_prop_extract, List.mem_filter, List.mem_eraseDups, List.mem_map]
    constructor
    · intro absent
      by_cases read : ∃ e ∈ readable body, e.prop = prop
      · refine .inr ?_
        by_contra some_value
        exact absent ⟨read, by simpa using some_value⟩
      · refine .inl ?_
        intro e member same
        exact read ⟨e, member, same⟩
    · rintro (unread | none) ⟨⟨e, member, same⟩, some_value⟩
      · exact unread e member same
      · simp [none] at some_value

/-- Two expressions of one prop: the values that the source tells stand before the second's own. -/
theorem extract_merges_size :
    let body := "width: $\x7bp => p.size === 'sm' ? 1 : 2\x7d; height: $\x7bp => p.size || 'lg'\x7d".toList
    let source := "interface P \x7b size: 'xl' | 'sm' \x7d".toList
    let pattern : Pattern := ⟨"size", ["sm", "lg"], some "lg"⟩
    extract true body source = [⟨"size", ["sm", "xl", "lg"], some "lg"⟩] ∧ pattern ∈ extract false body source ∧
      ('.' ∉ pattern.prop.toList ∧ pattern.values ≠ []) ∧
      ∃ full ∈ extract true body source,
        full.prop = pattern.prop ∧ full.default = pattern.default ∧ pattern.values ⊆ full.values := by
  intro body source pattern
  have member : pattern ∈ extract false body source := by decide +kernel
  obtain ⟨_, _, wellFormed, _, _, searched⟩ := extract_merges false body source
  exact ⟨by decide +kernel, member, wellFormed pattern member, searched pattern member⟩

end Pattern
end StaticStyles
