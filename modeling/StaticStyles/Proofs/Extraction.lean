import Mathlib.Data.List.Induction
import Mathlib.Data.List.Nodup
import StaticStyles.Props.Pattern

/-!
What the patterns of a body are. Each prop that an understood expression reads is described once, by all
its expressions together (`foldl_add`), and the patterns are the descriptions that have a value
(`extract_eq`).
-/
namespace StaticStyles.Pattern

/-! ## Values without repetition -/

theorem addValues_cons (seen : List String) (value : String) (more : List String) :
    addValues seen (value :: more) =
      addValues (if seen.contains value then seen else seen ++ [value]) more := rfl

theorem addValues_append (seen more rest : List String) :
    addValues seen (more ++ rest) = addValues (addValues seen more) rest :=
  List.foldl_append

theorem mem_addValues {seen more : List String} {value : String} :
    value ∈ addValues seen more ↔ value ∈ seen ∨ value ∈ more := by
  induction more generalizing seen with
  | nil => simp [addValues]
  | cons first more ih =>
    rw [addValues_cons, ih]
    by_cases known : first ∈ seen
    · rw [if_pos (by simpa using known)]
      constructor
      · rintro (h | h)
        · exact .inl h
        · exact .inr (List.mem_cons_of_mem _ h)
      · rintro (h | h)
        · exact .inl h
        · rcases List.mem_cons.mp h with rfl | h
          · exact .inl known
          · exact .inr h
    · rw [if_neg (by simpa using known)]
      simp [or_assoc]

theorem nodup_addValues {seen : List String} (distinct : seen.Nodup) (more : List String) :
    (addValues seen more).Nodup := by
  induction more generalizing seen with
  | nil => exact distinct
  | cons first more ih =>
    rw [addValues_cons]
    by_cases known : first ∈ seen
    · rw [if_pos (by simpa using known)]
      exact ih distinct
    · rw [if_neg (by simpa using known)]
      exact ih (by simpa [List.nodup_append] using ⟨distinct, fun _ other h => known (h ▸ other)⟩)

/-! ## One description for each prop -/

/-- The props of expressions, in the order of their first expression. -/
def props (es : List Expression) : List String := addValues [] (es.map (·.prop))

/-- What expressions tell of a prop together: the values in the order they are told, and the first
default. -/
def describe (values : Expression → List String) (es : List Expression) (prop : String) : Pattern where
  prop := prop
  values := addValues [] ((es.filter (·.prop = prop)).flatMap values)
  default := (es.filter (·.prop = prop)).findSome? (·.default)

theorem mem_props {es : List Expression} {prop : String} : prop ∈ props es ↔ ∃ e ∈ es, e.prop = prop := by
  simp [props, mem_addValues]

theorem nodup_props (es : List Expression) : (props es).Nodup := nodup_addValues .nil _

private theorem add_of_mem {describes : String → Pattern} (named : ∀ prop, (describes prop).prop = prop)
    {known : List String} (distinct : known.Nodup) {prop : String} (member : prop ∈ known)
    (values : List String) (default : Option String) :
    add prop values default (known.map describes) =
      known.map fun other =>
        if other = prop then (describes prop).merge values default else describes other := by
  induction known with
  | nil => simp at member
  | cons first known ih =>
    obtain ⟨fresh, distinct⟩ := List.nodup_cons.mp distinct
    rw [List.map_cons, add, named, List.map_cons]
    by_cases same : first = prop
    · subst same
      rw [if_pos rfl, if_pos rfl]
      congr 1
      refine List.map_congr_left ?_
      intro other later
      have different : other ≠ first := by
        rintro rfl
        exact fresh later
      rw [if_neg different]
    · rw [if_neg same, if_neg same]
      rw [ih distinct ((List.mem_cons.mp member).resolve_left (Ne.symm same))]

private theorem add_of_not_mem {describes : String → Pattern} (named : ∀ prop, (describes prop).prop = prop)
    {known : List String} {prop : String} (fresh : prop ∉ known) (values : List String)
    (default : Option String) :
    add prop values default (known.map describes) =
      known.map describes ++ [ofValues prop values default] := by
  induction known with
  | nil => rfl
  | cons first known ih =>
    rw [List.mem_cons, not_or] at fresh
    rw [List.map_cons, add, named, if_neg (Ne.symm fresh.1), ih fresh.2, List.cons_append]

private theorem describe_append (values : Expression → List String) (es : List Expression) (e : Expression)
    (prop : String) :
    describe values (es ++ [e]) prop =
      if prop = e.prop then (describe values es prop).merge (values e) e.default else describe values es prop := by
  by_cases same : prop = e.prop
  · subst same
    simp [describe, merge, addValues_append, List.filter_append, List.findSome?_append]
  · simp [describe, same, Ne.symm same, List.filter_append]

/-- Adding expressions one after the other leaves one description for each prop, whichever way the
expressions of different props are mixed. -/
theorem foldl_add (values : Expression → List String) (es : List Expression) :
    es.foldl (fun patterns e => add e.prop (values e) e.default patterns) [] =
      (props es).map (describe values es) := by
  induction es using List.reverseRecOn with
  | nil => rfl
  | append_singleton es e ih =>
    rw [List.foldl_append, ih]
    have named (prop : String) : (describe values es prop).prop = prop := rfl
    have grown : props (es ++ [e]) = if e.prop ∈ props es then props es else props es ++ [e.prop] := by
      rw [props, List.map_append, addValues_append]
      simp [addValues, props]
    rw [List.foldl_cons, List.foldl_nil, grown]
    by_cases known : e.prop ∈ props es
    · rw [if_pos known, add_of_mem named (nodup_props es) known]
      refine List.map_congr_left ?_
      intro prop _
      rw [describe_append]
      by_cases same : prop = e.prop
      · rw [if_pos same, if_pos same, same]
      · rw [if_neg same, if_neg same]
    · rw [if_neg known, add_of_not_mem named known, List.map_append]
      congr 1
      · refine List.map_congr_left ?_
        intro prop member
        have different : prop ≠ e.prop := by
          rintro rfl
          exact known member
        rw [describe_append, if_neg different]
      · have unread : es.filter (·.prop = e.prop) = [] := by
          refine List.filter_eq_nil_iff.mpr ?_
          intro other member same
          exact known (mem_props.mpr ⟨other, member, by simpa using same⟩)
        rw [List.map_singleton, describe_append, if_pos rfl]
        simp [describe, unread, merge, ofValues, addValues]

/-! ## The patterns of a body -/

/-- The patterns of a body are the descriptions of its props that have a value. -/
theorem extract_eq (searching : Bool) (body source : List Char) :
    extract searching body source =
      ((props (readable body)).map (describe (valuesOf searching source) (readable body))).filter
        (!·.values.isEmpty) := by
  rw [extract, foldl_add]

/-- Each prop has one pattern. -/
theorem nodup_props_extract (searching : Bool) (body source : List Char) :
    ((extract searching body source).map (·.prop)).Nodup := by
  rw [extract_eq]
  refine List.Nodup.sublist (List.filter_sublist.map _) ?_
  rw [List.map_map]
  exact (List.map_id _).symm ▸ nodup_props _

theorem nodup_values_of_mem_extract {searching : Bool} {body source : List Char} {pattern : Pattern}
    (member : pattern ∈ extract searching body source) : pattern.values.Nodup := by
  rw [extract_eq] at member
  obtain ⟨prop, _, rfl⟩ := List.mem_map.mp (List.mem_of_mem_filter member)
  exact nodup_addValues .nil _

theorem values_ne_nil_of_mem_extract {searching : Bool} {body source : List Char} {pattern : Pattern}
    (member : pattern ∈ extract searching body source) : pattern.values ≠ [] := by
  rw [extract_eq] at member
  simpa using (List.mem_filter.mp member).2

/-- An expression that tells a value gives its prop a pattern. -/
theorem exists_mem_extract {searching : Bool} {body source : List Char} {e : Expression}
    (reads : e ∈ readable body) (tells : valuesOf searching source e ≠ []) :
    ∃ pattern ∈ extract searching body source, pattern.prop = e.prop := by
  refine ⟨describe (valuesOf searching source) (readable body) e.prop, ?_, rfl⟩
  rw [extract_eq, List.mem_filter]
  refine ⟨List.mem_map.mpr ⟨e.prop, mem_props.mpr ⟨e, reads, rfl⟩, rfl⟩, ?_⟩
  obtain ⟨value, told⟩ := List.exists_mem_of_ne_nil _ tells
  have present : value ∈ (describe (valuesOf searching source) (readable body) e.prop).values := by
    refine mem_addValues.mpr (.inr (List.mem_flatMap.mpr ⟨e, ?_, told⟩))
    exact List.mem_filter.mpr ⟨reads, by simp⟩
  simpa using List.ne_nil_of_mem present

end StaticStyles.Pattern
