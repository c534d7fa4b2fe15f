import Mathlib.Data.List.Lex
import StaticStyles.Json.Reader
import StaticStyles.Proofs.MergedRules
import StaticStyles.Proofs.StyleAttribute

/-!
The leaves of a theme as custom properties. The leaves that objects lead to are written in the order of their paths,
and no others are; each property then has the value of its last writer, known names keep their places, and new ones
follow in the order of their first writers (`theme_writes_leaves`).
-/
namespace StaticStyles.Json.Value

/-! ## Leaves and their paths -/

/-- A value is told apart by what it is made of. -/
theorem induction {motive : Value → Prop} (null : motive .null) (bool : ∀ value, motive (.bool value))
    (number : ∀ value, motive (.number value)) (text : ∀ value, motive (.text value))
    (array : ∀ items, (∀ item ∈ items, motive item) → motive (.array items))
    (object : ∀ members, (∀ member ∈ members, motive member.2) → motive (.object members)) :
    ∀ value, motive value
  | .null => null
  | .bool value => bool value
  | .number value => number value
  | .text value => text value
  | .array items => array items fun item _ => induction null bool number text array object item
  | .object members => object members fun member _ => induction null bool number text array object member.2
termination_by value => sizeOf value
decreasing_by
  · have inside := List.sizeOf_lt_of_mem ‹item ∈ items›
    simp only [Value.array.sizeOf_spec]
    omega
  · have inside := List.sizeOf_lt_of_mem ‹member ∈ members›
    have second : sizeOf member = 1 + sizeOf member.1 + sizeOf member.2 := rfl
    simp only [Value.object.sizeOf_spec]
    omega

/-- A text or number that a value is, or that its objects lead to by the names on a path. -/
inductive HasLeaf : Value → List String → Value → Prop
  | text (value : String) : HasLeaf (.text value) [] (.text value)
  | number (value : Number) : HasLeaf (.number value) [] (.number value)
  | member {members : List (String × Value)} {name : String} {value leaf : Value} {path : List String}
    (listed : (name, value) ∈ members) (below : HasLeaf value path leaf) :
    HasLeaf (.object members) (name :: path) leaf

/-- The members of every object stand in increasing order of their names. -/
inductive Ordered : Value → Prop
  | null : Ordered .null
  | bool (value : Bool) : Ordered (.bool value)
  | number (value : Number) : Ordered (.number value)
  | text (value : String) : Ordered (.text value)
  | array {items : List Value} (each : ∀ item ∈ items, Ordered item) : Ordered (.array items)
  | object {members : List (String × Value)} (increasing : members.Pairwise fun a b => a.1 < b.1)
    (each : ∀ member ∈ members, Ordered member.2) : Ordered (.object members)

mutual

/-- The leaves of a value, each with its path. -/
def pathLeaves : Value → List (List String × Value)
  | .object members => memberPathLeaves members
  | .text value => [([], .text value)]
  | .number value => [([], .number value)]
  | .null => []
  | .bool _ => []
  | .array _ => []

/-- The leaves of members, each with its path from the member's name on. -/
def memberPathLeaves : List (String × Value) → List (List String × Value)
  | [] => []
  | (name, value) :: rest => (pathLeaves value).map (fun entry => (name :: entry.1, entry.2)) ++ memberPathLeaves rest

end

theorem memberPathLeaves_eq (members : List (String × Value)) :
    memberPathLeaves members =
      members.flatMap fun member => (pathLeaves member.2).map fun entry => (member.1 :: entry.1, entry.2) := by
  induction members with
  | nil => rfl
  | cons member members ih => rw [memberPathLeaves, ih, List.flatMap_cons]

theorem mem_pathLeaves_iff {value leaf : Value} {path : List String} :
    (path, leaf) ∈ pathLeaves value ↔ HasLeaf value path leaf := by
  constructor
  · intro member
    induction value using induction generalizing path with
    | null | bool | array => simp [pathLeaves] at member
    | number value =>
      obtain ⟨rfl, rfl⟩ := Prod.mk.inj (List.mem_singleton.mp member)
      exact .number value
    | text value =>
      obtain ⟨rfl, rfl⟩ := Prod.mk.inj (List.mem_singleton.mp member)
      exact .text value
    | object members ih =>
      rw [pathLeaves, memberPathLeaves_eq, List.mem_flatMap] at member
      obtain ⟨⟨name, value⟩, listed, member⟩ := member
      obtain ⟨⟨path, leaf⟩, below, same⟩ := List.mem_map.mp member
      obtain ⟨rfl, rfl⟩ := Prod.mk.inj same
      exact .member listed (ih _ listed below)
  · intro leads
    induction leads with
    | text | number => exact List.mem_singleton_self _
    | member listed below ih =>
      rw [pathLeaves, memberPathLeaves_eq, List.mem_flatMap]
      exact ⟨_, listed, List.mem_map.mpr ⟨_, ih, rfl⟩⟩

/-- The leaves of an ordered value are in the order of their paths. -/
theorem Ordered.pairwise_pathLeaves {value : Value} (ordered : value.Ordered) :
    (pathLeaves value).Pairwise fun a b => List.Lex (· < ·) a.1 b.1 := by
  induction ordered with
  | null | bool | number | text | array => simp [pathLeaves]
  | object increasing each ih =>
    rw [pathLeaves, memberPathLeaves_eq, List.pairwise_flatMap]
    refine ⟨?_, ?_⟩
    · intro member listed
      rw [List.pairwise_map]
      exact (ih member listed).imp .cons
    · refine increasing.imp ?_
      intro first second less a in_first b in_second
      obtain ⟨_, _, rfl⟩ := List.mem_map.mp in_first
      obtain ⟨_, _, rfl⟩ := List.mem_map.mp in_second
      exact .rel less

end StaticStyles.Json.Value

namespace StaticStyles.Json
open Value

/-! ## Values that are read -/

mutual

/-- The members of a value that is read stand in order, each name once. -/
theorem Raw.ordered_of_value? {depth : Nat} {raw : Raw} {value : Value} (has : raw.value? depth = some value) :
    value.Ordered := by
  match raw, depth with
  | .null, _ =>
    obtain rfl := Option.some.inj has
    exact .null
  | .bool truth, _ =>
    obtain rfl := Option.some.inj has
    exact .bool truth
  | .number _, _ =>
    obtain ⟨number, _, rfl⟩ := Option.map_eq_some_iff.mp has
    exact .number number
  | .text _, _ =>
    obtain ⟨text, _, rfl⟩ := Option.map_eq_some_iff.mp has
    exact .text text
  | .array _, 0 | .object _, 0 => simp [Raw.value?] at has
  | .array _, depth + 1 =>
    obtain ⟨items, read, rfl⟩ := Option.map_eq_some_iff.mp has
    exact .array (ordered_of_values? read)
  | .object _, depth + 1 =>
    obtain ⟨members, read, rfl⟩ := Option.map_eq_some_iff.mp has
    obtain ⟨increasing, each⟩ := ordered_of_memberValues? read .nil (by simp)
    exact .object increasing each

theorem ordered_of_values? {depth : Nat} {raws : List Raw} {items : List Value}
    (read : values? depth raws = some items) : ∀ item ∈ items, item.Ordered := by
  match raws with
  | [] =>
    obtain rfl := Option.some.inj read
    simp
  | raw :: rest =>
    rw [values?] at read
    split at read
    · next value values has others =>
      obtain rfl := Option.some.inj read
      exact List.forall_mem_cons.mpr ⟨Raw.ordered_of_value? has, ordered_of_values? others⟩
    · cases read

theorem ordered_of_memberValues? {depth : Nat} {raws : List (Option String × Raw)}
    {before members : List (String × Value)} (read : memberValues? depth raws before = some members)
    (increasing : before.Pairwise fun a b => a.1 < b.1) (each : ∀ member ∈ before, member.2.Ordered) :
    members.Pairwise (fun a b => a.1 < b.1) ∧ ∀ member ∈ members, member.2.Ordered := by
  match raws with
  | [] =>
    obtain rfl := Option.some.inj read
    exact ⟨increasing, each⟩
  | (none, _) :: _ => simp [memberValues?] at read
  | (some name, raw) :: rest =>
    cases has : raw.value? depth with
    | none => simp [memberValues?, has] at read
    | some value =>
      simp only [memberValues?, has] at read
      refine ordered_of_memberValues? read (SortedMap.insert ⟨before, increasing⟩ name value).increasing ?_
      intro member inserted
      rcases mem_insertEntry inserted with rfl | old
      · exact Raw.ordered_of_value? has
      · exact each member old

end

theorem Value.ordered_of_ofText? {text : String} {value : Value} (read : ofText? text = some value) :
    value.Ordered := by
  obtain ⟨raw, _, has⟩ := Option.bind_eq_some_iff.mp read
  exact Raw.ordered_of_value? has

end StaticStyles.Json

namespace StaticStyles.CustomProperty
open Json.Value

/-! ## The assignments of a theme -/

theorem memberLeaves_eq (path : List String) (members : List (String × Json.Value)) :
    memberLeaves path members = members.flatMap fun member => leaves (path ++ [member.1]) member.2 := by
  induction members with
  | nil => rfl
  | cons member members ih => rw [memberLeaves, ih, List.flatMap_cons]

/-- A leaf as an assignment to the property of its path, which is not empty. -/
def assignment? (path : List String) (entry : List String × Json.Value) : Option (String × Json.Value) :=
  if path ++ entry.1 = [] then none else some (pathName (path ++ entry.1), entry.2)

theorem leaves_eq (path : List String) (value : Json.Value) :
    leaves path value = (pathLeaves value).filterMap (assignment? path) := by
  induction value using Json.Value.induction generalizing path with
  | null | bool | array => rfl
  | number value | text value =>
    cases path <;> simp [leaves, pathLeaves, assignment?]
  | object members ih =>
    have below (member : String × Json.Value) (entry : List String × Json.Value) :
        assignment? path (member.1 :: entry.1, entry.2) = assignment? (path ++ [member.1]) entry := by
      simp [assignment?]
    rw [leaves, memberLeaves_eq, pathLeaves, memberPathLeaves_eq, List.filterMap_flatMap]
    refine List.flatMap_congr ?_
    intro member listed
    rw [ih member listed, List.filterMap_map]
    exact congrArg (List.filterMap · _) (funext fun entry => (below member entry).symm)

end StaticStyles.CustomProperty

namespace StaticStyles.InlineStyle
open CustomProperty

/-! ## Properties that are set one after the other -/

def setAll (style : InlineStyle) (written : List (String × String)) : InlineStyle :=
  written.foldl (fun style property => style.set property.1 property.2) style

/-- What is written last for a name. -/
def lastText? (written : List (String × String)) (name : String) : Option String :=
  (written.filter (·.1 = name)).getLast?.map (·.2)

section
variable {style : InlineStyle} {written : List (String × String)} {property : String × String} {name : String}

theorem setAll_concat : style.setAll (written ++ [property]) = (style.setAll written).set property.1 property.2 := by
  rw [setAll, List.foldl_append]
  rfl

theorem lastText?_concat : lastText? (written ++ [property]) name =
    if property.1 = name then some property.2 else lastText? written name := by
  rw [lastText?, List.filter_append]
  by_cases same : property.1 = name
  · simp [same]
  · simp [same, lastText?]

theorem get?_set (style : InlineStyle) (name value other : String) :
    (style.set name value).get? other = if name = other then some value else style.get? other := by
  obtain ⟨properties⟩ := style
  rw [get?, get?, set]
  induction properties with
  | nil => by_cases same : name = other <;> simp [setIn, same]
  | cons first rest ih =>
    rw [setIn]
    by_cases taken : first.1 = name
    · subst taken
      by_cases same : first.1 = other <;> simp [same]
    · rw [if_neg taken]
      by_cases same : first.1 = other
      · subst same
        simp [Ne.symm taken]
      · simpa [same] using ih

/-- A property that is set has what was written last for it, and others have what they had. -/
theorem get?_setAll (style : InlineStyle) (written : List (String × String)) (name : String) :
    (style.setAll written).get? name = (lastText? written name).or (style.get? name) := by
  induction written using List.reverseRecOn with
  | nil => rfl
  | append_singleton written property ih =>
    rw [setAll_concat, get?_set, lastText?_concat, ih]
    split <;> rfl

/-- Names keep their places, and new ones follow in the order in which they are first set. -/
theorem names_setAll (style : InlineStyle) (written : List (String × String)) :
    (style.setAll written).properties.map (·.1) = style.properties.map (·.1) ++
      (written.map (·.1)).eraseDups.filter (· ∉ style.properties.map (·.1)) := by
  induction written using List.reverseRecOn with
  | nil => simp [setAll]
  | append_singleton written property ih =>
    rw [setAll_concat, set, names_setIn, ih, List.map_append, List.map_singleton, eraseDups_concat]
    by_cases old : property.1 ∈ style.properties.map (·.1)
    · rw [if_pos (List.mem_append_left _ old)]
      split
      · rfl
      · rw [List.filter_append, List.filter_singleton]
        simp [old]
    · have known : property.1 ∈ style.properties.map (·.1) ++
          (written.map (·.1)).eraseDups.filter (· ∉ style.properties.map (·.1)) ↔ property.1 ∈ written.map (·.1) := by
        rw [List.mem_append, List.mem_filter, List.mem_eraseDups]
        simp [old]
      by_cases again : property.1 ∈ written.map (·.1)
      · rw [if_pos (known.mpr again), if_pos again]
      · rw [if_neg (mt known.mp again), if_neg again, List.filter_append, List.append_assoc]
        simp [old]

/-- Properties of other names stay as they are, in their order. -/
theorem filter_setAll {keep : String → Bool} (set_names : ∀ property ∈ written, keep property.1 = false)
    (style : InlineStyle) :
    (style.setAll written).properties.filter (keep ·.1) = style.properties.filter (keep ·.1) := by
  induction written generalizing style with
  | nil => rfl
  | cons property written ih =>
    obtain ⟨set_name, set_names⟩ := List.forall_mem_cons.mp set_names
    exact (ih set_names _).trans (filter_setIn set_name _ _)

end

/-! ## Writers -/

/-- What a leaf writes to which name, if it is a writer: the name of its path with the prefix, unless that is empty,
must be valid, and its text must leave something when it is cleaned. -/
def writer? (themePrefix : Option String) (entry : List String × Json.Value) : Option (String × String) :=
  let path := (themePrefix.filter (· ≠ "")).toList ++ entry.1
  (scalarText? entry.2).bind fun text =>
    if path ≠ [] ∧ isName (pathName path) = true ∧ sanitize text ≠ "" then some (pathName path, sanitize text)
    else none

theorem writer?_eq (themePrefix : Option String) (entry : List String × Json.Value) :
    writer? themePrefix entry =
      (assignment? (themePrefix.filter (· ≠ "")).toList entry).bind written? := by
  apply Option.ext
  intro property
  rw [writer?, Option.bind_eq_some_iff, Option.bind_eq_some_iff]
  simp only [assignment?, written?_eq_some_iff, Option.ite_none_left_eq_some, Option.ite_none_right_eq_some,
    Option.some.injEq]
  constructor
  · rintro ⟨text, scalar, ⟨path, named, filled⟩, same⟩
    exact ⟨_, ⟨path, rfl⟩, named, text, scalar, filled, same.symm⟩
  · rintro ⟨_, ⟨path, rfl⟩, named, text, scalar, filled, rfl⟩
    exact ⟨text, scalar, ⟨path, named, filled⟩, rfl⟩

/-- The leaves of a theme, in the order of their paths, write their properties one after the other. -/
theorem applyTheme_eq (style : InlineStyle) (theme : Json.Value) (themePrefix : Option String) :
    style.applyTheme theme themePrefix =
      let written := theme.pathLeaves.filterMap (writer? themePrefix)
      (style.setAll written, written.length) := by
  have written : (leaves (themePrefix.filter (· ≠ "")).toList theme).filterMap written? =
      theme.pathLeaves.filterMap (writer? themePrefix) := by
    rw [leaves_eq, List.filterMap_filterMap]
    exact congrArg (List.filterMap · _) (funext fun entry => (writer?_eq themePrefix entry).symm)
  simp only [applyTheme, apply, written, setAll]

/-- A theme is written leaf after leaf, in the order of their paths: each text or number that objects lead to counts if
its name is valid and its text leaves something when it is cleaned. Then the names known before keep their places, and
new ones follow in the order of their first writers; each property with a writer has the text of its last one; and all
others are as before. -/
theorem theme_writes_leaves {theme : Json.Value} (ordered : theme.Ordered) (themePrefix : Option String)
    (style : InlineStyle) :
    ∃ leaves : List (List String × Json.Value),
      (∀ path leaf, (path, leaf) ∈ leaves ↔ theme.HasLeaf path leaf) ∧
      leaves.Pairwise (fun a b => List.Lex (· < ·) a.1 b.1) ∧
      let writers := leaves.filterMap (writer? themePrefix)
      let names := writers.map (·.1)
      let known := style.properties.map (·.1)
      let written := style.applyTheme theme themePrefix
      written.2 = writers.length ∧
        written.1.properties.map (·.1) = known ++ names.eraseDups.filter (· ∉ known) ∧
        (∀ name, written.1.get? name = (lastText? writers name).or (style.get? name)) ∧
        written.1.properties.filter (·.1 ∉ names) = style.properties.filter (·.1 ∉ names) := by
  refine ⟨theme.pathLeaves, fun _ _ => Json.Value.mem_pathLeaves_iff, ordered.pairwise_pathLeaves, ?_⟩
  rw [applyTheme_eq]
  generalize theme.pathLeaves.filterMap (writer? themePrefix) = writers
  refine ⟨rfl, names_setAll style writers, get?_setAll style writers, ?_⟩
  refine @filter_setAll writers (· ∉ writers.map (·.1)) ?_ style
  intro writer member
  simpa using ⟨writer.2, member⟩

-- The path of `b` in `a` makes the name of `a-b`, which is the later writer, and `c` has its value only below.
theorem theme_writes_leaves_colliding :
    let text := "\x7b\"list\": [\"3\"], \"a-b\": \" 2;\", \"c\": \x7b\"e f\": \"5\", \"d\": 4\x7d, " ++
      "\"a\": \x7b\"x\": \"\\n\", \"b\": \"1\"\x7d\x7d"
    let style : InlineStyle := ⟨[("--t-c-d", "0"), ("--u", "u")]⟩
    ∃ theme, Json.Value.ofText? text = some theme ∧
      style.applyTheme theme (some "t") = (⟨[("--t-c-d", "4"), ("--u", "u"), ("--t-a-b", "2")]⟩, 3) ∧
      ∃ leaves : List (List String × Json.Value),
        (∀ path leaf, (path, leaf) ∈ leaves ↔ theme.HasLeaf path leaf) ∧
        leaves.Pairwise (fun a b => List.Lex (· < ·) a.1 b.1) ∧
        (leaves.filterMap (writer? (some "t"))).length = 3 := by
  intro text style
  have applied : (Json.Value.ofText? text).map (style.applyTheme · (some "t")) =
      some (⟨[("--t-c-d", "4"), ("--u", "u"), ("--t-a-b", "2")]⟩, 3) := by
    decide +kernel
  obtain ⟨theme, read, applied⟩ := Option.map_eq_some_iff.mp applied
  obtain ⟨leaves, listed, increasing, counted, _⟩ :=
    theme_writes_leaves (Json.Value.ordered_of_ofText? read) (some "t") style
  exact ⟨theme, read, applied, leaves, listed, increasing, counted.symm.trans (congrArg Prod.snd applied)⟩

end StaticStyles.InlineStyle
