import StaticStyles.Proofs.CanonicalKey
import StaticStyles.Resolver.Lookup

/-!
Which props find a class. A resolver over the map of records finds the class of the last record whose
combination is what the props say about style, and no class otherwise (`resolve_ofRecords`).
-/
namespace StaticStyles

/-- What a live object says about style: its props without nulls and internal ones, as texts. -/
def styleProps (members : SortedMap Json.Value) : Combination :=
  (members.filter fun name value => !value.isNull && !internalProps.contains name).mapValues propText

/-- A record that has a combination, and behind which no other record has it. -/
def IsLastFor (records : List Record) (combination : Combination) (record : Record) : Prop :=
  ∃ earlier later, records = earlier ++ record :: later ∧ record.combination = combination ∧
    ∀ other ∈ later, other.combination ≠ combination

/-- A resolver over the map of records. -/
def Resolver.ofRecords (records : List Record) : Resolver := .ofMap (some (.ofRecords records))

/-! ## The maps of records -/

theorem Record.key_eq_iff {record : Record} {combination : Combination} :
    record.key = combination.key ↔ record.combination = combination :=
  Combination.key_inj

theorem ClassMap.ofRecords_eq (records : List Record) :
    ofRecords records = SortedMap.ofList (records.map fun record => (record.key, record.className)) := rfl

/-- The last record of a combination gives its class to the combination's key. -/
theorem ClassMap.get?_ofRecords (records : List Record) (combination : Combination) :
    (ofRecords records).get? combination.key =
      (records.reverse.find? fun record => record.combination = combination).map (·.className) := by
  have tests : (fun entry : String × String => decide (entry.1 = combination.key)) ∘
      (fun record : Record => (record.key, record.className)) =
        fun record => decide (record.combination = combination) := by
    funext record
    exact decide_eq_decide.mpr Record.key_eq_iff
  rw [ofRecords_eq, SortedMap.get?_ofList, ← List.map_reverse, List.find?_map, tests, Option.map_map]
  rfl

/-- Every key of a map of records is the key of one of them, with its class. -/
theorem ClassMap.exists_of_get?_ofRecords {records : List Record} {key className : String}
    (found : (ofRecords records).get? key = some className) :
    ∃ record ∈ records, record.key = key ∧ record.className = className := by
  rw [ofRecords_eq, SortedMap.get?_ofList] at found
  obtain ⟨entry, at_key, rfl⟩ := Option.map_eq_some_iff.mp found
  obtain ⟨record, member, rfl⟩ := List.mem_map.mp (List.mem_reverse.mp (List.mem_of_find?_eq_some at_key))
  exact ⟨record, member, by simpa using List.find?_some at_key, rfl⟩

theorem ClassMap.isEmpty_ofRecords (records : List Record) : (ofRecords records).isEmpty = records.isEmpty := by
  have keyed (key : String) : key ∈ (ofRecords records).keys ↔ ∃ record ∈ records, record.key = key := by
    simp [ofRecords_eq, SortedMap.mem_keys_ofList]
  cases records with
  | nil => rfl
  | cons record records =>
    have present : record.key ∈ (ofRecords (record :: records)).keys :=
      (keyed _).mpr ⟨record, List.mem_cons_self, rfl⟩
    obtain ⟨value, entry⟩ := SortedMap.mem_keys_iff.mp present
    simpa [SortedMap.isEmpty] using List.ne_nil_of_mem entry

private theorem find?_reverse_eq_some_iff {records : List Record} {combination : Combination} {record : Record} :
    records.reverse.find? (fun record => record.combination = combination) = some record ↔
      IsLastFor records combination record := by
  rw [List.find?_eq_some_iff_append]
  constructor
  · rintro ⟨same, after, before, split, others⟩
    refine ⟨before.reverse, after.reverse, ?_, by simpa using same, ?_⟩
    · simpa using congrArg List.reverse split
    · intro other member
      simpa using others other (List.mem_reverse.mp member)
  · rintro ⟨earlier, later, rfl, same, others⟩
    refine ⟨by simpa using same, later.reverse, earlier.reverse, by simp, ?_⟩
    intro other member
    simpa using others other (List.mem_reverse.mp member)

/-! ## The keys of props -/

theorem keyedProps_entries (members : SortedMap Json.Value) :
    keyedProps members.entries = (styleProps members).entries := rfl

theorem propsKey?_object (members : SortedMap Json.Value) :
    propsKey? (.object members.entries) = some (styleProps members).key := rfl

/-- The order in which the props of an object are listed does not change its key. -/
theorem propsKey?_of_perm {members : SortedMap Json.Value} {listed : List (String × Json.Value)}
    (perm : listed.Perm members.entries) :
    propsKey? (.object listed) = propsKey? (.object members.entries) := by
  have kept : (keyedProps listed).Perm (keyedProps members.entries) := (perm.filter _).map _
  have distinct : ((keyedProps listed).map (·.1)).Nodup := by
    rw [(kept.map _).nodup_iff, keyedProps_entries]
    exact SortedMap.nodup_keys (styleProps members)
  simp only [propsKey?, Json.Value.members?, Option.map_some]
  rw [canonicalKey_eq_iff.mpr (CanonicalKey.sortByName_eq_of_perm kept distinct)]

theorem Resolver.class?_object (map : ClassMap) (members : SortedMap Json.Value) :
    (Resolver.ofMap (some map)).class? (.object members.entries) = map.get? (styleProps members).key := rfl

/-! ## Finding a class -/

/-- Props find the class of the last record that has exactly their combination. Only objects find one,
and the order of the props in an object does not matter. -/
theorem resolve_ofRecords (records : List Record) :
    (∀ (members : SortedMap Json.Value) (className : String),
      ((Resolver.ofRecords records).resolve (.object members.entries)).1 = some className ↔
        ∃ record, IsLastFor records (styleProps members) record ∧ record.className = className) ∧
    (∀ props : Json.Value, props.members? = none → ((Resolver.ofRecords records).resolve props).1 = none) ∧
    (∀ (members : SortedMap Json.Value) (listed : List (String × Json.Value)), listed.Perm members.entries →
      ((Resolver.ofRecords records).resolve (.object listed)).1 =
        ((Resolver.ofRecords records).resolve (.object members.entries)).1) := by
  refine ⟨?_, ?_, ?_⟩
  · intro members className
    have looked : ((Resolver.ofRecords records).resolve (.object members.entries)).1 =
        (ClassMap.ofRecords records).get? (styleProps members).key := Resolver.class?_object _ members
    rw [looked, ClassMap.get?_ofRecords, Option.map_eq_some_iff]
    simp only [find?_reverse_eq_some_iff]
  · intro props noObject
    have keyless : propsKey? props = none := by simp [propsKey?, noObject]
    simp [Resolver.resolve, Resolver.class?, Resolver.ofRecords, Resolver.ofMap, keyless]
  · intro members listed perm
    simp only [Resolver.resolve, Resolver.class?, propsKey?_of_perm perm]

/-- A text is no object, and props in another order find the same class. -/
theorem resolve_ofRecords_forged :
    let real : Combination := .ofList [("a", "x"), ("b", "y")]
    let forged : Combination := .ofList [("a", "x|b:y")]
    let resolver := Resolver.ofRecords [.ofBody "C" real "color: red;", .ofBody "C" forged "color: tan;"]
    let members : SortedMap Json.Value := .ofList [("a", .text "x"), ("b", .text "y")]
    Json.Value.members? (.text "a:x|b:y") = none ∧ (resolver.resolve (.text "a:x|b:y")).1 = none ∧
      [("b", Json.Value.text "y"), ("a", .text "x")].Perm members.entries ∧
      (resolver.resolve (.object [("b", .text "y"), ("a", .text "x")])).1 =
        (resolver.resolve (.object members.entries)).1 := by
  intro real forged resolver members
  have perm : [("b", Json.Value.text "y"), ("a", .text "x")].Perm members.entries := .swap ..
  exact ⟨rfl, (resolve_ofRecords _).2.1 _ rfl, perm, (resolve_ofRecords _).2.2 members _ perm⟩

end StaticStyles
