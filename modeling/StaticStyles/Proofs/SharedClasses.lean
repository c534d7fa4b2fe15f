import StaticStyles.Proofs.BuildRun
import StaticStyles.Proofs.ClassTokens

/-!
When two records of a build have one class. If their texts can be told apart in a class name, exactly when the
tokens of these texts are the same; if the texts are plain, never. A class stands in exactly one rule exactly if
all of its records have one body (`shared_class_iff`). The tokens do not always tell texts apart: a text of
other characters carries a hash, and a plain text can spell it (`shared_class_at`).
-/
namespace StaticStyles
open ClassName

/-- A record of a build: one of a first declaration of its sources. -/
structure Generated (config : BuildConfig) (sources : List (String × String)) (found : Found) (record : Record) :
    Prop where
  first : Found.IsFirst (declared sources) found
  member : record ∈ found.records config

section
variable {config : BuildConfig} {sources : List (String × String)} {found other : Found} {record twin : Record}

theorem Generated.className_eq_iff (a : Generated config sources found record)
    (b : Generated config sources other twin) (left : Unseparated record.combination)
    (right : Unseparated twin.combination) (apart : NamesApart record.combination twin.combination)
    (components : found.foldedName = other.foldedName ∨ '_' ∉ found.foldedName ∧ '_' ∉ other.foldedName) :
    record.className = twin.className ↔
      token found.foldedName = token other.foldedName ∧
        valueTokens record.combination = valueTokens twin.combination := by
  rw [Found.className_of_mem a.member, Found.className_of_mem b.member]
  exact StaticStyles.className_eq_iff left right apart components

theorem Generated.eq_of_className_eq (a : Generated config sources found record)
    (b : Generated config sources other twin) (left : Spelled record.combination)
    (right : Spelled twin.combination)
    (components : found.foldedName = other.foldedName ∨
      (∀ c ∈ found.foldedName, isPlain c = true) ∧ ∀ c ∈ other.foldedName, isPlain c = true)
    (same : record.className = twin.className) : found = other ∧ record.combination = twin.combination := by
  rw [Found.className_of_mem a.member, Found.className_of_mem b.member] at same
  obtain ⟨names, combinations⟩ := StaticStyles.eq_of_className_eq left right components same
  exact ⟨a.first.eq_of_foldedName b.first names, combinations⟩

theorem Registry.Holds.rule_eq_of_body_eq {taken : List Found} {registry : Registry}
    (holds : registry.Holds config taken) (few : registry.rules.length ≤ UInt32.size) {a b : SharedRule}
    (left : a ∈ registry.rules) (right : b ∈ registry.rules) (same : a.body = b.body) : a = b :=
  List.inj_on_of_nodup_map (holds.nodup_bodies few) left right same

/-- Exactly one rule lists each class exactly if no two records of a class differ in their bodies. -/
theorem Registry.Holds.existsUnique_rule_iff {registry : Registry}
    (holds : registry.Holds config (Found.firsts (declared sources)))
    (few : registry.rules.length ≤ UInt32.size) :
    (∀ found record, Generated config sources found record →
      ∃! rule, rule ∈ registry.rules ∧ record.className ∈ rule.classes) ↔
    (∀ found record other twin, Generated config sources found record → Generated config sources other twin →
      record.className = twin.className → record.body = twin.body) := by
  constructor
  · intro single found record other twin a b same
    obtain ⟨rule, stored, body, listed⟩ := holds.lists_iff.mpr ⟨found, a.first, record, a.member, rfl, rfl⟩
    obtain ⟨double, also, twin_body, too⟩ := holds.lists_iff.mpr ⟨other, b.first, twin, b.member, rfl, rfl⟩
    have equal : rule = double := (single found record a).unique ⟨stored, listed⟩ ⟨also, same ▸ too⟩
    rw [← body, ← twin_body, equal]
  · intro agree found record a
    obtain ⟨rule, stored, body, listed⟩ := holds.lists_iff.mpr ⟨found, a.first, record, a.member, rfl, rfl⟩
    refine ⟨rule, ⟨stored, listed⟩, ?_⟩
    rintro double ⟨also, too⟩
    obtain ⟨other, first, twin, member, twin_body, same⟩ := holds.lists_iff.mp ⟨double, also, rfl, too⟩
    have bodies : twin.body = record.body := agree other twin found record ⟨first, member⟩ a same
    exact holds.rule_eq_of_body_eq few also stored (by rw [← twin_body, bodies, body])

theorem exists_generated_iff :
    (∃ found, Generated config sources found record) ↔
      record ∈ (Found.firsts (declared sources)).flatMap (·.records config) := by
  rw [List.mem_flatMap]
  refine exists_congr fun found => ?_
  rw [Found.mem_firsts_iff]
  exact ⟨fun a => ⟨a.first, a.member⟩, fun ⟨first, member⟩ => ⟨first, member⟩⟩

end

/-! ## Shared classes -/

/-- Two records of a build whose props and values can be told apart have one class name exactly if the tokens of
their components are the same and so are those of all their values; if the values are plain texts, only the same
combination of the same declaration has it. Every class name is listed by exactly one rule exactly if records
that share a class name share their body. -/
theorem shared_class_iff {config : BuildConfig} {compiler : Compiler}
    (made : Compiler.ofConfig config = .ok compiler) (sources : List (String × String)) :
    let rules := (compiler.after sources).registry.rules
    (∀ found record other twin, Generated config sources found record → Generated config sources other twin →
      (Unseparated record.combination → Unseparated twin.combination →
        NamesApart record.combination twin.combination →
        (found.foldedName = other.foldedName ∨ '_' ∉ found.foldedName ∧ '_' ∉ other.foldedName) →
        (record.className = twin.className ↔
          token found.foldedName = token other.foldedName ∧
            valueTokens record.combination = valueTokens twin.combination)) ∧
      (Spelled record.combination → Spelled twin.combination →
        (found.foldedName = other.foldedName ∨
          (∀ c ∈ found.foldedName, isPlain c = true) ∧ ∀ c ∈ other.foldedName, isPlain c = true) →
        record.className = twin.className → found = other ∧ record.combination = twin.combination)) ∧
    (rules.length ≤ UInt32.size →
      ((∀ found record, Generated config sources found record →
        ∃! rule, rule ∈ rules ∧ record.className ∈ rule.classes) ↔
      (∀ found record other twin, Generated config sources found record → Generated config sources other twin →
        record.className = twin.className → record.body = twin.body))) := by
  intro rules
  refine ⟨?_, (Compiler.registry_after made sources).existsUnique_rule_iff⟩
  intro found record other twin a b
  exact ⟨a.className_eq_iff b, a.eq_of_className_eq b⟩

/-- A value that is no plain text, and a plain one that spells its hash: they share a class, which one rule lists, since
their bodies are the same. Another plain value has a class of its own. -/
theorem shared_class_iff_hashed :
    let source := "const Box = styled.i\x60top: $\x7bp => p.at === 'b' ? 'b' : 'a-0be0'\x7d; " ++
      "left: $\x7bp => p.at === 'a!' ? '1' : '1'\x7d\x60;"
    let rules := (Compiler.initial.after [("a.tsx", source)]).registry.rules
    Compiler.ofConfig .default = .ok .initial ∧ rules.length ≤ UInt32.size ∧
      ∃ found plain hashed spelling, Generated .default [("a.tsx", source)] found plain ∧
        Generated .default [("a.tsx", source)] found hashed ∧ Generated .default [("a.tsx", source)] found spelling ∧
        (Unseparated hashed.combination ∧ Unseparated spelling.combination ∧
          NamesApart hashed.combination spelling.combination ∧ hashed.combination ≠ spelling.combination ∧
          hashed.className = spelling.className) ∧
        (Unseparated plain.combination ∧ NamesApart plain.combination hashed.combination ∧
          plain.className ≠ hashed.className) ∧
        (Spelled plain.combination ∧ Spelled spelling.combination ∧ plain.className ≠ spelling.className) ∧
        ∃! rule, rule ∈ rules ∧ hashed.className ∈ rule.classes := by
  intro source rules
  let plain : Record := .ofBody "Box" (.ofList [("at", "b")]) "top: b; left: 1"
  let hashed : Record := .ofBody "Box" (.ofList [("at", "a!")]) "top: a-0be0; left: 1"
  let spelling : Record := .ofBody "Box" (.ofList [("at", "a-0be0")]) "top: a-0be0; left: 1"
  have all : (Found.firsts (declared [("a.tsx", source)])).flatMap (·.records .default) = [plain, spelling, hashed] := by
    decide +kernel
  obtain ⟨found, only⟩ : ∃ found, Found.firsts (declared [("a.tsx", source)]) = [found] :=
    List.length_eq_one_iff.mp (by decide +kernel)
  have generated {record : Record} (member : record ∈ [plain, spelling, hashed]) :
      Generated .default [("a.tsx", source)] found record := by
    rw [← all, only, List.flatMap_singleton] at member
    exact ⟨Found.mem_firsts_iff.mp (only ▸ List.mem_singleton_self found), member⟩
  have merged : rules = SharedRule.ofRecords [plain, spelling, hashed] := by
    rw [← all]
    exact Compiler.rules_after Compiler.ofConfig_default (by rw [all]; decide)
  have few : rules.length ≤ UInt32.size := by
    rw [merged]
    decide +kernel
  have agree : ∀ found record other twin, Generated .default [("a.tsx", source)] found record →
      Generated .default [("a.tsx", source)] other twin → record.className = twin.className →
        record.body = twin.body := by
    have each : ∀ a ∈ [plain, spelling, hashed], ∀ b ∈ [plain, spelling, hashed],
        a.className = b.className → a.body = b.body := by
      decide +kernel
    intro found a other b left right
    exact each a (all ▸ exists_generated_iff.mp ⟨found, left⟩) b (all ▸ exists_generated_iff.mp ⟨other, right⟩)
  obtain ⟨shared, unique⟩ := shared_class_iff Compiler.ofConfig_default [("a.tsx", source)]
  have a := generated (List.mem_cons_self : plain ∈ _)
  have b := generated (by simp : hashed ∈ _)
  have c := generated (by simp : spelling ∈ _)
  have left : Unseparated hashed.combination := by decide +kernel
  have right : Unseparated spelling.combination := by decide +kernel
  have apart : NamesApart hashed.combination spelling.combination := by decide +kernel
  have same_tokens : valueTokens hashed.combination = valueTokens spelling.combination :=
    SortedMap.ext_entries (by decide +kernel)
  have other : Unseparated plain.combination := by decide +kernel
  have others_apart : NamesApart plain.combination hashed.combination := by decide +kernel
  have spelled : Spelled plain.combination := by decide +kernel
  have spelled' : Spelled spelling.combination := by decide +kernel
  refine ⟨Compiler.ofConfig_default, few, found, plain, hashed, spelling, a, b, c,
    ⟨left, right, apart, by decide, ?_⟩, ⟨other, others_apart, ?_⟩, ⟨spelled, spelled', ?_⟩, ?_⟩
  · exact ((shared found hashed found spelling b c).1 left right apart (.inl rfl)).mpr ⟨rfl, same_tokens⟩
  · intro same
    have tokens := ((shared found plain found hashed a b).1 other left others_apart (.inl rfl)).mp same
    exact absurd tokens.2 (by decide +kernel)
  · intro same
    have combinations := ((shared found plain found spelling a c).2 spelled spelled' (.inl rfl) same).2
    exact absurd combinations (by decide)
  · exact (unique few).mpr agree found hashed b

/-- A value that spells the hash of another one: two combinations of one component share a class, which two
rules list. -/
theorem shared_class_at :
    let source := "const Box = styled.i\x60top: $\x7bp => p.at === 'a!' ? '1' : '2'\x7d; " ++
      "left: $\x7bp => p.at === 'a-0be0' ? '3' : '4'\x7d\x60;"
    ∃ found record other twin, Generated .default [("a.tsx", source)] found record ∧
      Generated .default [("a.tsx", source)] other twin ∧
      record.combination ≠ twin.combination ∧ record.className = twin.className ∧
      (Compiler.initial.after [("a.tsx", source)]).registry.rules =
        [⟨["box_at-a-0be0"], record.body⟩, ⟨["box_at-a-0be0"], twin.body⟩] ∧ record.body ≠ twin.body := by
  intro source
  let record : Record := .ofBody "Box" (.ofList [("at", "a!")]) "top: 1; left: 4"
  let twin : Record := .ofBody "Box" (.ofList [("at", "a-0be0")]) "top: 2; left: 3"
  have both : (Found.firsts (declared [("a.tsx", source)])).flatMap (·.records .default) = [record, twin] := by
    decide +kernel
  obtain ⟨found, left⟩ : ∃ found, Generated .default [("a.tsx", source)] found record := by
    simp [exists_generated_iff, both]
  obtain ⟨other, right⟩ : ∃ found, Generated .default [("a.tsx", source)] found twin := by
    simp [exists_generated_iff, both]
  refine ⟨found, record, other, twin, left, right, by decide, by decide +kernel, ?_, by decide⟩
  rw [Compiler.rules_after Compiler.ofConfig_default (by rw [both]; decide), both]
  decide +kernel

end StaticStyles
