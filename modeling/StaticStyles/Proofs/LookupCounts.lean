import Mathlib.Data.Fintype.Basic
import Mathlib.Logic.Function.Basic
import StaticStyles.Resolver.Lookup

/-!
Resolvers that share a map and are asked in any order. What one answers is told by the map, its own setup and the props
alone, and its counters are the numbers of its own lookups since its own last reset that found a class and that did not
(`Resolver.lookups_counted`).
-/
namespace StaticStyles.Resolver

/-! ## Requests -/

/-- What is asked of a resolver: the class of props, whether their styles must be computed while the program runs, its
counters, or to forget these. -/
inductive Request where
  | resolve (props : Json.Value)
  | needsRuntime (props : Json.Value)
  | stats
  | reset

inductive Answer where
  | found (className : Option String)
  | runtime (needed : Bool)
  | counted (stats : LookupStats)
  | done
deriving DecidableEq

/-- The answer to a request, and the resolver after it. -/
def serve (resolver : Resolver) : Request → Answer × Resolver
  | .resolve props => (.found (resolver.resolve props).1, (resolver.resolve props).2)
  | .needsRuntime props => (.runtime (resolver.needsRuntime props).1, (resolver.needsRuntime props).2)
  | .stats => (.counted resolver.stats, resolver)
  | .reset => (.done, resolver.reset)

/-- Resolvers after requests, each to one of them. -/
def afterRequests {n : Nat} (group : Fin n → Resolver) (requests : List (Fin n × Request)) : Fin n → Resolver :=
  requests.foldl (fun group (who, request) => Function.update group who ((group who).serve request).2) group

/-! ## What answers and counters should be -/

/-- How a resolver of a group is set up: with the map of the group or degraded, and its own setting. -/
structure Setup where
  ready : Bool
  dynamicFallback : Bool

namespace Setup

def resolver (map : ClassMap) (setup : Setup) : Resolver :=
  { ofMap (if setup.ready then some map else none) with dynamicFallback := setup.dynamicFallback }

/-- The class of props; without the map there is none. -/
def classOf (map : ClassMap) (setup : Setup) (props : Json.Value) : Option String :=
  if setup.ready then (propsKey? props).bind map.get? else none

end Setup

/-- The props that a request looks up. -/
def Request.props? : Request → Option Json.Value
  | .resolve props => some props
  | .needsRuntime props => some props
  | .stats => none
  | .reset => none

/-- Whether a request makes the resolver forget. -/
def Request.resets : Request → Bool
  | .resolve _ => false
  | .needsRuntime _ => false
  | .stats => false
  | .reset => true

/-- The props that a resolver has looked up since its last reset, the latest first. -/
def lookedUp {n : Nat} (who : Fin n) (requests : List (Fin n × Request)) : List Json.Value :=
  let own := (requests.filter (·.1 = who)).map (·.2)
  (own.reverse.takeWhile (!·.resets)).filterMap Request.props?

section
variable {n : Nat} {who other : Fin n} {requests : List (Fin n × Request)} {request : Request}

theorem lookedUp_concat_of_ne (different : other ≠ who) :
    lookedUp who (requests ++ [(other, request)]) = lookedUp who requests := by
  simp [lookedUp, different]

theorem lookedUp_concat_self : lookedUp who (requests ++ [(who, request)]) =
    if request.resets then [] else request.props?.toList ++ lookedUp who requests := by
  cases request <;> simp [lookedUp, Request.resets, Request.props?, List.filterMap_cons]

theorem length_lookedUp_le (who : Fin n) (requests : List (Fin n × Request)) :
    (lookedUp who requests).length ≤ requests.length :=
  calc (lookedUp who requests).length
    _ ≤ (((requests.filter (·.1 = who)).map (·.2)).reverse.takeWhile (!·.resets)).length :=
      List.length_filterMap_le ..
    _ ≤ ((requests.filter (·.1 = who)).map (·.2)).reverse.length := (List.takeWhile_sublist _).length_le
    _ = (requests.filter (·.1 = who)).length := by simp
    _ ≤ requests.length := List.length_filter_le ..

/-! ## One request -/

/-- A resolver of a group that has counted lookups of the given props. -/
structure Counted (map : ClassMap) (setup : Setup) (looked : List Json.Value) (resolver : Resolver) : Prop where
  shared : resolver.map = if setup.ready then some map else none
  setting : resolver.dynamicFallback = setup.dynamicFallback
  hits : resolver.stats.hits = looked.countP fun props => (setup.classOf map props).isSome
  misses : resolver.stats.misses = looked.countP fun props => (setup.classOf map props).isNone

namespace Counted
variable {map : ClassMap} {setup : Setup} {looked : List Json.Value} {resolver : Resolver}

theorem start (map : ClassMap) (setup : Setup) : Counted map setup [] (setup.resolver map) :=
  ⟨rfl, rfl, rfl, rfl⟩

theorem class?_eq (counted : Counted map setup looked resolver) (props : Json.Value) :
    resolver.class? props = setup.classOf map props := by
  rw [class?, counted.shared, Setup.classOf]
  cases setup.ready <;> rfl

theorem resolve (counted : Counted map setup looked resolver) (props : Json.Value) :
    Counted map setup (props :: looked) (resolver.resolve props).2 := by
  refine ⟨counted.shared, counted.setting, ?_, ?_⟩
  · rw [List.countP_cons, ← counted.hits, Resolver.resolve, counted.class?_eq]
    cases setup.classOf map props <;> rfl
  · rw [List.countP_cons, ← counted.misses, Resolver.resolve, counted.class?_eq]
    cases setup.classOf map props <;> rfl

/-- What a request leaves: a lookup counts once, a reset forgets all, and reading the counters changes nothing. -/
theorem serve (counted : Counted map setup looked resolver) (request : Request) :
    Counted map setup (if request.resets then [] else request.props?.toList ++ looked)
      (resolver.serve request).2 := by
  cases request with
  | resolve props => exact counted.resolve props
  | needsRuntime props => exact counted.resolve props
  | stats => exact counted
  | reset => exact ⟨counted.shared, counted.setting, rfl, rfl⟩

theorem answer_resolve (counted : Counted map setup looked resolver) (props : Json.Value) :
    (resolver.serve (.resolve props)).1 = .found (setup.classOf map props) := by
  rw [Resolver.serve, Resolver.resolve, counted.class?_eq]

theorem answer_needsRuntime (counted : Counted map setup looked resolver) (props : Json.Value) :
    (resolver.serve (.needsRuntime props)).1 =
      .runtime ((setup.classOf map props).isNone && setup.dynamicFallback) := by
  rw [Resolver.serve, Resolver.needsRuntime, Resolver.resolve, counted.class?_eq]
  exact congrArg (fun setting => Answer.runtime (_ && setting)) counted.setting

end Counted

/-! ## Any requests -/

theorem afterRequests_concat (group : Fin n → Resolver) (requests : List (Fin n × Request)) (who : Fin n)
    (request : Request) : afterRequests group (requests ++ [(who, request)]) =
      Function.update (afterRequests group requests) who ((afterRequests group requests who).serve request).2 :=
  List.foldl_append

theorem counted_afterRequests (map : ClassMap) (setups : Fin n → Setup) (requests : List (Fin n × Request))
    (who : Fin n) : Counted map (setups who) (lookedUp who requests)
      (afterRequests (fun who => (setups who).resolver map) requests who) := by
  induction requests using List.reverseRecOn with
  | nil => exact Counted.start map (setups who)
  | append_singleton requests last ih =>
    obtain ⟨asked, request⟩ := last
    rw [afterRequests_concat]
    -- a request to another resolver changes neither this one nor what it has looked up
    by_cases same : asked = who
    · subst same
      rw [Function.update_self, lookedUp_concat_self]
      exact ih.serve request
    · rw [Function.update_of_ne (Ne.symm same), lookedUp_concat_of_ne same]
      exact ih

/-- After any requests to resolvers that share a map, the next lookup of each is answered from the map, its setup and
the props; styles must be computed at run time exactly if there is no class and the setting allows it; and the counters
of each are the numbers of its own lookups since its own last reset with and without a class, none of them with one if
it is degraded. In fewer requests than a word can count no counter reaches the size of a word. -/
theorem lookups_counted (map : ClassMap) (setups : Fin n → Setup) (requests : List (Fin n × Request)) (who : Fin n) :
    let resolver := afterRequests (fun who => (setups who).resolver map) requests who
    let classOf := (setups who).classOf map
    (∀ props, (resolver.serve (.resolve props)).1 = .found (classOf props)) ∧
    (∀ props, (resolver.serve (.needsRuntime props)).1 = .runtime true ↔
      (resolver.serve (.resolve props)).1 = .found none ∧ (setups who).dynamicFallback = true) ∧
    (resolver.serve .stats).1 = .counted
      ⟨(lookedUp who requests).countP fun props => (classOf props).isSome,
        (lookedUp who requests).countP fun props => (classOf props).isNone⟩ ∧
    ((setups who).ready = false → resolver.stats.hits = 0) ∧
    (requests.length < UInt64.size → resolver.stats.total < UInt64.size) := by
  intro resolver classOf
  have counted : Counted map (setups who) (lookedUp who requests) resolver :=
    counted_afterRequests map setups requests who
  refine ⟨counted.answer_resolve, ?_, ?_, ?_, ?_⟩
  · intro props
    rw [counted.answer_resolve, counted.answer_needsRuntime]
    simp
  · rw [← counted.hits, ← counted.misses]
    rfl
  · intro degraded
    rw [counted.hits]
    simp [Setup.classOf, degraded]
  · intro few
    have all : resolver.stats.total = (lookedUp who requests).length := by
      have missed : (fun props => (classOf props).isNone) = fun props => decide ¬(classOf props).isSome = true := by
        funext props
        cases classOf props <;> rfl
      rw [LookupStats.total, counted.hits, counted.misses, missed]
      exact (List.length_eq_countP_add_countP _).symm
    rw [all]
    exact Nat.lt_of_le_of_lt (length_lookedUp_le who requests) few

/-- A ready resolver and a degraded one on a map with one class: each counts its own lookups, and a reset of the one
leaves the other alone. -/
theorem lookups_counted_pair :
    let map : ClassMap := .ofList [("on:true", "tag_on-true")]
    let setups : Fin 2 → Setup := fun who => ⟨who = 0, who = 1⟩
    let on : Json.Value := .object [("on", .text "true")]
    let requests : List (Fin 2 × Request) := [(0, .resolve on), (1, .resolve on), (0, .reset), (0, .needsRuntime on),
      (1, .needsRuntime on), (0, .resolve (.object [])), (1, .stats)]
    let group := afterRequests (fun who => (setups who).resolver map) requests
    requests.length < UInt64.size ∧
      ((group 0).serve (.resolve on)).1 = .found (some "tag_on-true") ∧ ((group 0).serve .stats).1 = .counted ⟨1, 1⟩ ∧
      ((group 1).serve (.needsRuntime on)).1 = .runtime true ∧ ((group 1).serve .stats).1 = .counted ⟨0, 2⟩ ∧
      (group 1).stats.total < UInt64.size := by
  intro map setups on requests group
  have few : requests.length < UInt64.size := by decide
  have known : (setups 0).classOf map on = some "tag_on-true" := by decide +kernel
  obtain ⟨first, _, ownFirst, _, _⟩ := lookups_counted map setups requests 0
  obtain ⟨second, needed, ownSecond, _, fits⟩ := lookups_counted map setups requests 1
  refine ⟨few, (first on).trans (by rw [known]), ownFirst.trans ?_, (needed on).mpr ⟨second on, rfl⟩,
    ownSecond.trans ?_, fits few⟩
  · decide +kernel
  · decide +kernel

end

end StaticStyles.Resolver
