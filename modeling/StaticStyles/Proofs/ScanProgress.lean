import StaticStyles.Proofs.ByteReading
import StaticStyles.Proofs.TextSearch

/-!
The scan of a source. It goes from binding to binding, each time further, until there is none left, and what is declared
stands in templates that do not overlap (`scan_progresses`).
-/
namespace StaticStyles.Source
open Text

/-! ## What is left behind a binding -/

section
variable {text rest : List Char}

theorem after?_suffix {word : String} (found : after? word text = some rest) : rest <:+ text :=
  ⟨word.toList, (afterChars?_eq_some_iff.mp found).symm⟩

theorem skipBlanks_suffix (text : List Char) : skipBlanks text <:+ text := List.dropWhile_suffix _

theorem name?_suffix {name : List Char} (found : name? text = some (name, rest)) : rest <:+ text :=
  ⟨name, name?_append found⟩

theorem tag?_suffix {tag : List Char} (found : tag? text = some (tag, rest)) : rest <:+ text := by
  cases text with
  | nil => contradiction
  | cons c text =>
    rw [tag?] at found
    split at found
    · obtain ⟨_, rfl⟩ := Prod.mk.inj (Option.some.inj found)
      exact (List.dropWhile_suffix _).trans (List.suffix_cons c text)
    · contradiction

theorem string?_suffix {mark : Char} {base : List Char} (found : string? mark text = some (base, rest)) :
    rest <:+ text := by
  rw [string?] at found
  split at found
  · contradiction
  · next c behind split =>
    obtain ⟨_, rfl⟩ := Prod.mk.inj (Option.some.inj found)
    have suffix := List.dropWhile_suffix (l := text) (· != mark)
    rw [split] at suffix
    exact (List.suffix_cons c behind).trans suffix

theorem argument?_suffix {base : List Char} (found : argument? text = some (base, rest)) : rest <:+ text := by
  unfold argument? at found
  split at found
  · exact (string?_suffix found).trans (List.suffix_cons _ _)
  · exact (string?_suffix found).trans (List.suffix_cons _ _)
  · split at found
    · obtain ⟨_, rfl⟩ := Prod.mk.inj (Option.some.inj found)
      exact (List.dropWhile_suffix _).trans (List.suffix_cons _ _)
    · contradiction
  · contradiction

theorem call?_suffix {base : Option (List Char)} (found : call? text = some (base, rest)) : rest <:+ text := by
  rw [call?] at found
  split at found
  · next behind styled =>
    have left := (skipBlanks_suffix behind).trans (after?_suffix styled)
    split at found
    · next further dot =>
      rw [dot] at left
      obtain ⟨⟨tag, rest⟩, read, same⟩ := Option.map_eq_some_iff.mp found
      obtain ⟨_, rfl⟩ := Prod.mk.inj same
      exact ((tag?_suffix read).trans (skipBlanks_suffix _)).trans ((List.suffix_cons _ _).trans left)
    · next further bracket =>
      rw [bracket] at left
      simp only [Option.bind_eq_bind, Option.bind_eq_some_iff, Option.pure_def, Option.some.injEq, Prod.mk.injEq]
        at found
      obtain ⟨⟨argument, inside⟩, read, last, closes, _, rfl⟩ := found
      have inner := (after?_suffix closes).trans ((skipBlanks_suffix _).trans (argument?_suffix read))
      exact (inner.trans (skipBlanks_suffix _)).trans ((List.suffix_cons _ _).trans left)
    · contradiction
  · obtain ⟨behind, css, found⟩ := Option.bind_eq_some_iff.mp found
    split at found
    · contradiction
    · obtain ⟨_, rfl⟩ := Prod.mk.inj (Option.some.inj found)
      exact after?_suffix css

theorem exists_keyword (found : afterKeyword? text = some rest) : ∃ written, written ≠ [] ∧ text = written ++ rest := by
  obtain ⟨word, listed, found⟩ := List.exists_of_findSome?_eq_some found
  obtain ⟨behind, keyword, found⟩ := Option.bind_eq_some_iff.mp found
  split at found
  · obtain rfl := Option.some.inj found
    obtain ⟨blanks, split⟩ := skipBlanks_suffix behind
    refine ⟨word.toList ++ blanks, ?_, ?_⟩
    · have filled : ∀ word ∈ ["const", "let", "var"], word.toList ≠ [] := by decide
      exact List.append_ne_nil_of_left_ne_nil (filled word listed) _
    · rw [afterChars?_eq_some_iff.mp keyword, List.append_assoc, split]
  · contradiction

/-- A binding takes something of the text. -/
theorem exists_written {before : Option Char} {binding : Binding}
    (found : binding? before text = some (binding, rest)) : ∃ written, written ≠ [] ∧ text = written ++ rest := by
  unfold binding? at found
  split at found
  · contradiction
  · simp only [Option.bind_eq_bind, Option.bind_eq_some_iff, Option.pure_def, Option.some.injEq, Prod.mk.injEq]
      at found
    obtain ⟨behind, keyword, ⟨name, named⟩, bound, sign, equals, ⟨base, last⟩, call, _, rfl⟩ := found
    obtain ⟨written, filled, split⟩ := exists_keyword keyword
    have signed := (after?_suffix equals).trans ((skipBlanks_suffix _).trans (name?_suffix bound))
    obtain ⟨more, inner⟩ := ((call?_suffix call).trans (skipBlanks_suffix _)).trans signed
    refine ⟨written ++ more, List.append_ne_nil_of_left_ne_nil filled _, ?_⟩
    rw [split, List.append_assoc, inner]

/-! ## What is left behind a template -/

theorem groupEnd?_suffix {opening closing : Char} {depth : Nat} {afterEquals : Bool}
    (found : groupEnd? opening closing depth afterEquals text = some rest) : rest <:+ text := by
  fun_induction groupEnd? opening closing depth afterEquals text with
  | case1 | case6 => contradiction
  | case2 _ _ _ _ _ ih | case3 _ _ _ _ ih | case5 _ _ _ _ _ _ ih | case7 _ _ _ _ _ _ _ _ ih =>
    exact (ih found).trans (List.suffix_cons _ _)
  | case4 =>
    obtain rfl := Option.some.inj found
    exact List.suffix_cons _ _

theorem afterGroup?_suffix {opening closing : Char} (found : afterGroup? opening closing text = some rest) :
    rest <:+ text := by
  rw [afterGroup?] at found
  split at found
  · exact groupEnd?_suffix found
  · contradiction

theorem skipLayout_suffix (text : List Char) : skipLayout text <:+ text := List.dropWhile_suffix _

theorem afterAttributes?_suffix (found : afterAttributes? text = some rest) : rest <:+ text := by
  rw [afterAttributes?] at found
  split at found
  · next behind attributes =>
    obtain ⟨last, group, rfl⟩ := Option.map_eq_some_iff.mp found
    have inner := (afterGroup?_suffix group).trans (skipLayout_suffix behind)
    exact (skipLayout_suffix last).trans (inner.trans (after?_suffix attributes))
  · obtain rfl := Option.some.inj found
    exact List.suffix_rfl

theorem afterTypes?_suffix (found : afterTypes? text = some rest) : rest <:+ text := by
  rw [afterTypes?] at found
  split at found
  · obtain ⟨last, group, rfl⟩ := Option.map_eq_some_iff.mp found
    exact (skipLayout_suffix last).trans (afterGroup?_suffix group)
  · obtain rfl := Option.some.inj found
    exact List.suffix_rfl

/-- What stands before the backtick, and the backtick. -/
theorem exists_opening (found : afterBacktick? text = some rest) : ∃ opening, text = opening ++ '\x60' :: rest := by
  simp only [afterBacktick?, Option.bind_eq_bind, Option.bind_eq_some_iff] at found
  obtain ⟨behind, attributes, last, types, tick⟩ := found
  have inner := (afterTypes?_suffix types).trans (afterAttributes?_suffix attributes)
  obtain ⟨opening, split⟩ := inner.trans (skipLayout_suffix text)
  refine ⟨opening, ?_⟩
  rw [← split, afterChars?_eq_some_iff.mp tick]
  rfl

end

/-- A binding yields a diagnostic, and the search goes on behind it, or a declaration of the template behind it, and the
search goes on behind that. -/
theorem declare_cases (binding : Binding) (text : List Char) :
    (∃ diagnostic, declare binding text = (.error diagnostic, text)) ∨
      ∃ declaration opening following, declare binding text = (.ok declaration, following) ∧
        text = opening ++ '\x60' :: (declaration.body.toList ++ '\x60' :: following) ∧
        declaration.component = String.ofList binding.component ∧
        Css.checkBody declaration.body.toList = .ok () ∧ Template.IsBody declaration.body.toList := by
  rw [declare]
  split
  · exact .inl ⟨_, rfl⟩
  · next rest opened =>
    split
    · exact .inl ⟨_, rfl⟩
    · next body following read =>
      split
      · exact .inl ⟨_, rfl⟩
      · next accepted =>
        obtain ⟨opening, split⟩ := exists_opening opened
        obtain ⟨rfl, whole⟩ := Template.body?_eq_some_iff.mp read
        refine .inr ⟨_, opening, following, rfl, ?_⟩
        rw [Declaration.ofBody, String.toList_ofList]
        exact ⟨split, rfl, accepted, whole⟩

/-! ## Sites -/

/-- A binding of a source at its place, as it is written between what stands before and after it. -/
structure Site (source : List Char) where
  before : List Char
  written : List Char
  after : List Char
  binding : Binding
  whole : source = before ++ (written ++ after)
  found : binding? before.getLast? (written ++ after) = some (binding, after)

namespace Site
variable {source : List Char}

/-- The offset at which the binding begins. -/
def start (site : Site source) : Nat := byteSize site.before

def stop (site : Site source) : Nat := byteSize site.before + byteSize site.written

def outcome (site : Site source) : Except Diagnostic Declaration := (declare site.binding site.after).1

/-- What is left where the search goes on. -/
def rest (site : Site source) : List Char := (declare site.binding site.after).2

/-- The offset at which the search goes on. -/
def resume (site : Site source) : Nat := byteSize source - byteSize site.rest

theorem written_ne_nil (site : Site source) : site.written ≠ [] := by
  obtain ⟨written, filled, same⟩ := exists_written site.found
  rwa [← List.append_cancel_right same] at filled

theorem start_lt_stop (site : Site source) : site.start < site.stop :=
  Nat.lt_add_of_pos_right (byteSize_pos site.written_ne_nil)

/-- What is passed behind the binding is not searched. -/
theorem exists_passed (site : Site source) : ∃ passed, site.after = passed ++ site.rest ∧
    site.resume = site.stop + byteSize passed := by
  obtain ⟨passed, split⟩ : ∃ passed, site.after = passed ++ site.rest := by
    rcases declare_cases site.binding site.after with ⟨_, yields⟩ | ⟨declaration, opening, following, yields, split, _⟩
    · exact ⟨[], by rw [rest, yields]; rfl⟩
    · rw [rest, yields]
      exact ⟨opening ++ '\x60' :: (declaration.body.toList ++ ['\x60']), by simp [split]⟩
  refine ⟨passed, split, ?_⟩
  have size := congrArg byteSize site.whole
  rw [split] at size
  simp only [byteSize_append] at size
  rw [resume, stop]
  omega

theorem stop_le_resume (site : Site source) : site.stop ≤ site.resume := by
  obtain ⟨passed, _, resumes⟩ := site.exists_passed
  omega

theorem start_lt_resume (site : Site source) : site.start < site.resume :=
  Nat.lt_of_lt_of_le site.start_lt_stop site.stop_le_resume

theorem resume_le (site : Site source) : site.resume ≤ byteSize source := Nat.sub_le _ _

theorem whole_passed {passed : List Char} (site : Site source) (split : site.after = passed ++ site.rest) :
    source = (site.before ++ (site.written ++ passed)) ++ site.rest := by
  rw [List.append_assoc, List.append_assoc, ← split]
  exact site.whole

theorem length_rest_lt (site : Site source) : site.rest.length < (site.written ++ site.after).length := by
  obtain ⟨passed, split, _⟩ := site.exists_passed
  have some_char := List.length_pos_iff.mpr site.written_ne_nil
  have lengths := congrArg List.length split
  rw [List.length_append] at lengths ⊢
  omega

/-- Where no binding begins there is no site. -/
theorem start_behind {front text : List Char} {c : Char} (whole : source = front ++ c :: text)
    (none_here : binding? front.getLast? (c :: text) = none) (site : Site source)
    (order : byteSize front ≤ site.start) : byteSize (front ++ [c]) ≤ site.start := by
  obtain ⟨between, before, split⟩ := exists_between (whole.symm.trans site.whole) order
  cases between with
  | nil =>
    rw [List.append_nil] at before
    rw [List.nil_append] at split
    rw [split, ← before, site.found] at none_here
    contradiction
  | cons d between =>
    obtain rfl := (List.cons.inj split).1
    simp [start, before]

/-- The scan finds a site's outcome where its binding begins, and goes on behind what is passed. -/
theorem searchAll_at {passed : List Char} (site : Site source) (split : site.after = passed ++ site.rest) :
    searchAll declareHere 0 site.before.getLast? (site.written ++ site.after) =
      site.outcome :: searchAll declareHere 0 (site.before ++ (site.written ++ passed)).getLast? site.rest := by
  have whole : site.written ++ site.after = (site.written ++ passed) ++ site.rest := by
    rw [List.append_assoc, ← split]
  have piece : site.written ++ passed ≠ [] := List.append_ne_nil_of_left_ne_nil site.written_ne_nil _
  have answer : declareHere site.before.getLast? ((site.written ++ passed) ++ site.rest) =
      some (site.outcome, site.rest) := by
    rw [← whole, declareHere, site.found]
    rfl
  rw [List.getLast?_append_of_ne_nil _ piece, whole, searchAll_of_answer piece answer]

end Site

/-! ## The scan -/

/-- The sites that a search from an offset on goes through: each is the leftmost one from where the search goes on. -/
inductive Scan {source : List Char} : Nat → List (Site source) → Prop
  | done {offset : Nat} (none : ∀ site : Site source, site.start < offset) : Scan offset []
  | next {offset : Nat} {site : Site source} {sites : List (Site source)} (behind : offset ≤ site.start)
    (leftmost : ∀ other : Site source, offset ≤ other.start → site.start ≤ other.start)
    (later : Scan site.resume sites) : Scan offset (site :: sites)

namespace Scan
variable {source : List Char} {offset : Nat} {sites : List (Site source)}

theorem le_start (scan : Scan offset sites) : ∀ site ∈ sites, offset ≤ site.start := by
  induction scan with
  | done => simp
  | @next offset site sites behind _ _ ih =>
    refine List.forall_mem_cons.mpr ⟨behind, ?_⟩
    intro other member
    exact Nat.le_trans behind (Nat.le_trans (Nat.le_of_lt site.start_lt_resume) (ih other member))

/-- A site begins where the ones before it are passed. -/
theorem pairwise (scan : Scan offset sites) : sites.Pairwise fun a b => a.resume ≤ b.start := by
  induction scan with
  | done => exact .nil
  | next _ _ later ih => exact List.pairwise_cons.mpr ⟨later.le_start, ih⟩

/-- Every site takes the search further. -/
theorem increasing (scan : Scan offset sites) : (offset :: sites.map (·.resume)).Pairwise (· < ·) := by
  rw [List.pairwise_cons, List.forall_mem_map, List.pairwise_map]
  constructor
  · intro site member
    exact Nat.lt_of_le_of_lt (scan.le_start site member) site.start_lt_resume
  · exact scan.pairwise.imp fun {_ b} passed => Nat.lt_of_le_of_lt passed b.start_lt_resume

/-- The search may begin earlier where there is no site. -/
theorem extend {further : Nat} (scan : Scan further sites) (order : offset ≤ further)
    (none : ∀ site : Site source, offset ≤ site.start → further ≤ site.start) : Scan offset sites := by
  cases scan with
  | done passed =>
    exact .done fun site => Nat.lt_of_not_le fun behind => Nat.not_lt.mpr (none site behind) (passed site)
  | next behind leftmost later =>
    exact .next (Nat.le_trans order behind) (fun other after => leftmost other (none other after)) later

end Scan

/-- From a place of a source on, what is found comes of the sites there. -/
theorem exists_scan_from {source front text : List Char} (whole : source = front ++ text) :
    ∃ sites : List (Site source), Scan (byteSize front) sites ∧
      searchAll declareHere 0 front.getLast? text = sites.map (·.outcome) := by
  -- Behind a site the search goes on at once, so the induction is on the length of what is left.
  induction length : text.length using Nat.strongRecOn generalizing front text with
  | ind n ih =>
    cases text with
    | nil =>
      refine ⟨[], .done ?_, rfl⟩
      intro site
      have size : byteSize source = byteSize front := by rw [whole, List.append_nil]
      rw [← size]
      exact Nat.lt_of_lt_of_le site.start_lt_resume site.resume_le
    | cons c text =>
      cases found : binding? front.getLast? (c :: text) with
      | none =>
        have shorter : text.length < n := by simp [← length]
        have whole' : source = (front ++ [c]) ++ text := by simp [whole]
        obtain ⟨sites, scan, outcomes⟩ := ih text.length shorter whole' rfl
        refine ⟨sites, scan.extend (by simp) (Site.start_behind whole found), ?_⟩
        rw [searchAll, declareHere, found]
        simpa using outcomes
      | some bound =>
        obtain ⟨binding, after⟩ := bound
        obtain ⟨written, _, split⟩ := exists_written found
        rw [split] at whole found length ⊢
        let site : Site source := ⟨front, written, after, binding, whole, found⟩
        obtain ⟨passed, behind, resumes⟩ := site.exists_passed
        have shorter : site.rest.length < n := Nat.lt_of_lt_of_eq site.length_rest_lt length
        obtain ⟨sites, scan, outcomes⟩ := ih site.rest.length shorter (site.whole_passed behind) rfl
        have offset : byteSize (front ++ (written ++ passed)) = site.resume := by
          rw [resumes, byteSize_append, byteSize_append, ← Nat.add_assoc]
          rfl
        rw [offset] at scan
        refine ⟨site :: sites, .next (Nat.le_refl _) (fun _ behind => behind) scan, ?_⟩
        rw [List.map_cons, ← outcomes]
        exact site.searchAll_at behind

/-! ## What a site yields -/

namespace Site
variable {source : List Char}

/-- A declaration that a site yields: its body is a slice of the source, enclosed by two backticks behind the binding,
and closes every interpolation that it opens. The search goes on right behind the backticks. -/
structure Declares (site : Site source) (declaration : Declaration) : Prop where
  component : declaration.component = String.ofList site.binding.component
  enclosed : ∃ start stop, site.stop ≤ start ∧ IsSlice source start (start + 1) ['\x60'] ∧
    IsSlice source (start + 1) stop declaration.body.toList ∧ IsSlice source stop (stop + 1) ['\x60'] ∧
    site.resume = stop + 1
  accepted : Css.checkBody declaration.body.toList = .ok ()
  whole : Template.IsBody declaration.body.toList
  closed : ∀ left right, declaration.body.toList = left ++ '$' :: '{' :: right → Template.IsBody left →
    ∃ script later, right = script ++ '}' :: later ∧ Template.IsScript script ∧ Template.IsBody later

theorem declares {site : Site source} {declaration : Declaration} (yields : site.outcome = .ok declaration) :
    site.Declares declaration := by
  rcases declare_cases site.binding site.after with
    ⟨_, refused⟩ | ⟨other, opening, following, declared, split, component, accepted, whole⟩
  · rw [outcome, refused] at yields
    contradiction
  · rw [outcome, declared] at yields
    obtain rfl := Except.ok.inj yields
    refine ⟨component, ?_, accepted, whole, ?_⟩
    · let front := site.before ++ (site.written ++ opening)
      have text : source = front ++ '\x60' :: (other.body.toList ++ '\x60' :: following) := by
        rw [List.append_assoc, List.append_assoc, ← split]
        exact site.whole
      have tick : Char.utf8Size '\x60' = 1 := rfl
      have size : byteSize source = byteSize front + 1 + byteSize other.body.toList + 1 + byteSize site.rest := by
        have rest : site.rest = following := congrArg Prod.snd declared
        rw [rest, congrArg byteSize text]
        simp [tick, Nat.add_assoc]
      refine ⟨byteSize front, byteSize front + 1 + byteSize other.body.toList, ?_, ⟨front, _, text, rfl, rfl⟩,
        ⟨front ++ ['\x60'], '\x60' :: following, text.trans (by simp), by simp [tick], by simp [tick]⟩,
        ⟨front ++ '\x60' :: other.body.toList, following, text.trans (by simp), ?_, ?_⟩, ?_⟩
      · simp only [stop, front, byteSize_append]
        omega
      · simp [tick, Nat.add_assoc]
      · simp [tick, Nat.add_assoc]
      · rw [resume, size, Nat.add_sub_cancel]
    · intro left right body inside
      rw [body] at whole
      exact whole.hole_closed inside

/-- Behind a binding that yields no declaration, the search goes on at once. -/
theorem resume_of_error {site : Site source} {diagnostic : Diagnostic} (yields : site.outcome = .error diagnostic) :
    site.resume = site.stop := by
  rcases declare_cases site.binding site.after with ⟨_, refused⟩ | ⟨_, _, _, declared, _⟩
  · obtain ⟨passed, split, resumes⟩ := site.exists_passed
    have kept : site.rest = site.after := congrArg Prod.snd refused
    rw [kept, List.self_eq_append_left] at split
    rw [resumes, split, byteSize_nil, Nat.add_zero]
  · rw [outcome, declared] at yields
    contradiction

/-! ## The slices of a site -/

/-- The bytes behind the binding. -/
def behind (site : Site source) : List Char := (bytes source).drop site.stop

theorem behind_eq (site : Site source) : site.behind = bytes site.after := by
  have size : (bytes (site.before ++ site.written)).length = site.stop := by
    rw [length_bytes, byteSize_append, stop]
  have split : bytes source = bytes (site.before ++ site.written) ++ bytes site.after := by
    rw [← bytes_append, List.append_assoc]
    exact congrArg bytes site.whole
  rw [behind, split, ← size, List.drop_left]

end Site

/-- The offset at which the last bytes of a source begin. -/
def offsetOf (source last : List Char) : Nat := byteSize source - last.length

theorem offsetOf_bytes {source front rest : List Char} (whole : source = front ++ rest) :
    offsetOf source (bytes rest) = byteSize front := by
  rw [offsetOf, length_bytes, whole, byteSize_append, Nat.add_sub_cancel]

/-- The slices taken for a site, at the places that are found among the bytes, are in range and split no character:
the text in which attributes are looked for, the body, and the text behind it in which an animation is looked for. That
is the longest one of at most so many bytes. -/
structure Site.SlicesFit {source : List Char} (site : Site source) : Prop where
  attributes : IsSlice source (offsetOf source (skipLayout site.behind)) (byteSize source) (skipLayout site.after)
  template : ∀ opened closed, afterBacktick? site.behind = some opened → Template.close [.text] opened = some closed →
    ∃ text body following, afterBacktick? site.after = some text ∧ Template.body? text = some (body, following) ∧
      IsSlice source (offsetOf source opened) (offsetOf source closed - 1) body ∧
      ∃ stop, IsSlice source (offsetOf source closed) stop (takeBytes lookahead following) ∧
        stop ≤ offsetOf source closed + lookahead ∧
        ∀ other piece, IsSlice source (offsetOf source closed) other piece →
          other ≤ offsetOf source closed + lookahead → other ≤ stop

theorem Site.slicesFit {source : List Char} (site : Site source) : site.SlicesFit where
  attributes := by
    obtain ⟨layout, split⟩ := skipLayout_suffix site.after
    have whole : source = (site.before ++ (site.written ++ layout)) ++ skipLayout site.after := by
      rw [List.append_assoc, List.append_assoc, split]
      exact site.whole
    rw [site.behind_eq, skipLayout_bytes, offsetOf_bytes whole]
    refine ⟨_, [], whole.trans (by simp), rfl, ?_⟩
    exact (congrArg byteSize whole).trans (byteSize_append _ _)
  template opened closed found ends := by
    rw [site.behind_eq, afterBacktick?_bytes] at found
    obtain ⟨text, opens, rfl⟩ := Option.map_eq_some_iff.mp found
    rw [Template.close_bytes (by simp [Template.Quoted])] at ends
    obtain ⟨following, closes, rfl⟩ := Option.map_eq_some_iff.mp ends
    obtain ⟨opening, split⟩ := exists_opening opens
    have closable : Template.Frame.text.closing ≠ '\\' := by decide
    obtain ⟨body, rfl, inside⟩ := (Template.close_eq_some_iff closable).mp closes
    have tick : Char.utf8Size '\x60' = 1 := rfl
    let front := site.before ++ (site.written ++ (opening ++ ['\x60']))
    have whole : source = front ++ (body ++ '\x60' :: following) := by
      refine site.whole.trans ?_
      rw [split]
      simp [front, Template.Frame.closing]
    have behind : source = (front ++ (body ++ ['\x60'])) ++ following := whole.trans (by simp)
    have offset : byteSize (front ++ (body ++ ['\x60'])) = byteSize front + byteSize body + 1 := by
      simp [tick, Nat.add_assoc]
    have opened : offsetOf source (bytes (body ++ '\x60' :: following)) = byteSize front := offsetOf_bytes whole
    refine ⟨_, body, following, opens, Template.body?_eq_some_iff.mpr ⟨rfl, inside⟩, ?_, ?_⟩
    · rw [offsetOf_bytes behind, offset, Nat.add_sub_cancel]
      exact ⟨front, _, whole, opened, rfl⟩
    · obtain ⟨last, window⟩ := takeBytes_prefix lookahead following
      rw [offsetOf_bytes behind]
      refine ⟨_, ⟨_, last, behind.trans ?_, rfl, rfl⟩, ?_, ?_⟩
      · rw [window]
      · exact Nat.add_le_add_left (byteSize_takeBytes_le _ _) _
      · rintro _ piece ⟨before, after, split, starts, rfl⟩ fits
        obtain ⟨rfl, rfl⟩ := append_inj_byteSize (behind.symm.trans split) starts
        exact Nat.add_le_add_left (byteSize_le_takeBytes (Nat.le_of_add_le_add_left fits) after) _

/-! ## The whole scan -/

theorem length_outcomes (outcomes : List (Except Diagnostic Declaration)) :
    (outcomes.filterMap accepted?).length + (outcomes.filterMap diagnostic?).length = outcomes.length := by
  induction outcomes with
  | nil => rfl
  | cons outcome outcomes ih =>
    cases outcome <;>
    · simp only [List.filterMap_cons, accepted?, diagnostic?, List.length_cons]
      omega

/-- A source is searched from binding to binding. Each one is the leftmost one from where the search goes on, and
takes the search further: behind the binding if it yields a diagnostic, and behind its template if it yields a
declaration. So the search ends, and there is a declaration or a diagnostic for each binding, in their order. A
declaration's body stands between two backticks, behind its own binding and before the next one, and is accepted as it
stands there. All slices on the way are in range and split no character. -/
theorem scan_progresses (source : List Char) :
    ∃ sites : List (Site source), Scan 0 sites ∧
      outcomes source = sites.map (·.outcome) ∧
      (declarations source).length + (diagnostics source).length = sites.length ∧
      (0 :: sites.map (·.resume)).Pairwise (· < ·) ∧
      sites.Pairwise (fun a b => a.resume ≤ b.start) ∧
      ∀ site ∈ sites, site.start < site.stop ∧ site.stop ≤ site.resume ∧ site.resume ≤ byteSize source ∧
        (∀ declaration, site.outcome = .ok declaration → site.Declares declaration) ∧
        (∀ diagnostic, site.outcome = .error diagnostic → site.resume = site.stop) ∧
        site.SlicesFit := by
  obtain ⟨sites, scan, found⟩ := @exists_scan_from source [] source rfl
  have found : outcomes source = sites.map (·.outcome) := found
  refine ⟨sites, scan, found, ?_, scan.increasing, scan.pairwise, ?_⟩
  · rw [declarations, diagnostics, length_outcomes, found, List.length_map]
  · intro site _
    exact ⟨site.start_lt_stop, site.stop_le_resume, site.resume_le, fun _ => Site.declares,
      fun _ => Site.resume_of_error, site.slicesFit⟩

end StaticStyles.Source
