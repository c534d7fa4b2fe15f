/-!
The ends of template literals. A template runs to its closing backtick; an interpolation `${ … }`
inside it is script, whose strings, blocks and templates nest and hide what they contain.
-/
namespace StaticStyles.Template

/-- What a reader of a template is inside of: the text of a template, script between braces, or a string of the script
opened by `mark`. -/
inductive Frame where
  | text
  | script
  | quote (mark : Char)
deriving DecidableEq, Repr

/-- What follows once everything that is open, innermost first, has been closed. -/
def close : List Frame → List Char → Option (List Char)
  | [], rest => some rest
  | _ :: _, [] => none
  | .text :: _, ['\\'] => none
  | .text :: outer, '\\' :: _ :: rest => close (.text :: outer) rest
  | .text :: outer, '\x60' :: rest => close outer rest
  | .text :: outer, '$' :: '{' :: rest => close (.script :: .text :: outer) rest
  | .text :: outer, _ :: rest => close (.text :: outer) rest
  | .script :: outer, '}' :: rest => close outer rest
  | .script :: outer, '{' :: rest => close (.script :: .script :: outer) rest
  | .script :: outer, '\'' :: rest => close (.quote '\'' :: .script :: outer) rest
  | .script :: outer, '"' :: rest => close (.quote '"' :: .script :: outer) rest
  | .script :: outer, '\x60' :: rest => close (.text :: .script :: outer) rest
  | .script :: outer, _ :: rest => close (.script :: outer) rest
  | .quote _ :: _, ['\\'] => none
  | .quote mark :: outer, '\\' :: _ :: rest => close (.quote mark :: outer) rest
  | .quote mark :: outer, c :: rest =>
    if c = mark then close outer rest else close (.quote mark :: outer) rest

theorem close_char {outer : List Frame} {c : Char} {rest : List Char} (tick : c ≠ '\x60') (slash : c ≠ '\\')
    (bare : c = '$' → rest.head? ≠ some '{') :
    close (.text :: outer) (c :: rest) = close (.text :: outer) rest := by
  rw [close]
  · intro escape
    contradiction
  · intro _ _ escape
    contradiction
  · exact tick
  · rintro rest dollar rfl
    exact bare dollar rfl

theorem close_sign {outer : List Frame} {c : Char} {rest : List Char} (plain : c ∉ ['{', '}', '\'', '"', '\x60']) :
    close (.script :: outer) (c :: rest) = close (.script :: outer) rest := by
  simp only [List.mem_cons, List.not_mem_nil, or_false, not_or] at plain
  obtain ⟨opens, closes, single, double, tick⟩ := plain
  rw [close] <;> assumption

theorem close_quote {outer : List Frame} {mark c : Char} {rest : List Char} (slash : c ≠ '\\') :
    close (.quote mark :: outer) (c :: rest) =
      if c = mark then close outer rest else close (.quote mark :: outer) rest := by
  rw [close]
  · intro escape
    contradiction
  · intro _ _ escape
    contradiction

/-- The body of a template up to its closing backtick, and what follows that. -/
def body? (text : List Char) : Option (List Char × List Char) :=
  (close [.text] text).map fun rest => (text.take (text.length - rest.length - 1), rest)

/-- The script of an interpolation up to its closing brace, and what follows that. -/
def script? (text : List Char) : Option (List Char × List Char) :=
  (close [.script] text).map fun rest => (text.take (text.length - rest.length - 1), rest)

end StaticStyles.Template
