import StaticStyles.Json.Value

/-!
Reading JSON in two steps. The grammar gives a raw tree, in which texts with broken escapes and numbers
of any size still stand; a raw tree then has a value if all its texts and numbers do and it is not
nested too deep. What a reader skips need only follow the grammar.
-/
namespace StaticStyles.Json

/-- The grammatical tree of JSON text. A text is absent if it holds half of a surrogate pair. -/
inductive Raw where
  | null
  | bool (value : Bool)
  | number (literal : Literal)
  | text (value : Option String)
  | array (items : List Raw)
  | object (members : List (Option String × Raw))
deriving Repr, Inhabited

/-- White space between the tokens of JSON. -/
def isSpace (c : Char) : Bool := c = ' ' || c = '\n' || c = '\t' || c = '\r'

def skipSpace (text : List Char) : List Char := text.dropWhile isSpace

/-! ## Texts -/

def hexValue? (c : Char) : Option Nat :=
  if c.isDigit then some (c.toNat - '0'.toNat)
  else if 'a' ≤ c && c ≤ 'f' then some (c.toNat - 'a'.toNat + 10)
  else if 'A' ≤ c && c ≤ 'F' then some (c.toNat - 'A'.toNat + 10)
  else none

def hex4? (a b c d : Char) : Option Nat := do
  let a ← hexValue? a
  let b ← hexValue? b
  let c ← hexValue? c
  let d ← hexValue? d
  return ((a * 16 + b) * 16 + c) * 16 + d

/-- The character of an escape with one letter. -/
def shortEscape? (c : Char) : Option Char :=
  match c with
  | '"' => some '"'
  | '\\' => some '\\'
  | '/' => some '/'
  | 'b' => some '\x08'
  | 'f' => some '\x0C'
  | 'n' => some '\n'
  | 'r' => some '\r'
  | 't' => some '\t'
  | _ => none

/-- The units of a text up to its closing quote, and what follows: characters, and the words of
numeric escapes. -/
def textUnits : List Char → Option (List (Char ⊕ Nat) × List Char)
  | '"' :: rest => some ([], rest)
  | '\\' :: 'u' :: a :: b :: c :: d :: rest => do
    let word ← hex4? a b c d
    let (units, rest) ← textUnits rest
    return (.inr word :: units, rest)
  | '\\' :: e :: rest => do
    let c ← shortEscape? e
    let (units, rest) ← textUnits rest
    return (.inl c :: units, rest)
  | c :: rest => do
    if c < ' ' then none
    let (units, rest) ← textUnits rest
    return (.inl c :: units, rest)
  | [] => none

/-- Whether a word is the first half of a surrogate pair. -/
def isHighHalf (word : Nat) : Bool := 0xD800 ≤ word && word < 0xDC00

/-- Whether a word is the second half of a surrogate pair. -/
def isLowHalf (word : Nat) : Bool := 0xDC00 ≤ word && word < 0xE000

/-- The characters of units; none if a surrogate stands alone. -/
def joinUnits : List (Char ⊕ Nat) → Option (List Char)
  | [] => some []
  | .inl c :: rest => (joinUnits rest).map (c :: ·)
  | .inr high :: .inr low :: rest =>
    if isHighHalf high then
      if isLowHalf low then
        (joinUnits rest).map (Char.ofNat (0x10000 + (high - 0xD800) * 0x400 + (low - 0xDC00)) :: ·)
      else none
    else if isLowHalf high then none
    else (joinUnits (.inr low :: rest)).map (Char.ofNat high :: ·)
  | .inr word :: rest =>
    if isHighHalf word || isLowHalf word then none
    else (joinUnits rest).map (Char.ofNat word :: ·)

/-- A text after its opening quote. -/
def readText (text : List Char) : Option (Option String × List Char) :=
  (textUnits text).map fun (units, rest) => ((joinUnits units).map String.ofList, rest)

/-! ## Numbers -/

/-- The digits at the beginning, one at least, and what follows. -/
def digits? (text : List Char) : Option (List Char × List Char) :=
  match text.takeWhile Char.isDigit with
  | [] => none
  | digits => some (digits, text.dropWhile Char.isDigit)

/-- The whole part of a number: no zero before other digits. -/
def whole? : List Char → Option (List Char × List Char)
  | '0' :: rest => if rest.head?.any Char.isDigit then none else some (['0'], rest)
  | text => digits? text

/-- The digits after a point, none without a point. -/
def fraction? : List Char → Option (Option (List Char) × List Char)
  | '.' :: rest => (digits? rest).map fun (digits, rest) => (some digits, rest)
  | text => some (none, text)

/-- The number that decimal digits spell. -/
def natOfDigits (digits : List Char) : Nat := digits.foldl (fun n c => n * 10 + digitValue c) 0

/-- The power of ten after `e`, none without it. -/
def power? (text : List Char) : Option (Option Int × List Char) :=
  match text with
  | e :: rest =>
    if e = 'e' || e = 'E' then
      match rest with
      | '-' :: rest => (digits? rest).map fun (digits, rest) => (some (-(natOfDigits digits : Int)), rest)
      | '+' :: rest => (digits? rest).map fun (digits, rest) => (some (natOfDigits digits : Int), rest)
      | rest => (digits? rest).map fun (digits, rest) => (some (natOfDigits digits : Int), rest)
    else some (none, text)
  | [] => some (none, [])

/-- A number, and what follows. -/
def literal? (text : List Char) : Option (Literal × List Char) := do
  let (negative, text) := match text with
    | '-' :: rest => (true, rest)
    | text => (false, text)
  let (whole, text) ← whole? text
  let (fraction, text) ← fraction? text
  let (power, text) ← power? text
  return (⟨negative, whole, fraction.getD [], power.getD 0, fraction.isNone && power.isNone⟩, text)

/-! ## The grammar -/

mutual

/-- A value after optional white space, and what follows; `fuel` bounds the depth of calls. -/
def readValue : (fuel : Nat) → List Char → Option (Raw × List Char)
  | 0, _ => none
  | fuel + 1, text =>
    match skipSpace text with
    | 'n' :: 'u' :: 'l' :: 'l' :: rest => some (.null, rest)
    | 't' :: 'r' :: 'u' :: 'e' :: rest => some (.bool true, rest)
    | 'f' :: 'a' :: 'l' :: 's' :: 'e' :: rest => some (.bool false, rest)
    | '"' :: rest => (readText rest).map fun (text, rest) => (.text text, rest)
    | '[' :: rest =>
      match skipSpace rest with
      | ']' :: rest => some (.array [], rest)
      | rest => (readItems fuel rest).map fun (items, rest) => (.array items, rest)
    | '{' :: rest =>
      match skipSpace rest with
      | '}' :: rest => some (.object [], rest)
      | rest => (readMembers fuel rest).map fun (members, rest) => (.object members, rest)
    | text => (literal? text).map fun (literal, rest) => (.number literal, rest)

/-- Items up to the closing bracket, one at least. -/
def readItems : (fuel : Nat) → List Char → Option (List Raw × List Char)
  | 0, _ => none
  | fuel + 1, text =>
    match readValue fuel text with
    | none => none
    | some (item, rest) =>
      match skipSpace rest with
      | ']' :: rest => some ([item], rest)
      | ',' :: rest => (readItems fuel rest).map fun (items, rest) => (item :: items, rest)
      | _ => none

/-- Members up to the closing brace, one at least. -/
def readMembers : (fuel : Nat) → List Char → Option (List (Option String × Raw) × List Char)
  | 0, _ => none
  | fuel + 1, text =>
    match skipSpace text with
    | '"' :: rest =>
      match readText rest with
      | none => none
      | some (name, rest) =>
        match skipSpace rest with
        | ':' :: rest =>
          match readValue fuel rest with
          | none => none
          | some (value, rest) =>
            match skipSpace rest with
            | '}' :: rest => some ([(name, value)], rest)
            | ',' :: rest =>
              (readMembers fuel rest).map fun (members, rest) => ((name, value) :: members, rest)
            | _ => none
        | _ => none
    | _ => none

end

/-- The raw tree of a whole text. Every call that opens a bracket or passes a comma takes a character,
and another call follows it, so twice the length is depth enough. -/
def Raw.ofText? (text : String) : Option Raw :=
  match readValue (2 * text.toList.length + 2) text.toList with
  | some (raw, rest) => if skipSpace rest = [] then some raw else none
  | none => none

/-! ## Values of raw trees -/

/-- How many arrays and objects may stand inside each other. -/
def greatestDepth : Nat := 127

mutual

/-- The value of a raw tree in which so many arrays and objects may stand inside each other. -/
def Raw.value? : (depth : Nat) → Raw → Option Value
  | _, .null => some .null
  | _, .bool value => some (.bool value)
  | _, .number literal => literal.number?.map .number
  | _, .text value => value.map .text
  | 0, .array _ => none
  | 0, .object _ => none
  | depth + 1, .array items => (values? depth items).map .array
  | depth + 1, .object members => (memberValues? depth members []).map .object

def values? : (depth : Nat) → List Raw → Option (List Value)
  | _, [] => some []
  | depth, raw :: rest =>
    match Raw.value? depth raw, values? depth rest with
    | some value, some values => some (value :: values)
    | _, _ => none

/-- The values of members by name, added to the members before them; the last of a repeated name
stays. -/
def memberValues? : (depth : Nat) → List (Option String × Raw) → List (String × Value) →
    Option (List (String × Value))
  | _, [], before => some before
  | depth, (name, raw) :: rest, before =>
    match name, Raw.value? depth raw with
    | some name, some value => memberValues? depth rest (insertEntry name value before)
    | _, _ => none

end

def Value.ofText? (text : String) : Option Value := (Raw.ofText? text).bind (Raw.value? greatestDepth)

end StaticStyles.Json
