import StaticStyles.Json.Value
import StaticStyles.Text.Hex

/-!
JSON text of values: on one line without blanks, or indented by two blanks a level.
-/
namespace StaticStyles.Json

/-- One character of a text value: quotes, backslashes and control characters are escaped. -/
def escapeChar (c : Char) : List Char :=
  match c with
  | '"' => ['\\', '"']
  | '\\' => ['\\', '\\']
  | '\x08' => ['\\', 'b']
  | '\t' => ['\\', 't']
  | '\n' => ['\\', 'n']
  | '\x0C' => ['\\', 'f']
  | '\r' => ['\\', 'r']
  | c => if c < ' ' then ['\\', 'u'] ++ Text.hexPadded 4 c.toNat else [c]

def writeText (text : String) : List Char := '"' :: text.toList.flatMap escapeChar ++ ['"']

mutual

/-- A value on one line. -/
def write : Value → List Char
  | .null => ['n', 'u', 'l', 'l']
  | .bool true => ['t', 'r', 'u', 'e']
  | .bool false => ['f', 'a', 'l', 's', 'e']
  | .number n => n.text
  | .text t => writeText t
  | .array items => '[' :: writeItems items ++ [']']
  | .object members => '{' :: writeMembers members ++ ['}']

def writeItems : List Value → List Char
  | [] => []
  | [item] => write item
  | item :: rest => write item ++ ',' :: writeItems rest

def writeMembers : List (String × Value) → List Char
  | [] => []
  | [(name, value)] => writeText name ++ ':' :: write value
  | (name, value) :: rest => writeText name ++ ':' :: write value ++ ',' :: writeMembers rest

end

/-- The text of a value on one line. -/
def Value.compact (value : Value) : String := String.ofList (write value)

/-- A line break and the indentation of a level. -/
def newline (level : Nat) : List Char := '\n' :: List.replicate (2 * level) ' '

/-- The members of an object that are written already, indented at a level; no member, no line. -/
def indentMembers (level : Nat) (members : List (String × List Char)) : List Char :=
  if members.isEmpty then ['{', '}']
  else
    let lines := members.map fun (name, value) =>
      newline (level + 1) ++ writeText name ++ [':', ' '] ++ value
    '{' :: [','].intercalate lines ++ newline level ++ ['}']

/-- A map of texts, indented at a level. -/
def indentMap (level : Nat) (map : SortedMap String) : List Char :=
  indentMembers level (map.entries.map fun (key, value) => (key, writeText value))

/-- A map of maps of texts, indented at a level. -/
def indentMaps (level : Nat) (maps : SortedMap (SortedMap String)) : List Char :=
  indentMembers level (maps.entries.map fun (key, map) => (key, indentMap (level + 1) map))

end StaticStyles.Json
