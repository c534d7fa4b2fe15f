import StaticStyles.Text.Printable

/-!
Numbers in base 16, and what is written with them: texts in quotes for messages, in which every character that could
be misread is escaped, and the rolling hash of a text.
-/
namespace StaticStyles.Text

/-- The digits of a number in base 16, in lower case. -/
def hexDigits (n : Nat) : List Char := Nat.toDigits 16 n

/-- The digits of a number in base 16, with zeros in front up to a width. -/
def hexPadded (width n : Nat) : List Char :=
  let digits := hexDigits n
  List.replicate (width - digits.length) '0' ++ digits

/-- One character inside quotes: short escapes first, then marks and all that has no shape of its own
by code point. -/
def quoteChar (c : Char) : List Char :=
  match c with
  | '"' => ['\\', '"']
  | '\\' => ['\\', '\\']
  | '\n' => ['\\', 'n']
  | '\t' => ['\\', 't']
  | '\r' => ['\\', 'r']
  | '\x00' => ['\\', '0']
  | c =>
    if isAttaching c || !isPrintable c then ['\\', 'u', '{'] ++ hexDigits c.toNat ++ ['}'] else [c]

def quoted (text : String) : String :=
  String.ofList ('"' :: text.toList.flatMap quoteChar ++ ['"'])

example : quoted "a'\"\\" = "\"a'\\\"\\\\\"" := by decide +kernel
example : quoted "\x1b\u0301" = "\"\\u\x7b1b\x7d\\u\x7b301\x7d\"" := by decide +kernel

end StaticStyles.Text

/-! ## Hashes -/

namespace StaticStyles

/-- The hash of a text: times 31 plus the next code point, in 32-bit words. -/
def rollingHash (text : List Char) : UInt32 :=
  text.foldl (fun h c => h * 31 + c.val) 0

/-- The hash as eight digits. -/
def contentHash (text : String) : String :=
  String.ofList (Text.hexPadded 8 (rollingHash text.toList).toNat)

example : contentHash "a" = "00000061" := by decide +kernel

end StaticStyles
