import StaticStyles.Number.Shortest

/-!
How doubles are written: positionally for decimal exponents from -5 to 15, with a point and at least
one digit after it, and otherwise with an exponent that carries its sign.
-/
namespace StaticStyles.Binary64

/-- Least decimal exponent of the leading digit that is written positionally. -/
def leastPositional : Int := -5

/-- Greatest decimal exponent of the leading digit that is written positionally. -/
def greatestPositional : Int := 15

/-- The digits of a decimal without zeros at the end, one digit at least. -/
def significant (d : Decimal) : List Char :=
  match ((Nat.toDigits 10 d.digits).reverse.dropWhile (· = '0')).reverse with
  | [] => ['0']
  | digits => digits

/-- Digits with a point after the first `whole` of them, filled up with zeros on both sides. -/
def positional (digits : List Char) (whole : Int) : List Char :=
  if whole ≤ 0 then ['0', '.'] ++ List.replicate (-whole).toNat '0' ++ digits
  else
    let n := whole.toNat
    let before := digits.take n
    let after := digits.drop n
    before ++ List.replicate (n - before.length) '0' ++ ['.'] ++ (if after = [] then ['0'] else after)

/-- Digits with a point after the first one, and the power of ten. -/
def scientific (digits : List Char) (power : Int) : List Char :=
  let point := match digits with
    | [] => []
    | [d] => [d]
    | d :: rest => d :: '.' :: rest
  point ++ ['e', if power < 0 then '-' else '+'] ++ Nat.toDigits 10 power.natAbs

/-- A double without sign as text. -/
def text (x : Binary64) : List Char :=
  if x.mantissa = 0 then ['0', '.', '0']
  else
    let d := shortest x
    let power := d.exponent + (digitCount d.digits : Int) - 1
    let digits := significant d
    if leastPositional ≤ power && power ≤ greatestPositional then positional digits (power + 1)
    else scientific digits power

/-- A stored double as text. -/
def bitsText (bits : UInt64) : List Char :=
  (if isNegative bits then ['-'] else []) ++ (ofBits bits).text

example : String.ofList (nearest 123456789 1000).text = "123456.789" := by decide +kernel
example : String.ofList (nearest 1 100000).text = "0.00001" := by decide +kernel
example : String.ofList (nearest 1000000000000000 1).text = "1000000000000000.0" := by decide +kernel
example : String.ofList (nearest 15000000000000000 1).text = "1.5e+16" := by decide +kernel

end StaticStyles.Binary64
