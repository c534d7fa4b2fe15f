import StaticStyles.Number.Binary64

/-!
The shortest decimal that reads back as a given double: fewest digits first, then the nearest of those.
-/
namespace StaticStyles.Binary64

/-- A positive decimal `digits · 10 ^ exponent`. -/
structure Decimal where
  digits : Nat
  exponent : Int
deriving DecidableEq, Repr

/-- An interval around a double, its ends and the double itself in quarters of the last place. It is closed if its
ends round to the double as well. -/
structure Interval where
  low : Nat
  value : Nat
  high : Nat
  closed : Bool

/-- The interval of rationals that round to a positive double. Its ends are half a place away, but
only a quarter below a power of two, where the places below are half as wide. -/
def interval (x : Binary64) : Interval where
  low := 4 * x.mantissa - (if x.mantissa = leastNormal && x.exponent > leastExponent then 1 else 2)
  value := 4 * x.mantissa
  high := 4 * x.mantissa + 2
  closed := x.mantissa % 2 = 0

def digitCount (n : Nat) : Nat := (Nat.toDigits 10 n).length

/-- Where a decimal lies among quarters of `2 ^ exponent`: both sides of the comparison over one
denominator. -/
def scaled (exponent : Int) (d : Decimal) (quarters : Nat) : Nat × Nat :=
  let ten := d.exponent
  let two := exponent - 2
  ((d.digits * Nat.pow 10 ten.toNat) <<< (-two).toNat, (quarters * Nat.pow 10 (-ten).toNat) <<< two.toNat)

/-- Whether a decimal reads back as the double of an interval. -/
def Interval.contains (i : Interval) (exponent : Int) (d : Decimal) : Bool :=
  let (a, low) := scaled exponent d i.low
  let (b, high) := scaled exponent d i.high
  if i.closed then low ≤ a && b ≤ high else low < a && b < high

/-- The distance of a decimal from the double, over a denominator that depends on the exponents
only. -/
def Interval.distance (i : Interval) (exponent : Int) (d : Decimal) : Nat :=
  let (a, v) := scaled exponent d i.value
  if a ≤ v then v - a else a - v

/-- The decimal power of the leading digit of a positive double: the greatest `p` with
`10 ^ p ≤ x`. -/
def leadingPower (x : Binary64) : Int :=
  if x.den ≤ x.num then (digitCount (x.num / x.den) : Int) - 1
  else
    let below : Nat := digitCount (x.den / x.num)
    if x.den ≤ x.num * Nat.pow 10 (below - 1) then -((below : Int) - 1) else -(below : Int)

/-- The decimals of so many digits on either side of a positive double. -/
def neighbours (x : Binary64) (places : Nat) : List Decimal :=
  let exponent := leadingPower x - ((places : Int) - 1)
  let digits := x.num * Nat.pow 10 (-exponent).toNat / (x.den * Nat.pow 10 exponent.toNat)
  [⟨digits, exponent⟩, ⟨digits + 1, exponent⟩]

/-- The nearer of the neighbours that read back; of two equally near, the one with the even last
digit. -/
def pick (x : Binary64) (candidates : List Decimal) : Option Decimal :=
  let i := interval x
  match candidates.filter (i.contains x.exponent ·) with
  | [] => none
  | [d] => some d
  | d :: e :: _ =>
    let (near, far) := (i.distance x.exponent d, i.distance x.exponent e)
    some (if near < far || (near = far && d.digits % 2 = 0) then d else e)

/-- The first length from `places` on, of `more` lengths, at which a neighbour reads back. -/
def shortestFrom (x : Binary64) (places : Nat) : (more : Nat) → Option Decimal
  | 0 => none
  | more + 1 => (pick x (neighbours x places)).orElse fun _ => shortestFrom x (places + 1) more

/-- The shortest decimal of a positive double; seventeen digits always suffice. -/
def shortest (x : Binary64) : Decimal := (shortestFrom x 1 17).getD ⟨0, 0⟩

example : shortest (nearest 3 10) = ⟨3, -1⟩ := by decide +kernel
example : shortest ⟨1, leastExponent⟩ = ⟨5, -324⟩ := by decide +kernel

end StaticStyles.Binary64
