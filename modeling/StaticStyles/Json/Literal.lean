import StaticStyles.Number.Notation

/-!
Number literals of JSON and the values they name. A literal without fraction and exponent that fits a
64-bit word is a whole number; every other one is a double, read from at most the digits that fit an
unsigned word.
-/
namespace StaticStyles.Json

/-- A number as written: digits before and after the point, and the power of ten. It is plain if neither a point nor
an exponent is written. -/
structure Literal where
  negative : Bool
  whole : List Char
  fraction : List Char
  power : Int
  plain : Bool
deriving DecidableEq, Repr

/-- The value of a number: a whole one, or a stored double. -/
inductive Number where
  | whole (value : Int)
  | double (bits : UInt64)
deriving DecidableEq, Repr

def wordMax : Nat := 0xFFFFFFFFFFFFFFFF

def digitValue (c : Char) : Nat := c.toNat - '0'.toNat

/-- A significand with as many of the digits appended as fit a word, and the digits left over. -/
def takeDigits (significand : Nat) : List Char → Nat × List Char
  | [] => (significand, [])
  | c :: rest =>
    let next := significand * 10 + digitValue c
    if next ≤ wordMax then takeDigits next rest else (significand, c :: rest)

def powerOfTen (n : Nat) : Binary64 := Binary64.ofNat (Nat.pow 10 n)

/-- Greatest power of ten that is a finite double. -/
def greatestPower : Nat := 308

/-- A double divided by a power of ten, in steps that stay finite. -/
def scaleDown (x : Binary64) (n : Nat) : Binary64 :=
  if n ≤ greatestPower then x.div (powerOfTen n)
  else if n ≤ 2 * greatestPower then
    (x.div (powerOfTen greatestPower)).div (powerOfTen (n - greatestPower))
  else .zero

/-- A significand times a power of ten; none if that is infinite. -/
def scale? (significand : Nat) (power : Int) : Option Binary64 :=
  let x := Binary64.ofNat significand
  if power < 0 then some (scaleDown x power.natAbs)
  else if significand = 0 then some .zero
  else if power.natAbs ≤ greatestPower then
    let y := x.mul (powerOfTen power.natAbs)
    if y.isFinite then some y else none
  else none

/-- The magnitude of a literal as a double; none if it is infinite. -/
def Literal.magnitude? (l : Literal) : Option Binary64 :=
  let (w, left) := takeDigits 0 l.whole
  let (significand, rest) := takeDigits w l.fraction
  let taken := l.fraction.length - rest.length
  scale? significand (l.power + left.length - taken)

/-- The value of a literal; none if it is infinite. -/
def Literal.number? (l : Literal) : Option Number :=
  let double := l.magnitude?.map fun x => Number.double (x.toBits l.negative)
  if l.plain then
    match takeDigits 0 l.whole with
    | (n, []) =>
      if !l.negative then some (.whole n)
      else if n = 0 || n > Binary64.signBit then double
      else some (.whole (-n))
    | _ => double
  else double

def Number.text : Number → List Char
  | .whole value => (toString value).toList
  | .double bits => Binary64.bitsText bits

end StaticStyles.Json
