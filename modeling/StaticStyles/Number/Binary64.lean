/-!
Doubles without sign as exact dyadic numbers. Arithmetic is that of the rationals, rounded once to the
nearest double, a tie going to the even mantissa.
-/
namespace StaticStyles

/-- A finite double without sign, `mantissa · 2 ^ exponent`. The mantissa has at most 53 bits, and it
has all of them unless the exponent is the least one, `-1074`. -/
structure Binary64 where
  mantissa : Nat
  exponent : Int
deriving DecidableEq, Repr

namespace Binary64

def leastExponent : Int := -1074

/-- The greatest exponent of a finite double. -/
def greatestExponent : Int := 971

/-- The least mantissa of 53 bits. -/
def leastNormal : Nat := 1 <<< 52

/-- The bit of a stored double that holds its sign. -/
def signBit : Nat := 1 <<< 63

def zero : Binary64 := ⟨0, leastExponent⟩

/-- The numerator over the denominator. -/
def num (x : Binary64) : Nat := x.mantissa <<< x.exponent.toNat

/-- The denominator under the numerator, a power of two. -/
def den (x : Binary64) : Nat := 1 <<< (-x.exponent).toNat

/-- The nearest whole number to a quotient, a tie going to the even one. -/
def roundQuotient (num den : Nat) : Nat :=
  let q := num / den
  let twice := 2 * (num % den)
  if twice > den || (twice = den && q % 2 = 1) then q + 1 else q

/-- The greatest exponent at which a quotient still has a mantissa of 53 bits, or the least one. -/
def exponentOf (num den : Nat) : Int :=
  let low : Int := (num.log2 : Int) - (den.log2 : Int) - 53
  let fits (e : Int) : Bool := num <<< (-e).toNat < 2 * leastNormal * (den <<< e.toNat)
  let exponent := if fits low then low else low + 1
  if exponent < leastExponent then leastExponent else exponent

/-- The double nearest to a quotient, without a bound on its exponent. -/
def nearest (num den : Nat) : Binary64 :=
  if num = 0 then zero
  else
    let e := exponentOf num den
    let m := roundQuotient (num <<< (-e).toNat) (den <<< e.toNat)
    if m = 2 * leastNormal then ⟨leastNormal, e + 1⟩ else ⟨m, e⟩

def ofNat (n : Nat) : Binary64 := nearest n 1

def mul (x y : Binary64) : Binary64 := nearest (x.num * y.num) (x.den * y.den)

/-- The rounded quotient; the divisor is not zero. -/
def div (x y : Binary64) : Binary64 := nearest (x.num * y.den) (x.den * y.num)

/-- The nearest whole number, a half going up. -/
def round (x : Binary64) : Binary64 := ofNat ((2 * x.num + x.den) / (2 * x.den))

/-- Whether the number is below the least infinite one. -/
def isFinite (x : Binary64) : Bool := x.exponent ≤ greatestExponent

/-- The word that stores the number, with a sign. -/
def toBits (negative : Bool) (x : Binary64) : UInt64 :=
  let stored :=
    if x.mantissa < leastNormal then x.mantissa
    else (x.exponent + 1075).toNat * leastNormal + (x.mantissa - leastNormal)
  UInt64.ofNat ((if negative then signBit else 0) + stored)

def isNegative (bits : UInt64) : Bool := bits.toNat ≥ signBit

/-- The magnitude of a stored finite number. -/
def ofBits (bits : UInt64) : Binary64 :=
  let fraction : Nat := bits.toNat % leastNormal
  let biased : Nat := bits.toNat / leastNormal % 2048
  if biased = 0 then ⟨fraction, leastExponent⟩
  else ⟨leastNormal + fraction, (biased : Int) - 1075⟩

example : toBits false (nearest 1 10) = 0x3FB999999999999A := by decide +kernel
example : toBits false ((nearest 1 3).mul (ofNat 100)) = 0x4040AAAAAAAAAAAA := by decide +kernel

/-! ## Percentages, every operation rounded -/

/-- A part of a whole in percent, as it is stored; of nothing, it is zero. -/
def percent (part whole : Nat) : UInt64 :=
  if whole = 0 then toBits false zero
  else toBits false (((ofNat part).div (ofNat whole)).mul (ofNat 100))

/-- A change of a whole in percent with two decimal places, as it is stored; of nothing, it is zero. -/
def percentRounded (change : Int) (whole : Nat) : UInt64 :=
  if whole = 0 then toBits false zero
  else
    let places := (((ofNat change.natAbs).div (ofNat whole)).mul (ofNat 10000)).round
    toBits (change < 0) (places.div (ofNat 100))

example : percent 1 3 = 0x4040AAAAAAAAAAAA := by decide +kernel

end Binary64
end StaticStyles
