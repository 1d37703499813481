/-!
# Binary64 numbers

Finite numbers of 53 significant bits, with their rounding done in exact arithmetic on naturals.
Infinities and NaN are not represented: an operation that leaves the finite range is seen by
`isFinite`, and whoever reads a number refuses it there.

Specification: section 4.0 (`maxSelect` may be any number).
-/

namespace CollectionTypes

/-- The number `± mantissa · 2 ^ exponent`. Rounding gives either 53 significant bits or the least
exponent. -/
structure Binary64 where
  negative : Bool
  mantissa : Nat
  exponent : Int
  deriving DecidableEq, Repr

namespace Binary64

def leastExponent : Int := -1074

def greatestExponent : Int := 971

/-- The first of the 53 bits, which is set unless the exponent is the least one: 2 ^ 52. -/
def leadingBit : Nat := 0x10000000000000

/-- Where a mantissa would need a 54th bit: 2 ^ 53. -/
def mantissaBound : Nat := 0x20000000000000

/-- The fraction `num / den · 2 ^ (-e)`, again as numerator and denominator. -/
def shiftedFraction (num den : Nat) (e : Int) : Nat × Nat :=
  if e < 0 then (num <<< e.natAbs, den) else (num, den <<< e.natAbs)

/-- The quotient rounded to the nearest natural number, a half to the even one. -/
def nearestQuotient (num den : Nat) : Nat :=
  let quotient := num / den
  let remainder := num % den
  if 2 * remainder < den then quotient
  else if den < 2 * remainder then quotient + 1
  else quotient + quotient % 2

/-- The exponent of the last bit kept of `num / den`: the logarithms fix the quotient to 52 or 53
bits, and one comparison decides which. -/
def lastBitExponent (num den : Nat) : Int :=
  let guess : Int := (num.log2 : Int) - (den.log2 : Int) - 52
  let (n, d) := shiftedFraction num den guess
  max (if n / d < leadingBit then guess - 1 else guess) leastExponent

/-- The number nearest to `num / den`, a tie to the even mantissa. -/
def nearest (negative : Bool) (num den : Nat) : Binary64 :=
  if num = 0 then ⟨negative, 0, leastExponent⟩
  else
    let e := lastBitExponent num den
    let (n, d) := shiftedFraction num den e
    let mantissa := nearestQuotient n d
    if mantissa = mantissaBound then ⟨negative, leadingBit, e + 1⟩ else ⟨negative, mantissa, e⟩

def isFinite (x : Binary64) : Bool :=
  x.exponent ≤ greatestExponent

def isZero (x : Binary64) : Bool :=
  x.mantissa == 0

/-- The two zeros are one value. -/
def sameValue (x y : Binary64) : Bool :=
  (x.isZero && y.isZero) || x == y

/-- The magnitude as numerator and denominator. -/
def magnitude (x : Binary64) : Nat × Nat :=
  if x.exponent < 0 then (x.mantissa, 1 <<< x.exponent.natAbs)
  else (x.mantissa <<< x.exponent.natAbs, 1)

def ofNat (n : Nat) : Binary64 :=
  nearest false n 1

def neg (x : Binary64) : Binary64 :=
  { x with negative := !x.negative }

def mul (x y : Binary64) : Binary64 :=
  let (xn, xd) := x.magnitude
  let (yn, yd) := y.magnitude
  nearest (x.negative != y.negative) (xn * yn) (xd * yd)

/-- The quotient by a number other than zero. -/
def div (x y : Binary64) : Binary64 :=
  let (xn, xd) := x.magnitude
  let (yn, yd) := y.magnitude
  nearest (x.negative != y.negative) (xn * yd) (xd * yn)

/-- The greatest power of ten that is finite. -/
def greatestTenPower : Nat := 308

def tenPower (k : Nat) : Binary64 :=
  ofNat (Nat.pow 10 k)

/-- Division by `10 ^ k` in steps of the greatest power of ten, each step rounded. -/
def divTenPower (x : Binary64) (k : Nat) : Binary64 :=
  if k ≤ greatestTenPower then x.div (tenPower k)
  else if x.isZero then x
  else divTenPower (x.div (tenPower greatestTenPower)) (k - greatestTenPower)
termination_by k
decreasing_by simp only [greatestTenPower] at *; omega

/-- Reads `coefficient · 10 ^ exponent`: the coefficient is rounded, then scaled, so the result can
differ from the nearest number in its last bit. Nothing is read where the finite range ends. -/
def ofDecimal? (coefficient : Nat) (exponent : Int) : Option Binary64 :=
  let x := ofNat coefficient
  if exponent < 0 then some (x.divTenPower exponent.natAbs)
  else if exponent.natAbs ≤ greatestTenPower then
    let scaled := x.mul (tenPower exponent.natAbs)
    if scaled.isFinite then some scaled else none
  else if x.isZero then some x else none

end Binary64

end CollectionTypes
