import CollectionTypes.Number.Binary64

/-!
# Shortest decimals

The decimal of fewest digits that rounds to a given binary number; of two such decimals the nearer
one, and of two equally near the one with the even last digit. All comparisons are exact.
-/

namespace CollectionTypes

/-- The number `coefficient · 10 ^ exponent`. -/
structure Decimal where
  coefficient : Nat
  exponent : Int
  deriving DecidableEq, Repr

namespace Decimal

/-- `coefficient · 10 ^ exponent` as numerator and denominator. -/
def fraction (d : Decimal) : Nat × Nat :=
  let power := Nat.pow 10 d.exponent.natAbs
  if d.exponent < 0 then (d.coefficient, power) else (d.coefficient * power, 1)

/-- How many digits the coefficient has. -/
def digitCount (d : Decimal) : Nat :=
  (Nat.toDigits 10 d.coefficient).length

end Decimal

namespace Binary64

/-- `count · 2 ^ (exponent - 2)`, a quarter of the last bit being the unit, as numerator and
denominator. -/
def quarters (count : Nat) (exponent : Int) : Nat × Nat :=
  let e := exponent - 2
  if e < 0 then (count, 1 <<< e.natAbs) else (count <<< e.natAbs, 1)

/-- Whether a decimal rounds to the magnitude of `x`. The bounds are half way to the neighbours; the
lower neighbour is nearer where the mantissa is a power of two, and the bounds themselves round to
`x` when its mantissa is even. -/
def isReadFrom (x : Binary64) (d : Decimal) : Bool :=
  let (n, k) := d.fraction
  let below := if x.mantissa == leadingBit && x.exponent > leastExponent then 1 else 2
  let (low, lowDen) := quarters (4 * x.mantissa - below) x.exponent
  let (high, highDen) := quarters (4 * x.mantissa + 2) x.exponent
  if x.mantissa % 2 = 0 then low * k ≤ n * lowDen && n * highDen ≤ high * k
  else low * k < n * lowDen && n * highDen < high * k

/-- A power of ten by which every magnitude other than zero becomes greater than one. -/
def decimalRoom : Nat := 330

/-- The decimal exponent of the leading digit. -/
def leadingExponent (x : Binary64) : Int :=
  let (num, den) := x.magnitude
  let scaled := num * Nat.pow 10 decimalRoom / den
  ((Nat.toDigits 10 scaled).length : Int) - 1 - decimalRoom

/-- The decimal of `digits` digits that rounds to `x`: one of the two neighbours of `x` on that
grid. -/
def decimalOf? (x : Binary64) (digits : Nat) : Option Decimal :=
  let exponent := x.leadingExponent + 1 - digits
  let (num, den) := x.magnitude
  let (unit, unitDen) := Decimal.fraction ⟨1, exponent⟩
  let floor := num * unitDen / (den * unit)
  let lower : Decimal := ⟨floor, exponent⟩
  let upper : Decimal := ⟨floor + 1, exponent⟩
  match x.isReadFrom lower, x.isReadFrom upper with
  | true, false => some lower
  | false, true => some upper
  | false, false => none
  | true, true =>
      let twice := 2 * (num * unitDen)
      let middle := (2 * floor + 1) * (den * unit)
      if twice < middle then some lower
      else if middle < twice then some upper
      else if floor % 2 = 0 then some lower else some upper

/-- Seventeen digits tell any two numbers apart, so one of the grids has a decimal that rounds to
`x`. -/
def shortest (x : Binary64) : Decimal :=
  ((List.range 17).findSome? fun n => x.decimalOf? (n + 1)).getD ⟨0, 0⟩

/-- Exponents of the leading digit from which on a number is written as a power of ten. -/
def plainBelow : Int := 16

/-- The least exponent of the leading digit that is written with leading zeros. -/
def plainFrom : Int := -5

/-- A magnitude from its digits and the exponent of the leading one: a point always, at least one
digit on either side of it, or else the leading digit and a signed power of ten. -/
def layOut (digits : List Char) (exponent : Int) : List Char :=
  if plainFrom ≤ exponent && exponent < plainBelow then
    if exponent < 0 then
      '0' :: '.' :: (List.replicate (exponent.natAbs - 1) '0' ++ digits)
    else
      let whole := exponent.natAbs + 1
      let rest := digits.drop whole
      digits.take whole ++ List.replicate (whole - digits.length) '0' ++
        '.' :: (if rest.isEmpty then ['0'] else rest)
  else
    let rest := digits.drop 1
    digits.take 1 ++ (if rest.isEmpty then [] else '.' :: rest) ++
      'e' :: (if exponent < 0 then '-' else '+') :: Nat.toDigits 10 exponent.natAbs

/-- The digits without the zeros at the end, which carry only the exponent. -/
def significantDigits (d : Decimal) : List Char :=
  ((Nat.toDigits 10 d.coefficient).reverse.dropWhile (· == '0')).reverse

/-- The text of a number, as numbers are written in documents and messages. -/
def text (x : Binary64) : String :=
  let magnitude :=
    if x.isZero then ['0', '.', '0']
    else
      let d := x.shortest
      layOut (significantDigits d) (d.exponent + d.digitCount - 1)
  String.ofList (if x.negative then '-' :: magnitude else magnitude)

end Binary64

end CollectionTypes
