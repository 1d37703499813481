import CollectionTypes.Json.Reader

/-!
# Numerals

A number as it is written: sign, whole digits, and perhaps a fraction and an exponent. A numeral of
whole digits that fits in 64 bits is an integer; any other is a binary64 number, read from as many
leading digits as fit in 64 bits.
-/

namespace CollectionTypes.Json

structure Exponent where
  negative : Bool
  digits : List Nat
  deriving DecidableEq, Repr

structure Numeral where
  negative : Bool
  whole : List Nat
  fraction : Option (List Nat)
  exponent : Option Exponent
  deriving DecidableEq, Repr

/-- One more than the greatest coefficient: 2 ^ 64. -/
def coefficientBound : Nat := 0x10000000000000000

/-- The greatest magnitude of a negative integer: 2 ^ 63. -/
def negativeBound : Nat := 0x8000000000000000

/-- The bound that the digits of an exponent have to stay below: 2 ^ 31. -/
def exponentBound : Nat := 0x80000000

/-- Appends digits to a number as long as it stays below a bound; also the digits left over. -/
def appendDigits (bound : Nat) : Nat → List Nat → Nat × List Nat
  | n, [] => (n, [])
  | n, d :: rest =>
      if n * 10 + d < bound then appendDigits bound (n * 10 + d) rest else (n, d :: rest)

namespace Numeral

/-- The coefficient and the power of ten of the digits before the exponent. Whole digits that no
longer fit count as powers of ten, digits of the fraction that no longer fit do not count. -/
def coefficient (n : Numeral) : Nat × Int :=
  let (whole, wholeLeft) := appendDigits coefficientBound 0 n.whole
  let fraction := n.fraction.getD []
  let (both, fractionLeft) := appendDigits coefficientBound whole fraction
  (both, (wholeLeft.length : Int) - ((fraction.length - fractionLeft.length : Nat) : Int))

/-- The integer of whole digits that fit in 64 bits, the sign included. There is no negative zero
among the integers. -/
def integer? (n : Numeral) : Option Int :=
  match n.fraction, n.exponent, appendDigits coefficientBound 0 n.whole with
  | none, none, (value, []) =>
      if n.negative then
        if value = 0 || value > negativeBound then none else some (-value)
      else some value
  | _, _, _ => none

/-- The digits of the exponent behind the one that made it too large, if one did. -/
def exponentExcess? (n : Numeral) : Option (List Nat) :=
  match n.exponent with
  | none => none
  | some exponent =>
      match (appendDigits exponentBound 0 exponent.digits).2 with
      | [] => none
      | _ :: rest => some rest

def exponentValue (n : Numeral) : Int :=
  match n.exponent with
  | none => 0
  | some exponent =>
      let value := (appendDigits exponentBound 0 exponent.digits).1
      if exponent.negative then -value else value

/-- The number that a numeral stands for. Out of range, the result is the number of characters of
the numeral that were not looked at any more. -/
def value (n : Numeral) : Except Nat Number :=
  match n.integer? with
  | some value => .ok (.integer value)
  | none =>
      let signed (x : Binary64) : Number := .double (if n.negative then x.neg else x)
      let (coefficient, exponent) := n.coefficient
      match n.exponentExcess? with
      | some rest =>
          if coefficient ≠ 0 && !(n.exponent.any (·.negative)) then .error rest.length
          else .ok (signed (.ofNat 0))
      | none =>
          match Binary64.ofDecimal? coefficient (exponent + n.exponentValue) with
          | some x => .ok (signed x)
          | none => .error 0

end Numeral

def digitValue (c : Char) : Nat :=
  c.toNat - '0'.toNat

namespace Reader

def digits : Reader (List Nat) := do
  let characters ← takeWhile Char.isDigit
  pure (characters.map digitValue)

/-- The whole digits: a zero stands alone. `cause` is what the end of the document gives where a
digit is due. -/
def wholeDigits (cause : Cause) : Reader (List Nat) := do
  match ← next? with
  | none => stopHere cause
  | some c =>
      if c = '0' then do
        skip
        match ← next? with
        | some d => if d.isDigit then stopAfterNext .invalidNumber else pure [0]
        | none => pure [0]
      else if c.isDigit then digits
      else stopAfterNext .invalidNumber

/-- The digits behind the point, at least one. -/
def fractionDigits (cause : Cause) : Reader (List Nat) := do
  match ← next? with
  | none => stopHere cause
  | some c => if c.isDigit then digits else stopAfterNext .invalidNumber

/-- An exponent behind its letter. -/
def exponent (cause : Cause) : Reader Exponent := do
  let sign ← next?
  if sign = some '+' || sign = some '-' then skip
  let digits ← fractionDigits cause
  pure ⟨sign = some '-', digits⟩

/-- Reads a numeral. A document that ends within it gives `cause`. -/
def numeral (cause : Cause) : Reader Numeral := do
  let sign ← next?
  if sign = some '-' then skip
  let whole ← wholeDigits cause
  let fraction ← match ← next? with
    | some '.' => do
        skip
        some <$> fractionDigits cause
    | _ => pure none
  let exponent ← match ← next? with
    | some 'e' | some 'E' => do
        skip
        some <$> exponent cause
    | _ => pure none
  pure ⟨sign = some '-', whole, fraction, exponent⟩

/-- Stops at a place that was read already, `count` digits back. -/
def stopBefore (cause : Cause) (count : Nat) : Reader α := fun unread =>
  .error ⟨cause, byteCount unread + count⟩

def number : Reader Number := do
  match (← numeral .missingValue).value with
  | .ok value => pure value
  | .error count => stopBefore .numberOutOfRange count

def skipNumber : Reader Unit := do
  let _ ← numeral .invalidNumber

end Reader

end CollectionTypes.Json
