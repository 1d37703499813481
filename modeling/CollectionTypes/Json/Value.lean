import CollectionTypes.Number.Shortest
import CollectionTypes.Text.ByteOrder

/-!
# JSON values

Values of any shape, and their compact text. An object keeps its members in the byte order of their
keys and holds each key once.

Specification: section 3 (options of collections, kept as opaque values).
-/

namespace CollectionTypes.Json

/-- A number as it was written: without fraction and exponent and within 64 bits, or not. -/
inductive Number where
  | integer (value : Int)
  | double (value : Binary64)
  deriving DecidableEq, Repr

inductive Value where
  | null
  | bool (value : Bool)
  | number (value : Number)
  | text (value : String)
  | list (elements : List Value)
  | object (members : List (String × Value))

namespace Number

def sameValue : Number → Number → Bool
  | .integer a, .integer b => a == b
  | .double a, .double b => a.sameValue b
  | _, _ => false

/-- The nearest binary64 number. -/
def toBinary64 : Number → Binary64
  | .integer value => .nearest (value < 0) value.natAbs 1
  | .double value => value

def compact : Number → String
  | .integer value => toString value
  | .double value => value.text

end Number

/-- Puts a member at its place; a member of the same key gives way. -/
def putMember (key : String) (value : α) : List (String × α) → List (String × α)
  | [] => [(key, value)]
  | (k, v) :: rest =>
      if k = key then (key, value) :: rest
      else if Text.atOrBefore key k then (key, value) :: (k, v) :: rest
      else (k, v) :: putMember key value rest

namespace Value

mutual

def same : Value → Value → Bool
  | .null, .null => true
  | .bool a, .bool b => a == b
  | .number a, .number b => a.sameValue b
  | .text a, .text b => a == b
  | .list a, .list b => sameElements a b
  | .object a, .object b => sameMembers a b
  | _, _ => false

def sameElements : List Value → List Value → Bool
  | [], [] => true
  | a :: as, b :: bs => same a b && sameElements as bs
  | _, _ => false

def sameMembers : List (String × Value) → List (String × Value) → Bool
  | [], [] => true
  | (k, a) :: as, (l, b) :: bs => k == l && same a b && sameMembers as bs
  | _, _ => false

end

/-- Values are compared as numbers and texts are, so the two zeros are equal. -/
instance : BEq Value := ⟨same⟩

end Value

def hexDigit (n : Nat) : Char :=
  Nat.digitChar (n % 16)

/-- The escape of a character below U+0020, `"` or `\`; other characters stand for themselves. -/
def escapeChar (c : Char) : List Char :=
  if c = '"' then ['\\', '"']
  else if c = '\\' then ['\\', '\\']
  else if c = '\x08' then ['\\', 'b']
  else if c = '\x0c' then ['\\', 'f']
  else if c = '\n' then ['\\', 'n']
  else if c = '\r' then ['\\', 'r']
  else if c = '\t' then ['\\', 't']
  else if c.toNat < 0x20 then ['\\', 'u', '0', '0', hexDigit (c.toNat / 16), hexDigit c.toNat]
  else [c]

def quoted (s : String) : String :=
  String.ofList ('"' :: s.toList.flatMap escapeChar ++ ['"'])

namespace Value

mutual

/-- The text of a value without blanks. -/
def compact : Value → String
  | .null => "null"
  | .bool value => if value then "true" else "false"
  | .number value => value.compact
  | .text value => quoted value
  | .list elements => "[" ++ ",".intercalate (compactElements elements) ++ "]"
  | .object members => "\x7b" ++ ",".intercalate (compactMembers members) ++ "\x7d"

def compactElements : List Value → List String
  | [] => []
  | v :: rest => compact v :: compactElements rest

def compactMembers : List (String × Value) → List String
  | [] => []
  | (k, v) :: rest => (quoted k ++ ":" ++ compact v) :: compactMembers rest

end

end Value

end CollectionTypes.Json
