import CollectionTypes.Json.Expected

/-!
# Values that are passed over

The value of an unknown member is checked for its form and not kept. Brackets that are open are kept
as a list, so there is no limit to their depth.
-/

namespace CollectionTypes.Json

inductive Bracket where
  | list
  | object
  deriving DecidableEq, Repr

namespace Bracket

def closing : Bracket → Char
  | .list => ']'
  | .object => '\x7d'

def unclosed : Bracket → Cause
  | .list => .unclosedList
  | .object => .unclosedObject

def expectedEnd : Bracket → Cause
  | .list => .expectedListEnd
  | .object => .expectedObjectEnd

end Bracket

namespace Reader

/-- What stands before a value within a bracket: a key and a colon in an object. -/
def skipEntry : Bracket → Reader Unit
  | .list => pure ()
  | .object => do
      match ← nextSolid? with
      | none => stopAfterNext .unclosedObject
      | some c =>
          if c = '"' then do
            skipText
            colon
          else stopAfterNext .keyNotText

/-- Passes over closing brackets up to the next value. `behindValue` tells whether a value stands
before, so that a comma may follow. -/
def unwind : Bool → List Bracket → Reader (Turn (List Bracket) Unit)
  | _, [] => pure (.done ())
  | behindValue, bracket :: outer => do
      match ← nextSolid? with
      | none => stopAfterNext bracket.unclosed
      | some c =>
          if c = bracket.closing then do
            skip
            unwind true outer
          else if behindValue then
            if c = ',' then do
              skip
              skipEntry bracket
              pure (.again (bracket :: outer))
            else stopAfterNext bracket.expectedEnd
          else do
            skipEntry bracket
            pure (.again (bracket :: outer))

/-- Passes over the start of a value: all of a scalar, or an opening bracket. -/
def skipTurn (brackets : List Bracket) : Reader (Turn (List Bracket) Unit) := do
  match ← nextSolid? with
  | none => stopAfterNext .missingValue
  | some c =>
      if c = '[' then do
        skip
        unwind false (.list :: brackets)
      else if c = '\x7b' then do
        skip
        unwind false (.object :: brackets)
      else do
        if c = 'n' then keyword "ull"
        else if c = 't' then keyword "rue"
        else if c = 'f' then keyword "alse"
        else if c = '-' || c.isDigit then skipNumber
        else if c = '"' then skipText
        else stopAfterNext .expectedValue
        unwind true brackets

def skipValue : Reader Unit :=
  repeated skipTurn []

end Reader

end CollectionTypes.Json
