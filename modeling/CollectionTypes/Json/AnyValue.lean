import CollectionTypes.Json.Expected

/-!
# Values of any kind

Reads a value as it stands. Brackets may be nested up to a given depth.
-/

namespace CollectionTypes.Json.Reader

/-- Reads a value; `container` reads one that opens with the given bracket. -/
def valueWith (container : Char → Reader Value) : Reader Value := do
  match ← nextSolid? with
  | none => stopAfterNext .missingValue
  | some c =>
      if c = 'n' then do
        keyword "ull"
        pure .null
      else if c = 't' then do
        keyword "rue"
        pure (.bool true)
      else if c = 'f' then do
        keyword "alse"
        pure (.bool false)
      else if c = '-' || c.isDigit then Value.number <$> number
      else if c = '"' then Value.text <$> text
      else if c = '[' || c = '\x7b' then container c
      else stopAfterNext .expectedValue

/-- Reads a member of an object behind its key; of equal keys the last one counts. -/
def putMemberValue (value : Reader Value) (members : List (String × Value)) (key : String) :
    Reader (List (String × Value)) := do
  colon
  let next ← value
  pure (putMember key next members)

/-- Reads a value with brackets nested at most `depth` deep. -/
def anyValue : Nat → Reader Value
  | 0 => valueWith fun _ => stopAfterNext .tooDeep
  | depth + 1 => valueWith fun c =>
      if c = '[' then Value.list <$> list (anyValue depth)
      else Value.object <$> object (putMemberValue (anyValue depth)) []

end CollectionTypes.Json.Reader
