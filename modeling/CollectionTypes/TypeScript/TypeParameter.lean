import CollectionTypes.Schema.Collection
import CollectionTypes.TypeScript.Literal

/-!
# Type parameters

Each json field of a collection has a type parameter, so that users can say what the field holds.
A parameter's name is an escaped form of the field's name, which keeps different fields apart.

Specification: section 4.2 (generic-parameter resolver).
-/

namespace CollectionTypes.TypeScript

/-- `$` is written twice, and a character outside identifiers as its code point between two `$`. -/
def parameterChar (c : Char) : List Char :=
  if isWordChar c then [c]
  else if c = '$' then ['$', '$']
  else '$' :: (Nat.toDigits 16 c.toNat ++ ['$'])

def parameterName (field : String) : String :=
  String.ofList ('T' :: field.toList.flatMap parameterChar)

/-- The parameters of a collection with the given fields, in the order of the fields. -/
def parametersOf (fields : List Field) : List String :=
  (fields.filter (·.isJson)).map fun field => parameterName field.name

/-- Items between angle brackets; nothing is written for none. -/
def angled (items : List String) : String :=
  if items.isEmpty then "" else "<" ++ ", ".intercalate items ++ ">"

/-- Where the parameters are introduced, nothing is known about what they stand for. -/
def parameterDeclaration (parameters : List String) : String :=
  angled (parameters.map (· ++ " = unknown"))

def parameterReference (parameters : List String) : String :=
  angled parameters

end CollectionTypes.TypeScript
