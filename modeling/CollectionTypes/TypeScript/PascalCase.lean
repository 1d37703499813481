import CollectionTypes.Text.Alphanumeric
import CollectionTypes.Text.LetterCase

/-!
# Pascal case

Names of declarations are made from the words of a name, a word being a run of letters and digits.
A name that is one word keeps the case of its inner letters; of several words each is put in lower
case behind its first character.

Specification: section 4.7 (naming utilities: pascal case, names of option enums).
-/

namespace CollectionTypes.TypeScript

/-- The words of a text in order. None of them is empty. -/
def words (text : List Char) : List (List Char) :=
  (text.splitOnP fun c => !Text.isAlphanumeric c).filter fun word => !word.isEmpty

/-- The first character in upper case, the others changed one by one. -/
def capitalize (others : Char → List Char) : List Char → List Char
  | [] => []
  | first :: rest => Text.toUpper first ++ rest.flatMap others

def pascalChars (text : List Char) : List Char :=
  if text.all Text.isAlphanumeric then capitalize (fun c => [c]) text
  else (words text).flatMap (capitalize Text.toLower)

def pascalCase (name : String) : String :=
  String.ofList (pascalChars name.toList)

/-- The type of the records of a collection. -/
def recordTypeName (collection : String) : String :=
  pascalCase collection ++ "Record"

/-- The type of the responses for a collection. -/
def responseTypeName (collection : String) : String :=
  pascalCase collection ++ "Response"

/-- The enum of the options of a select field. -/
def optionEnumName (collection field : String) : String :=
  pascalCase collection ++ pascalCase field ++ "Options"

end CollectionTypes.TypeScript
