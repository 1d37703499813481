/-!
# String literals and property keys

A property key is written bare where the name is an identifier and no reserved word, and as a
double-quoted literal otherwise.

Specification: sections 4.7 (naming utilities: field names) and 4.3 (escapes of option values).
-/

namespace CollectionTypes.TypeScript

/-- Letters, digits and `_`, of ASCII only. -/
def isWordChar (c : Char) : Bool :=
  c.isAlphanum || c = '_'

def isIdentifierStart (c : Char) : Bool :=
  c.isAlpha || c = '_' || c = '$'

def isIdentifierPart (c : Char) : Bool :=
  isWordChar c || c = '$'

/-- Identifiers of ASCII characters only. -/
def isPlainIdentifier (s : String) : Bool :=
  match s.toList with
  | [] => false
  | first :: rest => isIdentifierStart first && rest.all isIdentifierPart

def reservedWords : List String :=
  ["break", "case", "catch", "class", "const", "continue", "debugger", "default", "delete", "do",
   "else", "enum", "export", "extends", "false", "finally", "for", "function", "if", "import",
   "in", "instanceof", "new", "null", "return", "super", "switch", "this", "throw", "true", "try",
   "typeof", "var", "void", "while", "with"]

/-- How a character stands in a literal: one that would end the literal or its line, and the tab,
is escaped. -/
def literalChar (c : Char) : List Char :=
  if c = '"' then ['\\', '"']
  else if c = '\\' then ['\\', '\\']
  else if c = '\n' then ['\\', 'n']
  else if c = '\r' then ['\\', 'r']
  else if c = '\t' then ['\\', 't']
  else [c]

def literal (s : String) : String :=
  String.ofList ('"' :: (s.toList.flatMap literalChar ++ ['"']))

def propertyKey (name : String) : String :=
  if isPlainIdentifier name && !reservedWords.contains name then name else literal name

end CollectionTypes.TypeScript
