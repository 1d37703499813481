import CollectionTypes.Json.Value
import CollectionTypes.Text.Display

/-!
# Faults of a document

Why reading a document stopped and where. The place is kept as the number of bytes that were left
unread; line and column are counted on the document when a message is written.

Specification: section 4.0 (malformed documents).
-/

namespace CollectionTypes.Json

/-- What stood where a value of another kind was due. -/
inductive Found where
  | null
  | bool (value : Bool)
  | number (value : Number)
  | text (value : String)
  | list
  | object
  deriving DecidableEq, Repr

inductive Cause where
  | unclosedList
  | unclosedObject
  | unclosedString
  | missingValue
  | expectedColon
  | expectedListEnd
  | expectedObjectEnd
  | expectedKeyword
  | expectedValue
  | invalidEscape
  | invalidNumber
  | numberOutOfRange
  | controlCharacter
  | keyNotText
  | loneSurrogate
  | unpairedSurrogate
  | trailingComma
  | trailingText
  | tooDeep
  | unexpected (found : Found) (expected : String)
  | missingMember (key : String)
  | repeatedMember (key : String)
  | tooFewElements (count : Nat) (shape : String) (size : Nat)
  deriving DecidableEq, Repr

structure Fault where
  cause : Cause
  unread : Nat
  deriving DecidableEq, Repr

def quotedByTicks (s : String) : String :=
  "`" ++ s ++ "`"

def Found.describe : Found → String
  | .null => "null"
  | .bool value => "boolean " ++ quotedByTicks (if value then "true" else "false")
  | .number (.integer value) => "integer " ++ quotedByTicks (toString value)
  | .number (.double value) => "floating point " ++ quotedByTicks value.text
  | .text value => "string " ++ Text.display value
  | .list => "sequence"
  | .object => "map"

def Cause.message : Cause → String
  | .unclosedList => "EOF while parsing a list"
  | .unclosedObject => "EOF while parsing an object"
  | .unclosedString => "EOF while parsing a string"
  | .missingValue => "EOF while parsing a value"
  | .expectedColon => "expected `:`"
  | .expectedListEnd => "expected `,` or `]`"
  | .expectedObjectEnd => "expected `,` or `\x7d`"
  | .expectedKeyword => "expected ident"
  | .expectedValue => "expected value"
  | .invalidEscape => "invalid escape"
  | .invalidNumber => "invalid number"
  | .numberOutOfRange => "number out of range"
  | .controlCharacter =>
      "control character (\\u0000-\\u001F) found while parsing a string"
  | .keyNotText => "key must be a string"
  | .loneSurrogate => "lone leading surrogate in hex escape"
  | .unpairedSurrogate => "unexpected end of hex escape"
  | .trailingComma => "trailing comma"
  | .trailingText => "trailing characters"
  | .tooDeep => "recursion limit exceeded"
  | .unexpected found expected =>
      "invalid type: " ++ found.describe ++ ", expected " ++ expected
  | .missingMember key => "missing field " ++ quotedByTicks key
  | .repeatedMember key => "duplicate field " ++ quotedByTicks key
  | .tooFewElements count shape size =>
      "invalid length " ++ toString count ++ ", expected struct " ++ shape ++ " with " ++
        toString size ++ " elements"

/-- A place in a document: the line from one, and the bytes of it that come before. -/
structure Position where
  line : Nat
  column : Nat
  deriving DecidableEq, Repr

namespace Position

/-- Goes on from a position over `byteCount` bytes of the text; the end may cut a character. -/
def after : List Char → Nat → Position → Position
  | [], _, p => p
  | c :: rest, byteCount, p =>
      if byteCount = 0 then p
      else if c = '\n' then after rest (byteCount - 1) ⟨p.line + 1, 0⟩
      else after rest (byteCount - c.utf8Size) ⟨p.line, p.column + min byteCount c.utf8Size⟩

/-- The position after the first `byteCount` bytes of a document. -/
def ofByteCount (document : String) (byteCount : Nat) : Position :=
  after document.toList byteCount ⟨1, 0⟩

end Position

/-- The message of a cause with its place. -/
def Cause.messageAt (cause : Cause) (position : Position) : String :=
  cause.message ++ " at line " ++ toString position.line ++ " column " ++
    toString position.column

namespace Fault

def position (fault : Fault) (document : String) : Position :=
  .ofByteCount document (document.utf8ByteSize - fault.unread)

end Fault

end CollectionTypes.Json
