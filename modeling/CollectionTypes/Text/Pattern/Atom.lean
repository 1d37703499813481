import CollectionTypes.Text.Pattern.Flags

/-!
# Atoms of patterns

The smallest parts of a pattern: characters, escapes for characters, for sets of them and for places
in a text. Of all characters beyond ASCII no sets and no cases are known, so an atom that asks for
them cannot be read. A pattern about bytes must not match a part of a character, so there a set must
not go beyond ASCII.
-/

namespace CollectionTypes.Text.Pattern

inductive Atom where
  /-- A character; `byte` tells that it was written as a code of two digits. -/
  | character (code : Nat) (byte : Bool)
  | any
  /-- Digits, spaces or letters of words, or all others. -/
  | set (negated : Bool)
  | place
  | wordEdge
  deriving DecidableEq, Repr

namespace Atom

def isReadable (flags : Flags) : Atom → Bool
  | .character code byte =>
      if flags.unicode then !flags.ignoreCase else !byte || code < 0x80
  | .any => flags.unicode
  | .set negated => !flags.unicode && !negated
  | .place => true
  | .wordEdge => !flags.unicode

/-- In a class no places can stand, and about bytes no characters beyond ASCII. -/
def isReadableInClass (flags : Flags) : Atom → Bool
  | .character code _ => if flags.unicode then !flags.ignoreCase else code < 0x80
  | .set negated => !flags.unicode && !negated
  | .any | .place | .wordEdge => false

end Atom

def isHexDigit (c : Char) : Bool :=
  c.isDigit || ('a' ≤ c.toLower && c.toLower ≤ 'f')

def hexValue (c : Char) : Nat :=
  if c.isDigit then c.toNat - '0'.toNat else c.toLower.toNat - 'a'.toNat + 10

/-- The number that so many hexadecimal digits continue, and the rest behind them. -/
def hexNumber? (flags : Flags) : Nat → Nat → List Char → Option (Nat × List Char)
  | 0, number, text => some (number, text)
  | count + 1, number, text =>
      match flags.next text with
      | [] => none
      | c :: rest =>
          if isHexDigit c then hexNumber? flags count (number * 16 + hexValue c) rest else none

/-- A character by its code of so many hexadecimal digits. -/
def hexEscape? (flags : Flags) (count : Nat) (text : List Char) : Option (Atom × List Char) := do
  let (code, rest) ← hexNumber? flags count 0 text
  if code.isValidChar then some (.character code (count == 2), rest) else none

/-- A character that stands for itself behind a backslash: every mark of ASCII but the two that
stand for the edges of words. -/
def isMark (c : Char) : Bool :=
  c.toNat < 0x80 && !c.isAlphanum && c ≠ '<' && c ≠ '>'

/-- What the text behind a backslash begins with, and the rest behind that. -/
def escape? (flags : Flags) : List Char → Option (Atom × List Char)
  | [] => none
  | 'd' :: rest | 's' :: rest | 'w' :: rest => some (.set false, rest)
  | 'D' :: rest | 'S' :: rest | 'W' :: rest => some (.set true, rest)
  | 'A' :: rest | 'z' :: rest => some (.place, rest)
  | 'b' :: rest | 'B' :: rest | '<' :: rest | '>' :: rest => some (.wordEdge, rest)
  | 'x' :: rest => hexEscape? flags 2 rest
  | 'u' :: rest => hexEscape? flags 4 rest
  | 'U' :: rest => hexEscape? flags 8 rest
  | 'a' :: rest => some (.character 0x07 false, rest)
  | 'f' :: rest => some (.character 0x0C false, rest)
  | 'n' :: rest => some (.character 0x0A false, rest)
  | 'r' :: rest => some (.character 0x0D false, rest)
  | 't' :: rest => some (.character 0x09 false, rest)
  | 'v' :: rest => some (.character 0x0B false, rest)
  | c :: rest => if isMark c then some (.character c.toNat false, rest) else none

end CollectionTypes.Text.Pattern
