import CollectionTypes.Text.CodePointRanges
import CollectionTypes.Text.HiddenRanges

/-!
# Display of texts in messages

A text is displayed between double quotes. What does not show by itself is written as an escape,
so that a message tells any two texts apart.
-/

namespace CollectionTypes.Text

/-- The character does not show by itself. -/
def isHidden (c : Char) : Bool :=
  if c.toNat < 0x80 then c.toNat < 0x20 || c.toNat = 0x7F else inRanges hiddenRanges c.toNat

/-- Common controls have short escapes; other hidden characters are written by their code points. -/
def displayChar (c : Char) : List Char :=
  if c = '\x00' then ['\\', '0']
  else if c = '\t' then ['\\', 't']
  else if c = '\n' then ['\\', 'n']
  else if c = '\r' then ['\\', 'r']
  else if c = '"' then ['\\', '"']
  else if c = '\\' then ['\\', '\\']
  else if isHidden c then '\\' :: 'u' :: '{' :: (Nat.toDigits 16 c.toNat ++ ['}'])
  else [c]

/-- The text between double quotes, with escapes for what would not show. -/
def display (s : String) : String :=
  String.ofList ('"' :: s.toList.flatMap displayChar ++ ['"'])

end CollectionTypes.Text
