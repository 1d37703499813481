import CollectionTypes.Text.AlphanumericRanges
import CollectionTypes.Text.CodePointRanges
import CollectionTypes.Text.NumberRanges

/-!
# Letters and digits

Letters and digits of every script. Below U+0080 they are those of ASCII.

Specification: section 4.7 (which characters pascal case keeps).
-/

namespace CollectionTypes.Text

/-- A letter or a digit of any script. -/
def isAlphanumeric (c : Char) : Bool :=
  if c.toNat < 0x80 then c.isAlphanum else inRanges alphanumericRanges c.toNat

def isNumber (c : Char) : Bool :=
  if c.toNat < 0x80 then c.isDigit else inRanges numberRanges c.toNat

/-- Letters are what is left without the numbers. -/
def isLetter (c : Char) : Bool :=
  isAlphanumeric c && !isNumber c

/-- The tables begin behind ASCII. -/
theorem isAlphanumeric_of_ascii {c : Char} (h : c.toNat < 0x80) :
    isAlphanumeric c = c.isAlphanum := by
  simp [isAlphanumeric, h]

end CollectionTypes.Text
