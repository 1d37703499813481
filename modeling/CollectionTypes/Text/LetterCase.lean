import CollectionTypes.Text.CaseShifts

/-!
# Upper and lower case

The full case mappings of single characters: a character may become several, and the characters
around it have no say. Below U+0080 they are those of ASCII.

Specification: section 4.7 (capitalised and lower-cased words).
-/

namespace CollectionTypes.Text

/-- The code point is one of those that the shift maps. -/
def CaseShift.covers (shift : CaseShift) (codePoint : Nat) : Bool :=
  shift.first ≤ codePoint && codePoint ≤ shift.last &&
    (codePoint - shift.first) % shift.step == 0

def CaseShift.apply (shift : CaseShift) (codePoint : Nat) : Char :=
  Char.ofNat (codePoint + shift.distance).toNat

/-- The mapped form of a character from U+0080 on; one without an entry stays as it is. -/
def mapCase (shifts : List CaseShift) (sequences : List (Nat × List Nat)) (c : Char) : List Char :=
  match sequences.lookup c.toNat with
  | some form => form.map Char.ofNat
  | none =>
      match shifts.find? (·.covers c.toNat) with
      | some shift => [shift.apply c.toNat]
      | none => [c]

/-- The characters that upper case makes of one character. -/
def toUpper (c : Char) : List Char :=
  if c.toNat < 0x80 then [c.toUpper] else mapCase upperShifts upperSequences c

/-- The characters that lower case makes of one character. -/
def toLower (c : Char) : List Char :=
  if c.toNat < 0x80 then [c.toLower] else mapCase lowerShifts lowerSequences c

end CollectionTypes.Text
