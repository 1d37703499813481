/-!
# Slices of texts by bytes

Pieces of a text between places that are counted in bytes of UTF-8. A place inside of a character
cuts nothing.
-/

namespace CollectionTypes.Text

/-- The text from a place on. -/
def dropBytes? (count : Nat) : List Char → Option (List Char)
  | [] => if count = 0 then some [] else none
  | c :: rest =>
      if count = 0 then some (c :: rest)
      else if c.utf8Size ≤ count then dropBytes? (count - c.utf8Size) rest
      else none

/-- The text up to a place. -/
def takeBytes? (count : Nat) : List Char → Option (List Char)
  | [] => if count = 0 then some [] else none
  | c :: rest =>
      if count = 0 then some []
      else if c.utf8Size ≤ count then (takeBytes? (count - c.utf8Size) rest).map (c :: ·)
      else none

def slice? (text : List Char) (start stop : Nat) : Option (List Char) := do
  takeBytes? (stop - start) (← dropBytes? start text)

/-- Each character with the place at which it starts, from a first place on. -/
def withPlaces (place : Nat) : List Char → List (Nat × Char)
  | [] => []
  | c :: rest => (place, c) :: withPlaces (place + c.utf8Size) rest

end CollectionTypes.Text
