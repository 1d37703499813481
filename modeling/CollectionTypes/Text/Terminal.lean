/-!
# Text for a terminal

A text may hold sequences that control a terminal instead of showing on it. Here they are taken out:
the text that remains is the one that would show, with its tabs and line breaks. A tab or a line
break inside of a sequence shows, and so does what stands behind it, up to the next control
character; only then the sequence goes on.
-/

namespace CollectionTypes.Text.Terminal

/-- What the characters before one have begun. -/
inductive Mode where
  | ground
  | escape
  | shortSequence
  | controlSequence
  | systemCommand
  | deviceStart
  | deviceParameters
  | deviceMarks
  | controlString
  deriving DecidableEq, Repr

def isLayout (c : Char) : Bool :=
  c = '\t' || c = '\n' || c = '\x0c' || c = '\r'

def isVisible (c : Char) : Bool :=
  isLayout c || (' ' ≤ c && c ≤ '~') || '\u0080' ≤ c

/-- What the character behind the escape character begins. One that begins nothing is a sequence of
its own. -/
def Mode.ofIntroducer (c : Char) : Mode :=
  if c = '[' then .controlSequence
  else if c = ']' then .systemCommand
  else if c = 'P' then .deviceStart
  else if c = 'X' || c = '^' || c = '_' then .controlString
  else if ' ' ≤ c && c ≤ '/' then .shortSequence
  else if '0' ≤ c && c ≤ '~' then .ground
  else .escape

/-- What follows on a character in the parameters of a device. A sign that does not belong where it
stands begins the string at once. -/
def Mode.ofParameter (mode : Mode) (c : Char) : Mode :=
  if '@' ≤ c && c ≤ '~' then .controlString
  else if ' ' ≤ c && c ≤ '/' then .deviceMarks
  else if '0' ≤ c && c ≤ ';' then
    if mode = .deviceMarks then .controlString else .deviceParameters
  else if '<' ≤ c && c ≤ '?' then
    if mode = .deviceStart then .deviceParameters else .controlString
  else mode

/-- The end of a control string is the byte 9C, wherever it occurs. -/
def endsString (c : Char) : Bool :=
  (String.utf8EncodeChar c).contains 0x9C

/-- What follows on a character inside of a sequence. -/
def Mode.next (mode : Mode) (c : Char) : Mode :=
  match mode with
  | .ground => .ground
  | .escape => .ofIntroducer c
  | .shortSequence => if '0' ≤ c && c ≤ '~' then .ground else mode
  | .controlSequence => if '@' ≤ c && c ≤ '~' then .ground else mode
  | .systemCommand => if c = '\x07' then .ground else mode
  | .deviceStart | .deviceParameters | .deviceMarks => mode.ofParameter c
  | .controlString => if endsString c then .ground else mode

/-- Whether a tab or a line break shows inside of a sequence, or is a part of it. -/
def Mode.showsLayout : Mode → Bool
  | .ground | .escape | .shortSequence | .controlSequence => true
  | .systemCommand | .deviceStart | .deviceParameters | .deviceMarks | .controlString => false

/-- The characters that show, from those behind `mode` on; `showing` tells that the one before
showed. A character beyond ASCII that shows ends the sequence. -/
def shownFrom (mode : Mode) (showing : Bool) : List Char → List Char
  | [] => []
  | c :: rest =>
      if c = '\x1b' then shownFrom .escape false rest
      else if c = '\x18' || c = '\x1a' then shownFrom .ground false rest
      else if showing || mode = .ground then
        if '\u0080' ≤ c then c :: shownFrom .ground true rest
        else if isVisible c then c :: shownFrom mode true rest
        else shownFrom mode false rest
      else if mode.showsLayout && isLayout c then c :: shownFrom mode true rest
      else shownFrom (mode.next c) false rest

/-- The text without the sequences that control a terminal. -/
def plain (text : String) : String :=
  String.ofList (shownFrom .ground false text.toList)

end CollectionTypes.Text.Terminal
