import CollectionTypes.Text.WhiteSpace

/-!
# Flags of patterns

How a pattern is read from a place on: whether letters match in both cases, whether it is about
characters or about bytes, and whether white space and comments stand between its parts.
-/

namespace CollectionTypes.Text.Pattern

structure Flags where
  ignoreCase : Bool
  unicode : Bool
  ignoreSpace : Bool
  deriving DecidableEq, Repr

/-- Without white space and comments, which run from `#` to the end of the line. -/
def skipSpace (inComment : Bool) : List Char → List Char
  | [] => []
  | c :: rest =>
      if inComment then skipSpace (c ≠ '\n') rest
      else if isWhiteSpace c then skipSpace false rest
      else if c = '#' then skipSpace true rest
      else c :: rest

namespace Flags

def start : Flags := ⟨false, true, false⟩

/-- The letters of flags; those that are no members of `Flags` do not change what can be read. -/
def letters : List Char := ['i', 'm', 's', 'U', 'u', 'R', 'x']

def set (on : Bool) (flags : Flags) (letter : Char) : Flags :=
  match letter with
  | 'i' => { flags with ignoreCase := on }
  | 'u' => { flags with unicode := on }
  | 'x' => { flags with ignoreSpace := on }
  | _ => flags

/-- Turns on the flags in front of a dash and turns off those behind it. Each may be named once, and
nothing else may; a dash has to have flags behind it. -/
def change? (flags : Flags) (text : List Char) : Option Flags :=
  if text.all (fun c => letters.contains c || c = '-') && decide text.Nodup &&
      text.getLast? ≠ some '-' then
    let turnedOn := (text.takeWhile (· ≠ '-')).foldl (set true) flags
    some ((text.dropWhile (· ≠ '-')).foldl (set false) turnedOn)
  else none

/-- The text from the next part of the pattern on. -/
def next (flags : Flags) (text : List Char) : List Char :=
  if flags.ignoreSpace then skipSpace false text else text

/-- The character that a dash in a class is judged by. A comment is looked into for it, and where
nothing but white space is left, that counts. -/
def ahead? (flags : Flags) (text : List Char) : Option Char :=
  if flags.ignoreSpace then
    let marks := match text.dropWhile isWhiteSpace with
      | '#' :: rest => rest.dropWhile isWhiteSpace
      | marks => marks
    marks.head? <|> text.head?
  else text.head?

end Flags

end CollectionTypes.Text.Pattern
