import CollectionTypes.Json.Reader

/-!
# Texts between double quotes

Texts are read with their escapes undone, or skipped. Skipping checks the form of escapes only: it
accepts surrogates that stand alone, and it stops before a control character, not after it.
-/

namespace CollectionTypes.Json

/-- The character that a single letter after a backslash stands for. -/
def plainEscape? (c : Char) : Option Char :=
  if c = '"' then some '"'
  else if c = '\\' then some '\\'
  else if c = '/' then some '/'
  else if c = 'b' then some '\x08'
  else if c = 'f' then some '\x0c'
  else if c = 'n' then some '\n'
  else if c = 'r' then some '\r'
  else if c = 't' then some '\t'
  else none

def hexValue? (c : Char) : Option Nat :=
  if '0' ≤ c ∧ c ≤ '9' then some (c.toNat - '0'.toNat)
  else if 'a' ≤ c ∧ c ≤ 'f' then some (c.toNat - 'a'.toNat + 10)
  else if 'A' ≤ c ∧ c ≤ 'F' then some (c.toNat - 'A'.toNat + 10)
  else none

def isLeadingSurrogate (unit : Nat) : Bool :=
  0xD800 ≤ unit && unit ≤ 0xDBFF

def isTrailingSurrogate (unit : Nat) : Bool :=
  0xDC00 ≤ unit && unit ≤ 0xDFFF

/-- The code point of a surrogate pair. -/
def ofSurrogates (leading trailing : Nat) : Nat :=
  0x10000 + (leading - 0xD800) * 0x400 + (trailing - 0xDC00)

/-- Four hexadecimal digits as a number. -/
def hexFour? (a b c d : Char) : Option Nat := do
  let a ← hexValue? a
  let b ← hexValue? b
  let c ← hexValue? c
  let d ← hexValue? d
  return ((a * 16 + b) * 16 + c) * 16 + d

namespace Reader

/-- Four bytes are taken before their digits are looked at, even if they end within a character. -/
def stopAfterFour : Reader α := fun unread =>
  if byteCount unread < 4 then .error ⟨.unclosedString, 0⟩
  else .error ⟨.invalidEscape, byteCount unread - 4⟩

def hexFour : Reader Nat := fun unread =>
  match unread with
  | a :: b :: c :: d :: rest =>
      match hexFour? a b c d with
      | some unit => .ok (unit, rest)
      | none => stopAfterFour unread
  | _ => stopAfterFour unread

/-- Reads one character that a surrogate pair cannot do without. -/
def pairSign (sign : Char) : Reader Unit := do
  match ← next? with
  | none => stopHere .unclosedString
  | some c => if c = sign then skip else stopAfterNext .unpairedSurrogate

/-- The character of a `\u` escape, or of two that form a surrogate pair. -/
def unicodeEscape : Reader Char := do
  let unit ← hexFour
  if isTrailingSurrogate unit then stopHere .loneSurrogate
  else if isLeadingSurrogate unit then do
    pairSign '\\'
    pairSign 'u'
    let trailing ← hexFour
    if isTrailingSurrogate trailing then pure (Char.ofNat (ofSurrogates unit trailing))
    else stopHere .loneSurrogate
  else pure (Char.ofNat unit)

/-- What follows a backslash; `unicode` reads what follows `\u`. -/
def escape (plain : Char → α) (unicode : Reader α) : Reader α := do
  match ← next? with
  | none => stopHere .unclosedString
  | some c =>
      match plainEscape? c with
      | some character => do
          skip
          pure (plain character)
      | none =>
          if c = 'u' then do
            skip
            unicode
          else stopAfterNext .invalidEscape

def textTurn (read : List Char) : Reader (Turn (List Char) (List Char)) := do
  match ← next? with
  | none => stopHere .unclosedString
  | some c =>
      if c = '"' then do
        skip
        pure (.done read.reverse)
      else if c = '\\' then do
        skip
        let character ← escape id unicodeEscape
        pure (.again (character :: read))
      else if c.toNat < 0x20 then stopAfterNext .controlCharacter
      else do
        skip
        pure (.again (c :: read))

/-- Reads a text from its opening quote on. -/
def text : Reader String := do
  skip
  let characters ← repeated textTurn []
  pure (String.ofList characters)

def skipTextTurn (_ : Unit) : Reader (Turn Unit Unit) := do
  match ← next? with
  | none => stopHere .unclosedString
  | some c =>
      if c = '"' then do
        skip
        pure (.done ())
      else if c = '\\' then do
        skip
        escape (fun _ => ()) (do let _ ← hexFour; pure ())
        pure (.again ())
      else if c.toNat < 0x20 then stopHere .controlCharacter
      else do
        skip
        pure (.again ())

/-- Passes over a text from its opening quote on. -/
def skipText : Reader Unit := do
  skip
  repeated skipTextTurn ()

end Reader

end CollectionTypes.Json
