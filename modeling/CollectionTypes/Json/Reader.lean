import CollectionTypes.Json.Fault

/-!
# Readers of documents

A reader takes a value off the front of the unread text or stops with a fault. Loops are bounded by
the text that is unread when they start, since every repetition reads at least one character.
-/

namespace CollectionTypes.Json

abbrev Reader := StateT (List Char) (Except Fault)

/-- The number of bytes of a text. -/
def byteCount : List Char → Nat
  | [] => 0
  | c :: rest => c.utf8Size + byteCount rest

def isBlank (c : Char) : Bool :=
  c = ' ' || c = '\n' || c = '\t' || c = '\r'

namespace Reader

variable {α σ : Type}

/-- Stops at the present place. -/
def stopHere (cause : Cause) : Reader α := fun unread =>
  .error ⟨cause, byteCount unread⟩

/-- Stops after the next byte, or at the end of the document. -/
def stopAfterNext (cause : Cause) : Reader α := fun unread =>
  .error ⟨cause, byteCount unread - 1⟩

/-- The next character, which stays unread. -/
def next? : Reader (Option Char) := fun unread =>
  .ok (unread.head?, unread)

/-- The next character that is not blank; it stays unread, the blanks before it do not. -/
def nextSolid? : Reader (Option Char) := fun unread =>
  let rest := unread.dropWhile isBlank
  .ok (rest.head?, rest)

def skip : Reader Unit := fun unread =>
  .ok ((), unread.tail)

def takeWhile (p : Char → Bool) : Reader (List Char) := fun unread =>
  .ok (unread.takeWhile p, unread.dropWhile p)

/-- Reads the given characters one after the other. -/
def spelled : List Char → Reader Unit
  | [] => pure ()
  | expected :: more => do
      match ← next? with
      | none => stopHere .missingValue
      | some c => if c = expected then do skip; spelled more else stopAfterNext .expectedKeyword

/-- What a repetition answers: go on from a new state, or a result. -/
inductive Turn (σ α : Type) where
  | again (state : σ)
  | done (result : α)

def repeatWithin (turn : σ → Reader (Turn σ α)) : List Char → σ → Reader α
  | bound, state => do
      match ← turn state with
      | .done result => pure result
      | .again state =>
          match bound with
          | [] => stopHere .tooDeep
          | _ :: bound => repeatWithin turn bound state

/-- Repeats until a result is reached. The bound is never met when each repetition that goes on has
read a character. -/
def repeated (turn : σ → Reader (Turn σ α)) (state : σ) : Reader α := fun unread =>
  repeatWithin turn unread state unread

end Reader

end CollectionTypes.Json
