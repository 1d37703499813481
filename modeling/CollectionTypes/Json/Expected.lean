import CollectionTypes.Json.Numeral
import CollectionTypes.Json.Text

/-!
# Values of an expected kind

Readers that know what kind of value is due. A value of another kind is read as far as its own
faults can show, then refused with what was found and what was expected.
-/

namespace CollectionTypes.Json.Reader

variable {α σ : Type}

/-- Reads a keyword whose first letter is next. -/
def keyword (rest : String) : Reader Unit := do
  skip
  spelled rest.toList

/-- Refuses a value that starts with `c`. A list or an object is refused unread. -/
def refuse (expected : String) (c : Char) : Reader α := do
  if c = 'n' then do
    keyword "ull"
    stopHere (.unexpected .null expected)
  else if c = 't' then do
    keyword "rue"
    stopHere (.unexpected (.bool true) expected)
  else if c = 'f' then do
    keyword "alse"
    stopHere (.unexpected (.bool false) expected)
  else if c = '-' || c.isDigit then do
    let value ← number
    stopHere (.unexpected (.number value) expected)
  else if c = '"' then do
    let value ← text
    stopHere (.unexpected (.text value) expected)
  else if c = '[' then stopHere (.unexpected .list expected)
  else if c = '\x7b' then stopHere (.unexpected .object expected)
  else stopAfterNext .expectedValue

/-- Reads a value, given the reader for each first character that fits. -/
def valueBy (expected : String) (reader? : Char → Option (Reader α)) : Reader α := do
  match ← nextSolid? with
  | none => stopAfterNext .missingValue
  | some c =>
      match reader? c with
      | some reader => reader
      | none => refuse expected c

def textValue : Reader String :=
  valueBy "a string" fun c => if c = '"' then some text else none

def boolValue : Reader Bool :=
  valueBy "a boolean" fun c =>
    if c = 't' then some (do keyword "rue"; pure true)
    else if c = 'f' then some (do keyword "alse"; pure false)
    else none

def doubleValue : Reader Binary64 :=
  valueBy "f64" fun c =>
    if c = '-' || c.isDigit then some (Number.toBinary64 <$> number) else none

/-- A value that may be `null`. -/
def optional (value : Reader α) : Reader (Option α) := do
  match ← nextSolid? with
  | some 'n' => do
      keyword "ull"
      pure none
  | _ => some <$> value

/-- Whether another element follows; if so, the comma before it is read. -/
def element? (first : Bool) : Reader Bool := do
  match ← nextSolid? with
  | none => stopAfterNext .unclosedList
  | some c =>
      if c = ']' then pure false
      else if first then pure true
      else if c = ',' then do
        skip
        match ← nextSolid? with
        | none => stopAfterNext .missingValue
        | some c => if c = ']' then stopAfterNext .trailingComma else pure true
      else stopAfterNext .expectedListEnd

def elementTurn (value : Reader α) (read : List α) : Reader (Turn (List α) (List α)) := do
  if ← element? read.isEmpty then do
    let next ← value
    pure (.again (next :: read))
  else do
    skip
    pure (.done read.reverse)

/-- Reads a list from its opening bracket on. -/
def list (value : Reader α) : Reader (List α) := do
  skip
  repeated (elementTurn value) []

def listValue (value : Reader α) : Reader (List α) :=
  valueBy "a sequence" fun c => if c = '[' then some (list value) else none

/-- Whether another member follows; if so, everything before its key is read. -/
def key? (first : Bool) : Reader Bool := do
  match ← nextSolid? with
  | none => stopAfterNext .unclosedObject
  | some c =>
      if c = '\x7d' then pure false
      else if first then
        if c = '"' then pure true else stopAfterNext .keyNotText
      else if c = ',' then do
        skip
        match ← nextSolid? with
        | none => stopAfterNext .missingValue
        | some c =>
            if c = '"' then pure true
            else if c = '\x7d' then stopAfterNext .trailingComma
            else stopAfterNext .keyNotText
      else stopAfterNext .expectedObjectEnd

/-- The colon between a key and its value. -/
def colon : Reader Unit := do
  match ← nextSolid? with
  | none => stopAfterNext .unclosedObject
  | some c => if c = ':' then skip else stopAfterNext .expectedColon

def memberTurn (member : σ → String → Reader σ) (state : Bool × σ) :
    Reader (Turn (Bool × σ) σ) := do
  if ← key? state.1 then do
    let key ← text
    let next ← member state.2 key
    pure (.again (false, next))
  else do
    skip
    pure (.done state.2)

/-- Reads an object from its opening bracket on. `member` reads on behind a key. -/
def object (member : σ → String → Reader σ) (empty : σ) : Reader σ := do
  skip
  repeated (memberTurn member) (true, empty)

end CollectionTypes.Json.Reader
