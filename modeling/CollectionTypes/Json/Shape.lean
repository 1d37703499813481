import CollectionTypes.Json.Skipped

/-!
# Records in documents

A record is written as an object, where its members may stand in any order and unknown members are
passed over, or as a list, where they stand in the order of the shape. A shape states this once for
both forms: the members, each with its reader, and the record with every member at its default.

Specification: section 4.0 (unknown keys, missing required keys).
-/

namespace CollectionTypes.Json

/-- A member of a record; `read` reads its value and gives the change to the record. -/
structure Member (ρ : Type) where
  key : String
  required : Bool
  read : Reader (ρ → ρ)

structure Shape (ρ : Type) where
  name : String
  empty : ρ
  members : List (Member ρ)

namespace Member

variable {ρ α : Type}

/-- A member that has to be there. -/
def needed (key : String) (value : Reader α) (set : α → ρ → ρ) : Member ρ :=
  ⟨key, true, set <$> value⟩

/-- A member that keeps its default where it is missing. -/
def free (key : String) (value : Reader α) (set : α → ρ → ρ) : Member ρ :=
  ⟨key, false, set <$> value⟩

end Member

/-- A record under construction, with the keys that were read so far. -/
structure Partly (ρ : Type) where
  record : ρ
  keys : List String

namespace Reader

variable {ρ : Type}

/-- A fault of an object as a whole lies behind its closing bracket, if that is next. -/
def stopBehindObject (cause : Cause) : Reader ρ := do
  if (← nextSolid?) = some '\x7d' then skip
  stopHere cause

/-- Reads a member behind its key. -/
def knownMember (shape : Shape ρ) (soFar : Partly ρ) (key : String) : Reader (Partly ρ) := do
  match shape.members.find? (·.key == key) with
  | none => do
      colon
      skipValue
      pure soFar
  | some member =>
      if soFar.keys.contains key then stopBehindObject (.repeatedMember key)
      else do
        colon
        let change ← member.read
        pure ⟨change soFar.record, key :: soFar.keys⟩

def objectRecord (shape : Shape ρ) : Reader ρ := do
  let read ← object (knownMember shape) ⟨shape.empty, []⟩
  match shape.members.find? fun member => member.required && !read.keys.contains member.key with
  | some member => stopHere (.missingMember member.key)
  | none => pure read.record

/-- The end of a list behind the last member. -/
def listEnd : Reader Unit := do
  match ← nextSolid? with
  | none => stopAfterNext .unclosedList
  | some c =>
      if c = ']' then skip
      else if c = ',' then do
        skip
        if (← nextSolid?) = some ']' then stopAfterNext .trailingComma
        else stopAfterNext .trailingText
      else stopAfterNext .trailingText

/-- Reads the members in order. `count` of them were read before; where the list ends early, the
others have to do without. -/
def listMembers (shape : Shape ρ) : Nat → List (Member ρ) → ρ → Reader ρ
  | _, [], record => do
      listEnd
      pure record
  | count, member :: more, record => do
      if ← element? (count = 0) then do
        let change ← member.read
        listMembers shape (count + 1) more (change record)
      else do
        skip
        match (member :: more).findIdx? (·.required) with
        | some missing =>
            stopHere (.tooFewElements (count + missing) shape.name shape.members.length)
        | none => pure record

def listRecord (shape : Shape ρ) : Reader ρ := do
  skip
  listMembers shape 0 shape.members shape.empty

/-- Reads a record in either form. -/
def record (shape : Shape ρ) : Reader ρ :=
  valueBy ("struct " ++ shape.name) fun c =>
    if c = '[' then some (listRecord shape)
    else if c = '\x7b' then some (objectRecord shape)
    else none

end Reader

end CollectionTypes.Json
