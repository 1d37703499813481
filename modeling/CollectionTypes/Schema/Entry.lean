import CollectionTypes.Json.AnyValue
import CollectionTypes.Json.Shape
import CollectionTypes.Schema.Collection

/-!
# Entries of a document

What a document says about collections and fields, before field types are told apart. The options of
all field types share one record.

Specification: section 4.0 (schema document parser: the keys of entries, `maxSelect`).
-/

namespace CollectionTypes

open Json (Shape Member Reader Value)

/-- The options of a field. Each kind of field uses some of them. -/
structure FieldOptions where
  limit : SelectionLimit
  values : Option (List String)
  target : Option String
  deriving DecidableEq, Repr

/-- A field as it is written, its type still a text. -/
structure FieldEntry where
  id : String
  name : String
  type : String
  system : Bool
  required : Bool
  unique : Bool
  options : FieldOptions
  deriving DecidableEq, Repr

/-- A collection as it is written, its type still a text. -/
structure CollectionEntry where
  id : String
  name : String
  type : String
  system : Bool
  rules : AccessRules
  schema : Option (List FieldEntry)
  options : Option Value

/-- The greatest limit that is kept: 2 ^ 32 - 1. -/
def greatestLimit : Nat := 0xFFFFFFFF

/-- A limit may be written as any number. It counts upwards from one, rounded up; all below one is
zero, which means neither one nor many. -/
def selectionCount (x : Binary64) : UInt32 :=
  let (num, den) := x.magnitude
  if x.negative || num < den then 0
  else UInt32.ofNat (min ((num + den - 1) / den) greatestLimit)

namespace FieldOptions

def empty : FieldOptions := ⟨none, none, none⟩

def shape : Shape FieldOptions where
  name := "RawFieldOptions"
  empty := empty
  members := [
    .free "maxSelect" (.optional .doubleValue) fun limit o =>
      { o with limit := limit.map selectionCount },
    .free "values" (.optional (.listValue .textValue)) fun values o => { o with values },
    .free "collectionId" (.optional .textValue) fun target o => { o with target }]

end FieldOptions

namespace FieldEntry

def empty : FieldEntry := ⟨"", "", "", false, false, false, .empty⟩

def shape : Shape FieldEntry where
  name := "RawField"
  empty := empty
  members := [
    .free "id" .textValue fun id f => { f with id },
    .needed "name" .textValue fun name f => { f with name },
    .needed "type" .textValue fun type f => { f with type },
    .free "system" .boolValue fun system f => { f with system },
    .free "required" .boolValue fun required f => { f with required },
    .free "unique" .boolValue fun unique f => { f with unique },
    .free "options" (.record FieldOptions.shape) fun options f => { f with options }]

end FieldEntry

namespace CollectionEntry

/-- The type of a collection that states none. -/
def defaultType : String := "base"

def empty : CollectionEntry := ⟨"", "", defaultType, false, .none, none, none⟩

/-- Brackets may be nested 127 deep in a document; the list of collections and the collection are
two of them. -/
def optionsDepth : Nat := 125

/-- The access rules are members of the collection itself. -/
def rule (key : String) (set : Option String → AccessRules → AccessRules) :
    Member CollectionEntry :=
  .free key (.optional .textValue) fun value c => { c with rules := set value c.rules }

def shape : Shape CollectionEntry where
  name := "RawCollection"
  empty := empty
  members := [
    .needed "id" .textValue fun id c => { c with id },
    .needed "name" .textValue fun name c => { c with name },
    .free "type" .textValue fun type c => { c with type },
    .free "system" .boolValue fun system c => { c with system },
    rule "listRule" fun list r => { r with list },
    rule "viewRule" fun view r => { r with view },
    rule "createRule" fun create r => { r with create },
    rule "updateRule" fun update r => { r with update },
    rule "deleteRule" fun delete r => { r with delete },
    .free "schema" (.optional (.listValue (.record FieldEntry.shape)))
      fun schema c => { c with schema },
    .free "options" (.optional (.anyValue optionsDepth)) fun options c => { c with options }]

end CollectionEntry

end CollectionTypes
