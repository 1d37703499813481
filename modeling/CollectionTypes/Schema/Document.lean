import CollectionTypes.Files.Failure
import CollectionTypes.Schema.Entry

/-!
# Documents

A document is a JSON list of collections. All of it is read before the type of any field is looked
at, so a fault anywhere in the text comes before an unknown field type.

Specification: sections 4.0 (schema document parser) and 7 (its errors).
-/

namespace CollectionTypes

open Json (Cause Fault Position Reader)

/-- Why a document gave no collections. -/
inductive DocumentError where
  | malformed (cause : Cause) (position : Position)
  | unknownType (type field : String)
  | unreadable (failure : FileFailure)
  deriving DecidableEq, Repr

namespace DocumentError

/-- The description without what kind of error it is. -/
def detail : DocumentError → String
  | .malformed cause position => cause.messageAt position
  | .unknownType type field =>
      "unknown type '" ++ type ++ "' found in schema for field '" ++ field ++ "'"
  | .unreadable failure => failure.message

def message : DocumentError → String
  | .malformed cause position => "JSON parsing error: " ++ detail (.malformed cause position)
  | .unknownType type field => detail (.unknownType type field)
  | .unreadable failure => "IO error: " ++ detail (.unreadable failure)

end DocumentError

namespace FieldKind

/-- The kind of a field by its type; options that the kind does not use are left aside. A relation
that names no collection has an empty target. -/
def ofType? (type : String) (options : FieldOptions) : Option FieldKind :=
  match type with
  | "text" => some .text
  | "number" => some .number
  | "bool" => some .bool
  | "email" => some .email
  | "url" => some .url
  | "date" => some .date
  | "json" => some .json
  | "select" => some (.select options.values options.limit)
  | "file" => some (.file options.limit)
  | "relation" => some (.relation (options.target.getD "") options.limit)
  | "user" => some (.user options.limit)
  | _ => none

end FieldKind

def Field.ofEntry (entry : FieldEntry) : Except DocumentError Field :=
  match FieldKind.ofType? entry.type entry.options with
  | some kind =>
      .ok ⟨entry.id, entry.name, kind, entry.system, entry.required, entry.unique⟩
  | none => .error (.unknownType entry.type entry.name)

namespace Collection

def schemaOfEntry (schema : Option (List FieldEntry)) :
    Except DocumentError (Option (List Field)) :=
  match schema with
  | none => .ok none
  | some entries => some <$> entries.mapM Field.ofEntry

def ofEntry (entry : CollectionEntry) : Except DocumentError Collection := do
  let schema ← schemaOfEntry entry.schema
  return {
    id := entry.id
    name := entry.name
    kind := .ofType entry.type
    system := entry.system
    rules := entry.rules
    schema
    options := entry.options }

end Collection

namespace Document

/-- The list of collections, and nothing but blanks behind it. -/
def entriesReader : Reader (List CollectionEntry) := do
  let entries ← Reader.listValue (Reader.record CollectionEntry.shape)
  match ← Reader.nextSolid? with
  | none => pure entries
  | some _ => Reader.stopAfterNext .trailingText

def entries (document : String) : Except Fault (List CollectionEntry) :=
  (·.1) <$> entriesReader document.toList

def collections (document : String) : Except DocumentError (List Collection) :=
  match entries document with
  | .ok entries => entries.mapM Collection.ofEntry
  | .error fault => .error (.malformed fault.cause (fault.position document))

/-- The collections of a document that was read as bytes. -/
def collectionsOfContent (content : Except FileFailure ByteArray) :
    Except DocumentError (List Collection) :=
  match content with
  | .error failure => .error (.unreadable failure)
  | .ok bytes =>
      match String.fromUTF8? bytes with
      | none => .error (.unreadable .notText)
      | some document => collections document

end Document

end CollectionTypes
