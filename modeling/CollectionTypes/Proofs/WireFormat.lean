import CollectionTypes.Proofs.SelectionCounts
import CollectionTypes.Proofs.StoredValues
import CollectionTypes.Proofs.WrittenRecords
import CollectionTypes.Schema.Document

/-!
# The wire format

Collections as they are written in a document, with every member of every record and `null` for what
is absent. A document that is written so is read as the collections that it was written from.

Specification: section 4.0 (the form of exported collections).
-/

namespace CollectionTypes

open Json (Member Number Reader Reads Value Writes)

variable {α β : Type}

/-- What is absent is written as `null`. -/
def orNull (encode : α → Value) : Option α → Value
  | none => .null
  | some a => encode a

theorem reads_orNull_map {reader : Reader β} {encode : α → Value} {decode : α → β}
    (value : Option α) (each : ∀ a ∈ value, Reads reader (encode a) (decode a))
    (present : ∀ a ∈ value, encode a ≠ .null) :
    Reads (Reader.optional reader) (orNull encode value) (value.map decode) := by
  cases value with
  | none => exact .optional_null reader
  | some a => exact .optional_some (each a rfl) (present a rfl)

/-- A value that may be missing is written as itself or as `null`. -/
theorem reads_orNull {reader : Reader α} {encode : α → Value} (value : Option α)
    (each : ∀ a ∈ value, Reads reader (encode a) a) (present : ∀ a ∈ value, encode a ≠ .null) :
    Reads (Reader.optional reader) (orNull encode value) value := by
  have read : Reads (Reader.optional reader) (orNull encode value) (value.map id) :=
    reads_orNull_map value each present
  rwa [Option.map_id_apply] at read

theorem reads_optionalText (text : Option String) :
    Reads (Reader.optional Reader.textValue) (orNull .text text) text :=
  reads_orNull text (fun s _ => .textValue s) fun _ _ => Value.noConfusion

namespace FieldOptions

def written (options : FieldOptions) : Value :=
  .object [
    ("maxSelect", orNull (fun n : UInt32 => .number (.integer n.toNat)) options.limit),
    ("values", orNull (fun values => .list (values.map .text)) options.values),
    ("collectionId", orNull .text options.target)]

/-- A limit is written as a whole number and read as a binary one. -/
theorem reads_limit (limit : SelectionLimit) :
    Reads (Reader.optional Reader.doubleValue)
      (orNull (fun n : UInt32 => .number (.integer n.toNat)) limit)
      (limit.map fun n => (Number.integer n.toNat).toBinary64) := by
  refine reads_orNull_map limit (fun n _ => .doubleValue ?_) fun _ _ => Value.noConfusion
  have fits : n.toNat < 2 ^ 32 := n.toNat_lt
  exact show -(2 ^ 63 : Int) ≤ n.toNat ∧ (n.toNat : Int) < 2 ^ 64 by omega

theorem reads_values (values : Option (List String)) :
    Reads (Reader.optional (Reader.listValue Reader.textValue))
      (orNull (fun values => .list (values.map .text)) values) values :=
  reads_orNull values (fun texts _ => .listValue texts fun s _ => .textValue s)
    fun _ _ => Value.noConfusion

/-- Counting gives a limit back, since it is a whole number below 2 ^ 32. -/
theorem map_selectionCount (limit : SelectionLimit) :
    (limit.map fun n => (Number.integer n.toNat).toBinary64).map selectionCount = limit := by
  cases limit with
  | none => rfl
  | some n => rw [Option.map_some, Option.map_some, selectionCount_integer]

theorem reads_written (options : FieldOptions) :
    Reads (Reader.record shape) options.written options := by
  refine .record (.cons ((reads_limit options.limit).map _) ?_) (by decide)
  rw [map_selectionCount]
  exact .cons ((reads_values options.values).map _)
    (.cons ((reads_optionalText options.target).map _) (.nil options))

end FieldOptions

namespace FieldEntry

def written (entry : FieldEntry) : Value :=
  .object [
    ("id", .text entry.id),
    ("name", .text entry.name),
    ("type", .text entry.type),
    ("system", .bool entry.system),
    ("required", .bool entry.required),
    ("unique", .bool entry.unique),
    ("options", entry.options.written)]

theorem reads_written (entry : FieldEntry) :
    Reads (Reader.record shape) entry.written entry := by
  refine .record ?_ (by decide)
  exact .cons ((Reads.textValue entry.id).map _)
    (.cons ((Reads.textValue entry.name).map _)
    (.cons ((Reads.textValue entry.type).map _)
    (.cons ((Reads.boolValue entry.system).map _)
    (.cons ((Reads.boolValue entry.required).map _)
    (.cons ((Reads.boolValue entry.unique).map _)
    (.cons (entry.options.reads_written.map _) (.nil entry)))))))

end FieldEntry

/-- Options of a collection that a document can hold: with `null` there would be none, and brackets
are not opened more than 125 deep. -/
structure Writable (options : Value) : Prop where
  present : options ≠ .null
  stored : options.Stored
  shallow : options.depth ≤ CollectionEntry.optionsDepth

namespace CollectionEntry

def written (entry : CollectionEntry) : Value :=
  .object [
    ("id", .text entry.id),
    ("name", .text entry.name),
    ("type", .text entry.type),
    ("system", .bool entry.system),
    ("listRule", orNull .text entry.rules.list),
    ("viewRule", orNull .text entry.rules.view),
    ("createRule", orNull .text entry.rules.create),
    ("updateRule", orNull .text entry.rules.update),
    ("deleteRule", orNull .text entry.rules.delete),
    ("schema", orNull (fun fields => .list (fields.map FieldEntry.written)) entry.schema),
    ("options", orNull (fun v => v) entry.options)]

theorem reads_schema (schema : Option (List FieldEntry)) :
    Reads (Reader.optional (Reader.listValue (Reader.record FieldEntry.shape)))
      (orNull (fun fields => .list (fields.map FieldEntry.written)) schema) schema :=
  reads_orNull schema (fun fields _ => .listValue fields fun field _ => field.reads_written)
    fun _ _ => Value.noConfusion

theorem reads_options {options : Option Value} (writable : ∀ v ∈ options, Writable v) :
    Reads (Reader.optional (Reader.anyValue optionsDepth)) (orNull (fun v => v) options) options :=
  reads_orNull options
    (fun v member => .anyValue_stored (writable v member).stored (writable v member).shallow)
    fun v member => (writable v member).present

theorem reads_written {entry : CollectionEntry} (writable : ∀ v ∈ entry.options, Writable v) :
    Reads (Reader.record shape) entry.written entry := by
  refine .record ?_ (by decide)
  exact .cons ((Reads.textValue entry.id).map _)
    (.cons ((Reads.textValue entry.name).map _)
    (.cons ((Reads.textValue entry.type).map _)
    (.cons ((Reads.boolValue entry.system).map _)
    (.cons ((reads_optionalText entry.rules.list).map _)
    (.cons ((reads_optionalText entry.rules.view).map _)
    (.cons ((reads_optionalText entry.rules.create).map _)
    (.cons ((reads_optionalText entry.rules.update).map _)
    (.cons ((reads_optionalText entry.rules.delete).map _)
    (.cons ((reads_schema entry.schema).map _)
    (.cons ((reads_options writable).map _) (.nil entry)))))))))))

end CollectionEntry

namespace FieldKind

/-- The type by which a kind goes in a document. -/
def typeName : FieldKind → String
  | .text => "text"
  | .number => "number"
  | .bool => "bool"
  | .email => "email"
  | .url => "url"
  | .date => "date"
  | .json => "json"
  | .select _ _ => "select"
  | .file _ => "file"
  | .relation _ _ => "relation"
  | .user _ => "user"

/-- The options that a kind of field declares; the others are left out. -/
def options : FieldKind → FieldOptions
  | .select values limit => ⟨limit, values, none⟩
  | .file limit | .user limit => ⟨limit, none, none⟩
  | .relation target limit => ⟨limit, none, some target⟩
  | _ => .empty

/-- Type name and options tell the kind of a field. -/
theorem ofType?_typeName (kind : FieldKind) : ofType? kind.typeName kind.options = some kind := by
  cases kind <;> rfl

end FieldKind

namespace Field

def entry (field : Field) : FieldEntry :=
  ⟨field.id, field.name, field.kind.typeName, field.system, field.required, field.unique,
    field.kind.options⟩

theorem ofEntry_entry (field : Field) : ofEntry field.entry = .ok field := by
  simp only [ofEntry, entry, FieldKind.ofType?_typeName]

end Field

def CollectionKind.typeName : CollectionKind → String
  | .base => "base"
  | .auth => "auth"

theorem CollectionKind.ofType_typeName (kind : CollectionKind) : ofType kind.typeName = kind := by
  cases kind <;> rfl

theorem mapM_encode {ε : Type} {decode : β → Except ε α} {encode : α → β}
    (each : ∀ a, decode (encode a) = .ok a) (elements : List α) :
    (elements.map encode).mapM decode = .ok elements := by
  induction elements with
  | nil => rfl
  | cons a elements ih =>
    rw [List.map_cons, List.mapM_cons, each, ih]
    rfl

namespace Collection

def entry (c : Collection) : CollectionEntry :=
  ⟨c.id, c.name, c.kind.typeName, c.system, c.rules, c.schema.map (·.map Field.entry), c.options⟩

theorem schemaOfEntry_entry (schema : Option (List Field)) :
    schemaOfEntry (schema.map (·.map Field.entry)) = .ok schema := by
  cases schema with
  | none => rfl
  | some fields =>
    rw [Option.map_some, schemaOfEntry, mapM_encode Field.ofEntry_entry]
    rfl

theorem ofEntry_entry (c : Collection) : ofEntry c.entry = .ok c := by
  rw [ofEntry, entry, schemaOfEntry_entry, CollectionKind.ofType_typeName]
  rfl

end Collection

namespace Document

/-- The document of a list of collections. -/
def ofCollections (collections : List Collection) : String :=
  (Value.list (collections.map fun c => c.entry.written)).compact

example : ofCollections [.withoutSchema "u" "users" .auth] =
    "[\x7b\"id\":\"u\",\"name\":\"users\",\"type\":\"auth\",\"system\":false,\"listRule\":null," ++
    "\"viewRule\":null,\"createRule\":null,\"updateRule\":null,\"deleteRule\":null," ++
    "\"schema\":null,\"options\":null\x7d]" := by decide +kernel

/-- All entries are written, and read back in their order. -/
theorem entries_ofCollections {cs : List Collection}
    (writable : ∀ c ∈ cs, ∀ v ∈ c.options, Writable v) :
    entries (ofCollections cs) = .ok (cs.map Collection.entry) := by
  have read : Reads (Reader.listValue (Reader.record CollectionEntry.shape))
      (.list ((cs.map Collection.entry).map CollectionEntry.written))
      (cs.map Collection.entry) := by
    refine .listValue _ fun entry member => ?_
    obtain ⟨c, inList, rfl⟩ := List.mem_map.mp member
    exact CollectionEntry.reads_written (writable c inList)
  have text := read.reads [] .document
  rw [List.map_map, List.append_nil] at text
  have all : entriesReader (ofCollections cs).toList = .ok (cs.map Collection.entry, []) := by
    rw [entriesReader]
    exact (Reader.bind_apply text _).trans rfl
  rw [entries, all]
  rfl

/-- Whatever list of collections is written in a document, the document is read as that list. -/
theorem collections_ofCollections (cs : List Collection)
    (writable : ∀ c ∈ cs, ∀ v ∈ c.options, Writable v) :
    collections (ofCollections cs) = .ok cs := by
  rw [collections, entries_ofCollections writable]
  exact mapM_encode Collection.ofEntry_entry cs

/-- A collection with a limit of 32 bits, texts that need escapes and options of several kinds. -/
def survey : Collection where
  id := "srv001"
  name := "\"survey\"\n"
  kind := .auth
  system := true
  rules := ⟨some "", none, some "@request.auth.id != ''", none, none⟩
  schema := some [
    ⟨"f1", "answers", .select (some ["yes\\no", "\t"]) (some 0xFFFFFFFF), false, true, false⟩,
    ⟨"f2", "author", .relation "" none, true, false, true⟩]
  options := some (.object [
    ("least", .number (.integer (-0x8000000000000000))),
    ("others", .list [.null, .bool true, .number (.integer 0xFFFFFFFFFFFFFFFF)])])

theorem collections_ofCollections_survey :
    (∀ c ∈ [survey], ∀ v ∈ c.options, Writable v) ∧
      collections (ofCollections [survey]) = .ok [survey] := by
  have writable : ∀ c ∈ [survey], ∀ v ∈ c.options, Writable v := by
    intro c member v isOptions
    obtain rfl := List.mem_singleton.mp member
    obtain rfl := Option.some.inj isOptions
    refine ⟨Value.noConfusion, .object (by decide) ?_, by decide⟩
    intro m member
    simp only [List.mem_cons, List.not_mem_nil, or_false] at member
    rcases member with rfl | rfl
    · exact .integer (by decide)
    · refine .list fun v inList => ?_
      simp only [List.mem_cons, List.not_mem_nil, or_false] at inList
      rcases inList with rfl | rfl | rfl
      · exact .null
      · exact .bool true
      · exact .integer (by decide)
  exact ⟨writable, collections_ofCollections [survey] writable⟩

end Document

end CollectionTypes
