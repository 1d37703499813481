import CollectionTypes.Proofs.ModuleLines

/-!
# Export lines

Which declarations a generated text opens, read off the collections: the fixed ones first, then the
option enums and the record type of each collection with a schema, then the response types, then the
two look-up types. Nothing in the database adds a line to these or takes one away.

Specification: section 4.6 (the order of the parts).
-/

namespace CollectionTypes.TypeScript

/-- A header for each select field that declares its values, in the order of the schema. -/
def optionEnumHeaders (c : Collection) : List String :=
  c.fields.filterMap fun field =>
    match field.kind with
    | .select (some _) _ => some ("export enum " ++ optionEnumName c.name field.name ++ " \x7b")
    | _ => none

def recordHeader (c : Collection) : String :=
  "export type " ++ recordTypeName c.name ++ parameterDeclaration (parametersOf c.fields) ++
    " = \x7b"

/-- A collection with relations has an object of expanded records behind its system fields. -/
def responseHeader (c : Collection) : String :=
  "export type " ++ responseTypeName c.name ++ parameterDeclaration (parametersOf c.fields) ++
      " = " ++
    (recordTypeName c.name ++ parameterReference (parametersOf c.fields) ++ " & " ++
      systemFieldsOf c.kind) ++
    if c.fields.any (·.target?.isSome) then " & \x7b" else ""

/-- The headers that stand in front of the look-up types, where these collections have a schema. -/
def leadingHeaders (described : List Collection) : List String :=
  ["export enum Collections \x7b",
   "export type IsoDateString = string",
   "export type RecordIdString = string",
   "export type BaseSystemFields = \x7b",
   "export type AuthSystemFields = \x7b"] ++
  described.flatMap (fun c => optionEnumHeaders c ++ [recordHeader c]) ++
  described.map responseHeader

/-- The headers of a module, its collections taken in the order of their names. -/
def moduleHeaders (collections : List Collection) : List String :=
  leadingHeaders ((Catalog.nameOrder collections).filter (·.declaresSchema)) ++
  ["export type CollectionRecords = \x7b",
   "export type CollectionResponses = \x7b"]

private theorem optionEnums_headers (c : Collection) :
    (optionEnums c).map (·.header) = optionEnumHeaders c := by
  rw [optionEnums, List.map_filterMap, optionEnumHeaders]
  apply List.filterMap_congr
  intro field _
  rw [optionEnum?, optionValues?]
  cases field.kind with
  | select values _ => cases values <;> rfl
  | _ => rfl

section Responses

variable {catalog : Catalog} {c : Collection}
  (own : ∀ field ∈ c.fields, catalog.dangling? field = none)

include own

/-- Once its relations are resolved, every one has its place among the expanded records. -/
theorem expand_isEmpty :
    (resolvedResponse catalog c).expand.isEmpty = !c.fields.any (·.target?.isSome) := by
  have found : ∀ field ∈ c.fields,
      (expandedProperty? catalog field).isSome = field.target?.isSome := by
    intro field declared
    have sound := own field declared
    cases kind : field.kind with
    | relation target limit =>
      rw [catalog.dangling?_relation field kind] at sound
      cases lookup : catalog.lookup? target with
      | none => simp [lookup] at sound
      | some d => simp [expandedProperty?, Field.target?, kind, lookup]
    | _ => simp [expandedProperty?, Field.target?, kind]
  rw [Bool.eq_iff_iff, List.isEmpty_iff, resolvedResponse, List.filterMap_eq_nil_iff,
    Bool.not_eq_true', List.any_eq_false]
  constructor
  · intro none field declared
    rw [← found field declared, none field declared]
    simp
  · intro none field declared
    have missing := none field declared
    rw [← found field declared] at missing
    simpa using missing

theorem firstLine_eq_responseHeader :
    (resolvedResponse catalog c).firstLine = responseHeader c := by
  rw [ResponseDeclaration.firstLine, ResponseDeclaration.header_split, expand_isEmpty own]
  unfold responseHeader
  cases c.fields.any (·.target?.isSome) <;> rfl

end Responses

/-- The parts in front of the look-up types. -/
def Module.leadingParts (m : Module) : List (List String) :=
  [generatedComment, m.collections.lines, aliasLines, baseSystemFieldsLines,
    authSystemFieldsLines, recordComment] ++
  m.records.map (·.lines) ++ [responseLines m.responses]

theorem Module.parts_eq_leadingParts (m : Module) :
    m.parts = m.leadingParts ++ [m.recordLookup.lines, m.responseLookup.lines] := by
  rw [parts, leadingParts, List.append_assoc _ [_] [_, _]]
  rfl

section Catalogs

variable {catalog : Catalog} (resolved : catalog.firstDangling? = none)

include resolved

/-- The export lines in front of the look-up types, part by part. -/
theorem exportLines_leadingParts :
    (resolvedModule catalog).leadingParts.flatMap exportLines =
      leadingHeaders catalog.described := by
  have fixed : [generatedComment, (collectionsEnum catalog).lines, aliasLines,
      baseSystemFieldsLines, authSystemFieldsLines, recordComment].flatMap exportLines =
      ["export enum Collections \x7b", "export type IsoDateString = string",
       "export type RecordIdString = string", "export type BaseSystemFields = \x7b",
       "export type AuthSystemFields = \x7b"] := by
    have noExport : exportLines generatedComment = [] ∧ exportLines recordComment = [] := by decide
    have aliases : exportLines aliasLines =
        ["export type IsoDateString = string", "export type RecordIdString = string"] := by decide
    have base : exportLines baseSystemFieldsLines = ["export type BaseSystemFields = \x7b"] := by
      decide
    have auth : exportLines authSystemFieldsLines = ["export type AuthSystemFields = \x7b"] := by
      decide
    simp only [List.flatMap_cons, List.flatMap_nil, (opens_collectionsEnum _).exports, noExport,
      aliases, base, auth]
    rfl
  have records : ((recordBlocks catalog).map (·.lines)).flatMap exportLines =
      catalog.described.flatMap fun c => optionEnumHeaders c ++ [recordHeader c] := by
    rw [recordBlocks, List.flatMap_map, List.flatMap_map]
    apply List.flatMap_congr
    intro c _
    rw [exportLines_recordBlock, optionEnums_headers]
    rfl
  have responses : exportLines (responseLines (resolvedModule catalog).responses) =
      catalog.described.map responseHeader := by
    rw [exportLines_responses]
    apply List.map_congr_left
    intro c member
    exact firstLine_eq_responseHeader (dangling?_of_resolved resolved (List.mem_filter.mp member).1)
  rw [Module.leadingParts, List.flatMap_append, List.flatMap_append]
  simp only [resolvedModule] at responses ⊢
  rw [fixed, records]
  simp only [List.flatMap_cons, List.flatMap_nil, responses, List.append_nil]
  rfl

/-- The export lines of a module. -/
theorem exportLines_resolvedModule :
    exportLines (resolvedModule catalog).lines =
      leadingHeaders catalog.described ++
        ["export type CollectionRecords = \x7b", "export type CollectionResponses = \x7b"] := by
  have recordLookup : exportLines (resolvedModule catalog).recordLookup.lines =
      ["export type CollectionRecords = \x7b"] :=
    (opens_lookupType _ (by decide) oneLine_recordTypeName).exports
  have responseLookup : exportLines (resolvedModule catalog).responseLookup.lines =
      ["export type CollectionResponses = \x7b"] :=
    (opens_lookupType _ (by decide) oneLine_responseTypeName).exports
  rw [Module.lines, exportLines_separated, Module.parts_eq_leadingParts, List.flatMap_append,
    exportLines_leadingParts resolved]
  simp only [List.flatMap_cons, List.flatMap_nil, recordLookup, responseLookup]
  rfl

end Catalogs

/-- The export lines, read off the collections. -/
theorem exportLines_lines (collections : List Collection)
    (resolved : (Catalog.ofCollections collections).firstDangling? = none) :
    exportLines (resolvedModule (.ofCollections collections)).lines =
      moduleHeaders collections := by
  rw [exportLines_resolvedModule resolved, Catalog.described, Catalog.ofCollections_eq_nameOrder]
  rfl

/-- Whatever the collections hold, the text that is generated for them has the lines of its
declarations in this order, and none of its other lines could be taken for one. -/
theorem generate_line_structure (collections : List Collection) (text : String)
    (success : CollectionTypes.generate collections = .ok text) :
    exportLines (textLines text) = moduleHeaders collections ∧
      ∀ line ∈ textLines text, isExport line = false → IsFiller line := by
  rw [generate_settle, settle_eq_ok_iff, Option.map_eq_none_iff] at success
  obtain ⟨resolved, rfl⟩ := success
  rw [textLines_text]
  refine ⟨exportLines_lines collections resolved, ?_⟩
  intro line member other
  rcases (tidy_lines _ line member).2 with header | filler
  · rw [other] at header
    exact absurd header Bool.false_ne_true
  · exact filler

theorem generate_line_structure_guestbook :
    ∃ text, CollectionTypes.generate guestbook = .ok text ∧
      exportLines (textLines text) =
        ["export enum Collections \x7b",
         "export type IsoDateString = string",
         "export type RecordIdString = string",
         "export type BaseSystemFields = \x7b",
         "export type AuthSystemFields = \x7b",
         "export enum GuestBookExportTypeXMoodOptions \x7b",
         "export type GuestBookExportTypeXRecord<T$$details = unknown> = \x7b",
         "export type GuestBookExportTypeXResponse<T$$details = unknown> = " ++
           "GuestBookExportTypeXRecord<T$$details> & BaseSystemFields & \x7b",
         "export type CollectionRecords = \x7b",
         "export type CollectionResponses = \x7b"] ∧
      ∀ line ∈ textLines text, isExport line = false → IsFiller line := by
  have success := generate_of_resolved guestbook_resolved
  obtain ⟨headers, fillers⟩ := generate_line_structure guestbook _ success
  refine ⟨_, success, ?_, fillers⟩
  rw [headers, moduleHeaders, ← Catalog.ofCollections_eq_nameOrder]
  decide

end CollectionTypes.TypeScript
