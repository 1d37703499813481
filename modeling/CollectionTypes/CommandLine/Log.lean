import CollectionTypes.CommandLine.Event
import CollectionTypes.Generation

/-!
# Log

The events of a run that generates a module, in the order of its work.

Specification: section 8 (logging: the events of the generator and its composers).
-/

namespace CollectionTypes.CommandLine

def programTarget : String := "pbtypegen"

def moduleTarget : String := "pbtypegen_codegen::generator"

def recordTarget : String := "pbtypegen_codegen::typescript::records"

def responseTarget : String := "pbtypegen_codegen::typescript::responses"

/-- One event for each collection up to the first whose relations cannot be resolved. -/
def responseEvents (catalog : Catalog) : List Collection → List Event
  | [] => []
  | c :: rest =>
      ⟨.debug, responseTarget, "Generating response type for collection " ++ c.name⟩ ::
        match TypeScript.responseType catalog c with
        | .ok _ => responseEvents catalog rest
        | .error _ => []

/-- A collection without a schema is listed, but nothing more is known about it. -/
def missingSchemaEvent (c : Collection) : Event :=
  ⟨.warn, moduleTarget,
    "Collection " ++ c.name ++ " declares no schema, listing it without types"⟩

/-- Told for each record block. -/
def recordEvent (c : Collection) : Event :=
  ⟨.debug, recordTarget, "Generating record type for collection " ++ c.name⟩

/-- How many of the collections have types. -/
def finishedEvent (catalog : Catalog) : Event :=
  ⟨.info, moduleTarget,
    "Generated types for " ++ toString catalog.described.length ++ " of " ++
      toString catalog.collections.length ++ " collections"⟩

/-- What the generation of a module tells. -/
def moduleEvents (catalog : Catalog) : List Event :=
  (catalog.collections.filter (!·.declaresSchema)).map missingSchemaEvent ++
  catalog.described.map recordEvent ++
  responseEvents catalog catalog.described ++
  match TypeScript.responseTypes catalog with
  | .ok _ => [finishedEvent catalog]
  | .error _ => []

end CollectionTypes.CommandLine
