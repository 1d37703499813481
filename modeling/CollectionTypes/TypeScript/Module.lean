import CollectionTypes.TypeScript.ResponseType

/-!
# Modules

The module of a catalog: every collection is listed by name, and each one that declares a schema has
a record block, a response type and an entry in both look-up types. The only failure is a relation
whose target is not in the catalog.

Specification: section 4.6 (module assembler).
-/

namespace CollectionTypes.TypeScript

/-- The declarations that depend on the collections; all others are the same in every module. -/
structure Module where
  collections : EnumDeclaration
  records : List RecordBlock
  responses : List ResponseDeclaration
  recordLookup : ObjectDeclaration
  responseLookup : ObjectDeclaration
  deriving DecidableEq, Repr

/-- Every collection has a member, with or without a schema. -/
def collectionsEnum (catalog : Catalog) : EnumDeclaration :=
  ⟨collectionsEnumName,
    catalog.collections.map fun c => ⟨.bare (pascalCase c.name), c.name⟩⟩

/-- Leads from the name of each described collection to a type of it. -/
def lookupType (name : String) (typeName : String → String) (catalog : Catalog) :
    ObjectDeclaration :=
  ⟨name, [], catalog.described.map fun c => ⟨c.name, false, .one (.declared (typeName c.name))⟩⟩

def recordLookupType (catalog : Catalog) : ObjectDeclaration :=
  lookupType "CollectionRecords" recordTypeName catalog

def responseLookupType (catalog : Catalog) : ObjectDeclaration :=
  lookupType "CollectionResponses" responseTypeName catalog

def recordBlocks (catalog : Catalog) : List RecordBlock :=
  catalog.described.map .ofCollection

/-- The response types in the order of the catalog, or the first relation without a target. -/
def responseTypes (catalog : Catalog) : Except UnresolvedTarget (List ResponseDeclaration) :=
  catalog.described.mapM (responseType catalog)

/-- The response types under their comment, one behind the other. -/
def responseLines (responses : List ResponseDeclaration) : List String :=
  responseComment ++ responses.flatMap (·.lines)

namespace Module

/-- The response types are made first, so a failure leaves no part of a module. -/
def ofCatalog (catalog : Catalog) : Except UnresolvedTarget Module := do
  let responses ← responseTypes catalog
  return {
    collections := collectionsEnum catalog
    records := recordBlocks catalog
    responses
    recordLookup := recordLookupType catalog
    responseLookup := responseLookupType catalog }

/-- The parts of a module, which are written with a blank line in between. -/
def parts (m : Module) : List (List String) :=
  [generatedComment, m.collections.lines, aliasLines, baseSystemFieldsLines,
    authSystemFieldsLines, recordComment] ++
  m.records.map (·.lines) ++
  [responseLines m.responses, m.recordLookup.lines, m.responseLookup.lines]

def lines (m : Module) : List String :=
  separated m.parts

def text (m : Module) : String :=
  joinLines m.lines

end Module

/-- The text of the module for some collections. -/
def generate (catalog : Catalog) : Except UnresolvedTarget String :=
  Module.text <$> Module.ofCatalog catalog

end CollectionTypes.TypeScript
