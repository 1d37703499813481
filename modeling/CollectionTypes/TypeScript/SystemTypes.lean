import CollectionTypes.Schema.Collection

/-!
# Types of every module

The aliases and the system fields that each module declares, whatever its collections are.

Specification: section 4.6 (module assembler, parts 1, 3 to 5 and 7).
-/

namespace CollectionTypes.TypeScript

/-- What dates are typed as. -/
def dateAlias : String := "IsoDateString"

/-- What relations hold when they are not expanded. -/
def recordIdAlias : String := "RecordIdString"

/-- The fields that every record has. -/
def baseSystemFields : String := "BaseSystemFields"

/-- The fields that the records of an auth collection have. -/
def authSystemFields : String := "AuthSystemFields"

def collectionsEnumName : String := "Collections"

/-- The system fields that the records of a collection have. -/
def systemFieldsOf : CollectionKind → String
  | .base => baseSystemFields
  | .auth => authSystemFields

/-- The first lines of every module. -/
def generatedComment : List String :=
  ["/**", "* This file was @generated using pbtypegen", "*/"]

def recordComment : List String :=
  ["// Record types for each collection"]

def responseComment : List String :=
  ["// Response types include system fields and match responses from the PocketBase API"]

/-- Both aliases stand for text. -/
def aliasLines : List String :=
  ["// Alias types for improved usability",
   "export type " ++ dateAlias ++ " = string",
   "export type " ++ recordIdAlias ++ " = string"]

/-- The record that any relation may be expanded to is left open here. -/
def baseSystemFieldsLines : List String :=
  ["// System fields",
   "export type " ++ baseSystemFields ++ " = \x7b",
   "\tid: " ++ recordIdAlias,
   "\tcreated: " ++ dateAlias,
   "\tupdated: " ++ dateAlias,
   "\tcollectionId: string",
   "\tcollectionName: " ++ collectionsEnumName,
   "\texpand?: \x7b [key: string]: any \x7d",
   "\x7d"]

/-- An account has the fields of every record as well. -/
def authSystemFieldsLines : List String :=
  ["export type " ++ authSystemFields ++ " = \x7b",
   "\temail: string",
   "\temailVisibility: boolean",
   "\tusername: string",
   "\tverified: boolean",
   "\x7d & " ++ baseSystemFields]

end CollectionTypes.TypeScript
