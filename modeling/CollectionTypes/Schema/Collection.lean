import CollectionTypes.Json.Value

/-!
# Collections

The data model of a database: collections of records, the fields that a record has, and what a field
of each kind declares about its values.

Specification: section 3 (data model).
-/

namespace CollectionTypes

/-- The number of values that a field may hold, where one is declared. -/
abbrev SelectionLimit := Option UInt32

namespace SelectionLimit

def allowsMany (limit : SelectionLimit) : Bool :=
  limit.any (1 < ·)

def isExactlyOne (limit : SelectionLimit) : Bool :=
  limit == some 1

end SelectionLimit

inductive FieldKind where
  | text
  | number
  | bool
  | email
  | url
  | date
  | json
  | select (values : Option (List String)) (limit : SelectionLimit)
  | file (limit : SelectionLimit)
  | relation (target : String) (limit : SelectionLimit)
  | user (limit : SelectionLimit)
  deriving DecidableEq, Repr

structure Field where
  id : String
  name : String
  kind : FieldKind
  system : Bool
  required : Bool
  unique : Bool
  deriving DecidableEq, Repr

namespace Field

/-- A field that goes by its name, with all flags off. -/
def plain (name : String) (kind : FieldKind) : Field :=
  ⟨name, name, kind, false, false, false⟩

def isJson (field : Field) : Bool :=
  field.kind == .json

end Field

inductive CollectionKind where
  | base
  | auth
  deriving DecidableEq, Repr

/-- Any type other than `auth` is a base collection. -/
def CollectionKind.ofType (type : String) : CollectionKind :=
  if type = "auth" then .auth else .base

/-- Who may do what, as filter expressions. -/
structure AccessRules where
  list : Option String
  view : Option String
  create : Option String
  update : Option String
  delete : Option String
  deriving DecidableEq, Repr

def AccessRules.none : AccessRules :=
  ⟨.none, .none, .none, .none, .none⟩

/-- A collection. One without a schema is known to exist, but its records are not described. -/
structure Collection where
  id : String
  name : String
  kind : CollectionKind
  system : Bool
  rules : AccessRules
  schema : Option (List Field)
  options : Option Json.Value
  deriving BEq

namespace Collection

/-- A collection whose schema has no fields yet. -/
def withoutFields (id name : String) (kind : CollectionKind) : Collection :=
  ⟨id, name, kind, false, .none, some [], none⟩

def withoutSchema (id name : String) (kind : CollectionKind) : Collection :=
  ⟨id, name, kind, false, .none, none, none⟩

def declaresSchema (c : Collection) : Bool :=
  c.schema.isSome

def fields (c : Collection) : List Field :=
  c.schema.getD []

/-- Adds a field behind the others; a collection without a schema gets one. -/
def addField (c : Collection) (field : Field) : Collection :=
  { c with schema := some (c.fields ++ [field]) }

def isAuth (c : Collection) : Bool :=
  c.kind == .auth

end Collection

end CollectionTypes
