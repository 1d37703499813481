import CollectionTypes.TypeScript.Declaration
import CollectionTypes.TypeScript.PascalCase
import CollectionTypes.TypeScript.SystemTypes

/-!
# Record types

The type of a collection's records, with the enums of the options that its select fields declare.

Specification: sections 4.1 (field-type mapper), 4.3 (select-option enumerator) and 4.4 (record-type
composer).
-/

namespace CollectionTypes.TypeScript

/-- The type of a field's values. A select field without declared options holds any text. A relation
may be missing its limit or have it at zero, so only a limit of one makes it a single value. -/
def fieldType (collection : String) (field : Field) : TypeExpr :=
  match field.kind with
  | .text | .email | .url => .one .string
  | .number => .one .number
  | .bool => .one .boolean
  | .date => .one (.declared dateAlias)
  | .json => .nullOr (parameterName field.name)
  | .select none limit => .ofCount limit.allowsMany .string
  | .select (some _) limit =>
      .ofCount limit.allowsMany (.declared (optionEnumName collection field.name))
  | .file limit => .ofCount limit.allowsMany .string
  | .relation _ limit => .ofCount (!limit.isExactlyOne) (.declared recordIdAlias)
  | .user limit => .ofCount limit.allowsMany (.declared recordIdAlias)

/-- A field that is not required is an optional property. -/
def fieldProperty (collection : String) (field : Field) : Property :=
  ⟨field.name, !field.required, fieldType collection field⟩

/-- The declared options of a select field, each once and in the order of first mention. -/
def optionValues? (field : Field) : Option (List String) :=
  match field.kind with
  | .select (some values) _ => some values.eraseDups
  | _ => none

/-- The enum of the declared options, each member named by its value. -/
def optionEnum? (collection : String) (field : Field) : Option EnumDeclaration :=
  (optionValues? field).map fun values =>
    ⟨optionEnumName collection field.name, values.map fun value => ⟨.quoted value, value⟩⟩

def optionEnums (c : Collection) : List EnumDeclaration :=
  c.fields.filterMap (optionEnum? c.name)

/-- The properties keep the order of the schema. -/
def recordType (c : Collection) : ObjectDeclaration :=
  ⟨recordTypeName c.name, parametersOf c.fields, c.fields.map (fieldProperty c.name)⟩

/-- The declarations of one collection that stand together. -/
structure RecordBlock where
  enums : List EnumDeclaration
  record : ObjectDeclaration
  deriving DecidableEq, Repr

namespace RecordBlock

def ofCollection (c : Collection) : RecordBlock :=
  ⟨optionEnums c, recordType c⟩

def lines (block : RecordBlock) : List String :=
  separated (block.enums.map (·.lines) ++ [block.record.lines])

end RecordBlock

end CollectionTypes.TypeScript
