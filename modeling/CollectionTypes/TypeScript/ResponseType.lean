import CollectionTypes.Schema.Catalog
import CollectionTypes.TypeScript.RecordType

/-!
# Response types

The type of what the server answers with for a collection. Expanded relations refer to the response
types of their targets, so expansion is one level deep.

Specification: section 4.5 (response-type composer).
-/

namespace CollectionTypes.TypeScript

/-- What a relation to the collection expands to. Without a schema there is no response type, and
only the system fields are known. -/
def expandedType (target : Collection) : Scalar :=
  .declared (if target.declaresSchema then responseTypeName target.name
    else systemFieldsOf target.kind)

def expandedProperty (field : String) (limit : SelectionLimit) (target : Collection) : Property :=
  ⟨field, true, .ofCount (!limit.isExactlyOne) (expandedType target)⟩

/-- The expanded relations among some fields, in their order; the first one that cannot be resolved
is the error. -/
def expandedProperties (catalog : Catalog) : List Field → Except UnresolvedTarget (List Property)
  | [] => .ok []
  | field :: rest =>
      match field.kind with
      | .relation target limit => do
          let target ← catalog.resolve target
          let more ← expandedProperties catalog rest
          return expandedProperty field.name limit target :: more
      | _ => expandedProperties catalog rest

def responseType (catalog : Catalog) (c : Collection) :
    Except UnresolvedTarget ResponseDeclaration := do
  let expand ← expandedProperties catalog c.fields
  return {
    name := responseTypeName c.name
    parameters := parametersOf c.fields
    record := recordTypeName c.name
    systemFields := systemFieldsOf c.kind
    expand }

end CollectionTypes.TypeScript
