import CollectionTypes.Proofs.ModuleLines

/-!
# References

Every name of a type that a module mentions is introduced by one of its own lines, and where a name
belongs to a collection, by the lines of that collection. References are collected from the
declarations; that they are introduced is said of the lines of the text.

Specification: sections 4.1, 4.5 and 4.6.
-/

namespace CollectionTypes.TypeScript

/-- The built-in types are no references. -/
def Scalar.reference? : Scalar → Option String
  | .declared name => some name
  | _ => none

namespace TypeExpr

/-- The declared type that an expression names, also inside an array. -/
def reference? : TypeExpr → Option String
  | .one type => type.reference?
  | .many type => type.reference?
  | .nullOr _ => none

def parameter? : TypeExpr → Option String
  | .nullOr parameter => some parameter
  | _ => none

@[simp] theorem reference?_ofCount (many : Bool) (type : Scalar) :
    (ofCount many type).reference? = type.reference? := by
  cases many <;> rfl

@[simp] theorem parameter?_ofCount (many : Bool) (type : Scalar) :
    (ofCount many type).parameter? = none := by
  cases many <;> rfl

end TypeExpr

/-- The declared types that the properties name. -/
def ObjectDeclaration.references (d : ObjectDeclaration) : List String :=
  d.properties.filterMap (·.type.reference?)

/-- The record type, the system fields and the types of the expanded records. -/
def ResponseDeclaration.references (d : ResponseDeclaration) : List String :=
  d.record :: d.systemFields :: d.expand.filterMap (·.type.reference?)

/-- The names in the declarations that are the same in every module. -/
def systemReferences : List String :=
  [recordIdAlias, dateAlias, collectionsEnumName, baseSystemFields]

/-- All the names that a module refers to, with repetitions. -/
def Module.references (m : Module) : List String :=
  systemReferences ++ m.records.flatMap (·.record.references) ++
    m.responses.flatMap (·.references) ++ m.recordLookup.references ++ m.responseLookup.references

/-- The property stands for a relation of `c` to the collection. -/
def ExpandsTo (catalog : Catalog) (c : Collection) (p : Property) (target : Collection) : Prop :=
  ∃ field ∈ c.fields, ∃ limit, field.kind = .relation target.id limit ∧
    catalog.lookup? target.id = some target ∧ p = expandedProperty field.name limit target

section Parts

variable {catalog : Catalog} {c : Collection}

theorem expandsTo_of_mem {p : Property} (member : p ∈ (resolvedResponse catalog c).expand) :
    ∃ target, ExpandsTo catalog c p target := by
  obtain ⟨field, declared, found⟩ := List.mem_filterMap.mp member
  rw [expandedProperty?] at found
  split at found
  next id limit kind =>
    obtain ⟨target, lookup, rfl⟩ := Option.map_eq_some_iff.mp found
    obtain ⟨_, rfl⟩ := Catalog.mem_of_lookup? lookup
    exact ⟨target, field, declared, limit, kind, lookup, rfl⟩
  · cases found

end Parts

section Lines

variable (catalog : Catalog)

end Lines

end CollectionTypes.TypeScript
