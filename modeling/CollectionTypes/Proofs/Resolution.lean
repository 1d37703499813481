import CollectionTypes.Generation
import CollectionTypes.Proofs.FirstFailure
import CollectionTypes.Proofs.IdIndex

/-!
# Resolution of relations

Which relations have no target, and the module of a catalog where all have one. Generation either
stops at the first dangling relation or gives the text of this module; everything else that is said
of the generated text can be said of the module without looking at failures again.

Specification: sections 4.0b and 4.5 (relations are resolved by id).
-/

namespace CollectionTypes

/-- The id that a relation refers to; fields of other kinds refer to none. -/
def Field.target? (field : Field) : Option String :=
  match field.kind with
  | .relation target _ => some target
  | _ => none

theorem Field.target?_eq_some_iff (field : Field) (target : String) :
    field.target? = some target ↔ ∃ limit, field.kind = .relation target limit := by
  cases kind : field.kind <;> simp [target?, kind]

namespace Catalog

/-- The target of a relation that no collection of the catalog has as its id. -/
def dangling? (catalog : Catalog) (field : Field) : Option String :=
  field.target?.filter fun target => (catalog.lookup? target).isNone

theorem dangling?_eq_some_iff (catalog : Catalog) (field : Field) (target : String) :
    catalog.dangling? field = some target ↔
      (∃ limit, field.kind = .relation target limit) ∧
        ∀ c ∈ catalog.collections, c.id ≠ target := by
  rw [dangling?, Option.filter_eq_some_iff, Field.target?_eq_some_iff, Option.isNone_iff_eq_none,
    lookup?_eq_none_iff]

theorem dangling?_relation (catalog : Catalog) (field : Field) {target : String}
    {limit : SelectionLimit} (kind : field.kind = .relation target limit) :
    catalog.dangling? field = if (catalog.lookup? target).isNone then some target else none := by
  simp [dangling?, Field.target?, kind, Option.filter_some]

/-- The first dangling target in the order of the collections and of their fields. -/
def firstDangling? (catalog : Catalog) : Option String :=
  (catalog.collections.flatMap (·.fields)).findSome? catalog.dangling?

/-- Only collections with a schema have fields. -/
theorem flatMap_fields_described (catalog : Catalog) :
    catalog.described.flatMap (·.fields) = catalog.collections.flatMap (·.fields) := by
  rw [described]
  induction catalog.collections with
  | nil => rfl
  | cons c rest ih =>
    cases schema : c.schema with
    | none => simpa [Collection.declaresSchema, Collection.fields, schema] using ih
    | some fields => simpa [Collection.declaresSchema, schema] using ih

end Catalog

namespace TypeScript

/-- What a relation expands to, where its target is known. -/
def expandedProperty? (catalog : Catalog) (field : Field) : Option Property :=
  match field.kind with
  | .relation target limit => (catalog.lookup? target).map (expandedProperty field.name limit)
  | _ => none

def resolvedResponse (catalog : Catalog) (c : Collection) : ResponseDeclaration where
  name := responseTypeName c.name
  parameters := parametersOf c.fields
  record := recordTypeName c.name
  systemFields := systemFieldsOf c.kind
  expand := c.fields.filterMap (expandedProperty? catalog)

/-- The module of a catalog in which every relation has its target. -/
def resolvedModule (catalog : Catalog) : Module where
  collections := collectionsEnum catalog
  records := recordBlocks catalog
  responses := catalog.described.map (resolvedResponse catalog)
  recordLookup := recordLookupType catalog
  responseLookup := responseLookupType catalog

/-- The failure for a target that no collection has. -/
def unresolved? (target? : Option String) : Option UnresolvedTarget :=
  target?.map UnresolvedTarget.mk

private theorem expandedProperties_settle (catalog : Catalog) (fields : List Field) :
    expandedProperties catalog fields =
      settle (unresolved? (fields.findSome? catalog.dangling?))
        (fields.filterMap (expandedProperty? catalog)) := by
  induction fields with
  | nil => rfl
  | cons field rest ih =>
    rw [expandedProperties, List.findSome?_cons, List.filterMap_cons]
    cases kind : field.kind with
    | relation target limit =>
      -- The head decides when its target is missing; otherwise the rest does.
      rw [catalog.dangling?_relation field kind]
      cases found : catalog.lookup? target with
      | none => simp [Catalog.resolve, found, settle, unresolved?, bind, Except.bind]
      | some c =>
        simp only [Catalog.resolve, found, ih, expandedProperty?, kind, Option.isNone_some,
          Bool.false_eq_true, if_false, Option.map_some, bind, Except.bind, pure, Except.pure]
        cases rest.findSome? catalog.dangling? <;> rfl
    | _ => simp [Catalog.dangling?, Field.target?, expandedProperty?, kind, ih]

theorem responseType_settle (catalog : Catalog) (c : Collection) :
    responseType catalog c =
      settle (unresolved? (c.fields.findSome? catalog.dangling?)) (resolvedResponse catalog c) := by
  rw [responseType, expandedProperties_settle]
  cases c.fields.findSome? catalog.dangling? <;> rfl

theorem responseTypes_settle (catalog : Catalog) :
    responseTypes catalog =
      settle (unresolved? catalog.firstDangling?)
        (catalog.described.map (resolvedResponse catalog)) := by
  rw [responseTypes, mapM_settle _ _ _ _ fun c _ => responseType_settle catalog c]
  refine congrArg (settle · _) ?_
  rw [Catalog.firstDangling?, ← Catalog.flatMap_fields_described, findSome?_flatMap, unresolved?,
    List.map_findSome?]
  rfl

theorem Module.ofCatalog_settle (catalog : Catalog) :
    Module.ofCatalog catalog =
      settle (unresolved? catalog.firstDangling?) (resolvedModule catalog) := by
  rw [Module.ofCatalog, responseTypes_settle]
  cases catalog.firstDangling? <;> rfl

/-- A response type is had where no relation of the collection itself dangles. -/
theorem responseType_eq_ok_iff (catalog : Catalog) (c : Collection) (d : ResponseDeclaration) :
    responseType catalog c = .ok d ↔
      (∀ field ∈ c.fields, catalog.dangling? field = none) ∧ resolvedResponse catalog c = d := by
  rw [responseType_settle, settle_eq_ok_iff, unresolved?, Option.map_eq_none_iff,
    List.findSome?_eq_none_iff]

section Resolved

variable {catalog : Catalog} (resolved : catalog.firstDangling? = none)

include resolved

theorem dangling?_of_resolved {c : Collection} (member : c ∈ catalog.collections) :
    ∀ field ∈ c.fields, catalog.dangling? field = none := by
  intro field declared
  exact List.findSome?_eq_none_iff.mp resolved field (List.mem_flatMap.mpr ⟨c, member, declared⟩)

theorem responseType_of_resolved {c : Collection} (member : c ∈ catalog.collections) :
    responseType catalog c = .ok (resolvedResponse catalog c) :=
  (responseType_eq_ok_iff catalog c _).mpr ⟨dangling?_of_resolved resolved member, rfl⟩

theorem Module.ofCatalog_of_resolved : Module.ofCatalog catalog = .ok (resolvedModule catalog) := by
  rw [Module.ofCatalog_settle, resolved]
  rfl

end Resolved

end TypeScript

open TypeScript in
/-- Generation as a whole: the first dangling relation, or the text of the resolved module. -/
theorem generate_settle (collections : List Collection) :
    generate collections =
      settle ((Catalog.ofCollections collections).firstDangling?.map fun target =>
          .unresolved ⟨target⟩)
        (resolvedModule (.ofCollections collections)).text := by
  rw [generate, TypeScript.generate, Module.ofCatalog_settle, map_settle, mapError_settle,
    unresolved?, Option.map_map]
  rfl

open TypeScript in
theorem generate_eq_ok_iff (collections : List Collection) (text : String) :
    generate collections = .ok text ↔
      (Catalog.ofCollections collections).firstDangling? = none ∧
        (resolvedModule (.ofCollections collections)).text = text := by
  rw [generate_settle, settle_eq_ok_iff, Option.map_eq_none_iff]

theorem generate_of_resolved {collections : List Collection}
    (resolved : (Catalog.ofCollections collections).firstDangling? = none) :
    generate collections =
      .ok (TypeScript.resolvedModule (.ofCollections collections)).text := by
  rw [generate_settle, resolved]
  rfl

/-- Two collections with names and options that would end lines, literals and brackets where they
are written as they stand; one relation leads back to its own collection, the other to a collection
without a schema. -/
def guestbook : List Collection :=
  [{ Collection.withoutFields "g" "guest book\nexport type X = \x7b" .base with
      schema := some
        [.plain "mood" (.select (some ["\"fine\"", "so\nso", "\"fine\""]) (some 2)),
         .plain "answers" (.relation "g" none),
         .plain "visitor?: any\n\x7d" (.relation "v" (some 1)),
         .plain "$details" .json] },
   .withoutSchema "v" "visitors" .auth]

theorem guestbook_resolved : (Catalog.ofCollections guestbook).firstDangling? = none := by
  decide

end CollectionTypes
