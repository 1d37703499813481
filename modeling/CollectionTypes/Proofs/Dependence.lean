import CollectionTypes.Proofs.Resolution
import Mathlib.Data.List.Forall2

/-!
# What a text depends on

Two lists of collections that agree on what a module shows lead to the same text. Ids are not shown:
they only say which collection a relation refers to, so they can be exchanged for others as long as
different ids stay different, and a failure then carries the exchanged id. Access rules, options of
collections, flags beside the required one, ids of fields and the exact number of a limit play no
part at all.

Specification: section 3 (declarations are functions of the input).
-/

namespace CollectionTypes

/-- Agreement on what is shown of a kind: of a limit, whether it stands for one or many values. -/
inductive FieldKind.Alike (rename : String → String) : FieldKind → FieldKind → Prop
  | text : Alike rename .text .text
  | number : Alike rename .number .number
  | bool : Alike rename .bool .bool
  | email : Alike rename .email .email
  | url : Alike rename .url .url
  | date : Alike rename .date .date
  | json : Alike rename .json .json
  | select (values : Option (List String)) {limit other : SelectionLimit}
      (many : limit.allowsMany = other.allowsMany) :
      Alike rename (.select values limit) (.select values other)
  | file {limit other : SelectionLimit} (many : limit.allowsMany = other.allowsMany) :
      Alike rename (.file limit) (.file other)
  | relation (target : String) {limit other : SelectionLimit}
      (one : limit.isExactlyOne = other.isExactlyOne) :
      Alike rename (.relation target limit) (.relation (rename target) other)
  | user {limit other : SelectionLimit} (many : limit.allowsMany = other.allowsMany) :
      Alike rename (.user limit) (.user other)

/-- Agreement on what is shown of a field, which its id and two of its flags are not. -/
structure Field.Alike (rename : String → String) (field other : Field) : Prop where
  name : field.name = other.name
  required : field.required = other.required
  kind : field.kind.Alike rename other.kind

/-- Agreement on what is shown of a collection, its id exchanged. -/
structure Collection.Alike (rename : String → String) (c d : Collection) : Prop where
  id : d.id = rename c.id
  name : c.name = d.name
  kind : c.kind = d.kind
  schema : Option.Rel (List.Forall₂ (Field.Alike rename)) c.schema d.schema

section Lists

variable {α β γ : Type} {R : α → β → Prop} {left : List α} {right : List β}

theorem map_eq_of_forall₂ {f : α → γ} {g : β → γ} (same : ∀ a b, R a b → f a = g b)
    (related : List.Forall₂ R left right) : left.map f = right.map g := by
  rw [← List.forall₂_eq_eq_eq]
  exact List.rel_map same related

theorem filterMap_eq_of_forall₂ {f : α → Option γ} {g : β → Option γ}
    (same : ∀ a b, R a b → f a = g b) (related : List.Forall₂ R left right) :
    left.filterMap f = right.filterMap g := by
  induction related with
  | nil => rfl
  | cons head _ ih => rw [List.filterMap_cons, List.filterMap_cons, same _ _ head, ih]

/-- A test that related elements pass together finds related elements. -/
theorem find?_of_forall₂ {p : α → Bool} {q : β → Bool} (same : ∀ a b, R a b → p a = q b)
    (related : List.Forall₂ R left right) : Option.Rel R (left.find? p) (right.find? q) := by
  induction related with
  | nil => exact .none
  | cons head _ ih =>
    rw [List.find?_cons, List.find?_cons, same _ _ head]
    split
    · exact .some head
    · exact ih

/-- A search goes to the same place on both sides. -/
theorem findSome?_of_forall₂ {f : α → Option γ} {g : β → Option γ} {exchange : γ → γ}
    (exchanged : ∀ a b, R a b → g b = (f a).map exchange) (related : List.Forall₂ R left right) :
    right.findSome? g = (left.findSome? f).map exchange := by
  induction related with
  | nil => rfl
  | @cons a b _ _ head _ ih =>
    rw [List.findSome?_cons, List.findSome?_cons, exchanged a b head, ih]
    cases f a <;> rfl

variable {a? : Option α} {b? : Option β}

theorem map_eq_of_rel {f : α → γ} {g : β → γ} (same : ∀ a b, R a b → f a = g b)
    (related : Option.Rel R a? b?) : a?.map f = b?.map g := by
  cases related with
  | some values => exact congrArg some (same _ _ values)
  | none => rfl

theorem isNone_of_rel (related : Option.Rel R a? b?) : a?.isNone = b?.isNone := by
  cases related <;> rfl

end Lists

section Parts

variable {rename : String → String} {field other : Field} {c d : Collection}

theorem Field.Alike.isJson (alike : field.Alike rename other) : field.isJson = other.isJson := by
  cases field
  cases other
  cases alike.kind <;> rfl

/-- Without a schema there are no fields on either side. -/
theorem Collection.Alike.fields (alike : c.Alike rename d) :
    List.Forall₂ (Field.Alike rename) c.fields d.fields := by
  cases c
  cases d
  cases alike.schema with
  | some related => exact related
  | none => exact .nil

theorem Collection.Alike.declaresSchema (alike : c.Alike rename d) :
    c.declaresSchema = d.declaresSchema := by
  cases c
  cases d
  cases alike.schema <;> rfl

namespace TypeScript

/-- A type does not tell the target of a relation. -/
theorem fieldType_of_alike (collection : String) (alike : field.Alike rename other) :
    fieldType collection field = fieldType collection other := by
  rw [fieldType, fieldType, alike.name]
  cases field
  cases other
  cases alike.kind with
  | select values many => cases values <;> simp only [many]
  | relation _ one => simp only [one]
  | file many | user many => simp only [many]
  | _ => rfl

theorem fieldProperty_of_alike (collection : String) (alike : field.Alike rename other) :
    fieldProperty collection field = fieldProperty collection other := by
  rw [fieldProperty, fieldProperty, alike.name, alike.required, fieldType_of_alike _ alike]

/-- Declared options are the same on both sides. -/
theorem optionEnum?_of_alike (collection : String) (alike : field.Alike rename other) :
    optionEnum? collection field = optionEnum? collection other := by
  have values : optionValues? field = optionValues? other := by
    cases field
    cases other
    cases alike.kind with
    | select values _ => cases values <;> rfl
    | _ => rfl
  rw [optionEnum?, optionEnum?, values, alike.name]

theorem parametersOf_of_alike (alike : c.Alike rename d) :
    parametersOf c.fields = parametersOf d.fields := by
  apply map_eq_of_forall₂ (R := Field.Alike rename)
  · intro field other same
    rw [same.name]
  · exact List.rel_filter (fun _ _ same => Bool.eq_iff_iff.mp same.isJson) alike.fields

theorem recordBlock_of_alike (alike : c.Alike rename d) :
    RecordBlock.ofCollection c = RecordBlock.ofCollection d := by
  have enums : optionEnums c = optionEnums d := by
    rw [optionEnums, optionEnums, alike.name]
    exact filterMap_eq_of_forall₂ (fun _ _ same => optionEnum?_of_alike _ same) alike.fields
  have properties : c.fields.map (fieldProperty c.name) = d.fields.map (fieldProperty d.name) := by
    rw [alike.name]
    exact map_eq_of_forall₂ (fun _ _ same => fieldProperty_of_alike _ same) alike.fields
  rw [RecordBlock.ofCollection, RecordBlock.ofCollection, enums, recordType, recordType, alike.name,
    parametersOf_of_alike alike, ← alike.name, properties, alike.name]

/-- An expanded relation tells name, kind and schema of its target, and not its id. -/
theorem expandedProperty_of_alike (name : String) {limit limit' : SelectionLimit}
    (one : limit.isExactlyOne = limit'.isExactlyOne) (alike : c.Alike rename d) :
    expandedProperty name limit c = expandedProperty name limit' d := by
  rw [expandedProperty, expandedProperty, expandedType, expandedType, one, alike.declaresSchema,
    alike.name, alike.kind]

end TypeScript

end Parts

namespace Catalog

variable {rename : String → String}

/-- Agreement of catalogs, collection by collection in the order of the names. -/
def Alike (rename : String → String) (catalog other : Catalog) : Prop :=
  List.Forall₂ (Collection.Alike rename) catalog.collections other.collections

/-- Collections of the same name go to the same place. -/
theorem place_of_alike {c d : Collection} {placed others : List Collection}
    (alike : c.Alike rename d) (related : List.Forall₂ (Collection.Alike rename) placed others) :
    List.Forall₂ (Collection.Alike rename) (place c placed) (place d others) := by
  induction related with
  | nil => exact .cons alike .nil
  | cons head rest ih =>
    rw [place, place, head.name, alike.name]
    split
    · exact .cons head ih
    · exact .cons alike (.cons head rest)

/-- Places depend on names only, so agreement survives the sort. -/
theorem ofCollections_of_alike {left right : List Collection}
    (related : List.Forall₂ (Collection.Alike rename) left right) :
    (ofCollections left).Alike rename (ofCollections right) := by
  have step : ∀ placed others, List.Forall₂ (Collection.Alike rename) placed others →
      ∀ c d, c.Alike rename d →
        List.Forall₂ (Collection.Alike rename) (place c placed) (place d others) :=
    fun _ _ before _ _ head => place_of_alike head before
  exact List.rel_foldl step List.Forall₂.nil related

variable {catalog other : Catalog} (injective : Function.Injective rename)
  (alike : catalog.Alike rename other)

include injective alike

/-- Renaming is injective, so an id is found where the renamed one is. -/
theorem lookup?_of_alike (id : String) :
    Option.Rel (Collection.Alike rename) (catalog.lookup? id) (other.lookup? (rename id)) := by
  rw [lookup?_eq_findRev?, lookup?_eq_findRev?, List.findRev?_eq_find?_reverse,
    List.findRev?_eq_find?_reverse]
  apply find?_of_forall₂ (R := Collection.Alike rename)
  · intro c d same
    rw [same.id, Bool.eq_iff_iff, beq_iff_eq, beq_iff_eq]
    exact injective.eq_iff.symm
  · exact List.forall₂_reverse_iff.mpr alike

/-- A relation dangles where the renamed one does. -/
theorem dangling?_of_alike (field field' : Field) (same : field.Alike rename field') :
    other.dangling? field' = (catalog.dangling? field).map rename := by
  cases field
  cases field'
  cases same.kind with
  | relation target one =>
    have missing : (catalog.lookup? target).isNone = (other.lookup? (rename target)).isNone :=
      isNone_of_rel (lookup?_of_alike injective alike target)
    rw [dangling?_relation other _ rfl, dangling?_relation catalog _ rfl, missing]
    split <;> rfl
  | _ => rfl

/-- The same relation dangles first, so the id that is reported is the exchanged one. -/
theorem firstDangling?_of_alike :
    other.firstDangling? = catalog.firstDangling?.map rename := by
  rw [firstDangling?, firstDangling?, findSome?_flatMap, findSome?_flatMap]
  apply findSome?_of_forall₂ (R := Collection.Alike rename) _ alike
  intro c d same
  exact findSome?_of_forall₂ (dangling?_of_alike injective alike) same.fields

end Catalog

namespace TypeScript

variable {rename : String → String} {catalog other : Catalog}
  (injective : Function.Injective rename) (alike : catalog.Alike rename other)

include injective alike

theorem resolvedResponse_of_alike (c d : Collection) (same : c.Alike rename d) :
    resolvedResponse catalog c = resolvedResponse other d := by
  have expand : c.fields.filterMap (expandedProperty? catalog) =
      d.fields.filterMap (expandedProperty? other) := by
    apply filterMap_eq_of_forall₂ _ same.fields
    intro field field' sameField
    rw [expandedProperty?, expandedProperty?, sameField.name]
    cases field
    cases field'
    cases sameField.kind with
    | relation target one =>
      exact map_eq_of_rel (fun _ _ sameTarget => expandedProperty_of_alike _ one sameTarget)
        (Catalog.lookup?_of_alike injective alike target)
    | _ => rfl
  rw [resolvedResponse, resolvedResponse, expand, same.name, same.kind, parametersOf_of_alike same]

/-- No piece of a module tells two databases apart that differ in nothing it reads. -/
theorem resolvedModule_of_alike : resolvedModule catalog = resolvedModule other := by
  have described :
      List.Forall₂ (Collection.Alike rename) catalog.described other.described :=
    List.rel_filter (fun _ _ same => Bool.eq_iff_iff.mp same.declaresSchema) alike
  have members : collectionsEnum catalog = collectionsEnum other := by
    refine congrArg (EnumDeclaration.mk _) (map_eq_of_forall₂ ?_ alike)
    intro c d same
    rw [same.name]
  have records : recordBlocks catalog = recordBlocks other :=
    map_eq_of_forall₂ (fun _ _ same => recordBlock_of_alike same) described
  have responses : catalog.described.map (resolvedResponse catalog) =
      other.described.map (resolvedResponse other) :=
    map_eq_of_forall₂ (resolvedResponse_of_alike injective alike) described
  have lookups : ∀ name typeName, lookupType name typeName catalog =
      lookupType name typeName other := by
    intro name typeName
    refine congrArg (ObjectDeclaration.mk name []) (map_eq_of_forall₂ ?_ described)
    intro c d same
    rw [same.name]
  rw [resolvedModule, resolvedModule, members, records, responses, recordLookupType,
    recordLookupType, responseLookupType, responseLookupType, lookups, lookups]

end TypeScript

/-- Collections that are alike lead to the same text, and where they lead to none, to failures for
ids that correspond to each other. -/
theorem generate_of_alike (rename : String → String) (injective : Function.Injective rename)
    (left right : List Collection)
    (alike : List.Forall₂ (Collection.Alike rename) left right) :
    (∀ text, generate left = .ok text → generate right = .ok text) ∧
      ∀ failure, generate left = .error failure →
        ∃ id, failure = .unresolved ⟨id⟩ ∧
          generate right = .error (.unresolved ⟨rename id⟩) := by
  have sorted := Catalog.ofCollections_of_alike alike
  have first := Catalog.firstDangling?_of_alike injective sorted
  constructor
  · intro text success
    obtain ⟨resolved, rfl⟩ := (generate_eq_ok_iff left text).mp success
    rw [resolved] at first
    rw [generate_eq_ok_iff, TypeScript.resolvedModule_of_alike injective sorted]
    exact ⟨first, rfl⟩
  · intro failure failed
    rw [generate_settle, settle_eq_error_iff, Option.map_eq_some_iff] at failed
    obtain ⟨id, dangling, rfl⟩ := failed
    refine ⟨id, rfl, ?_⟩
    rw [generate_settle, first, dangling]
    rfl

namespace Guestbook

/-- Different ids stay different behind a prefix. -/
def withPrefix (id : String) : String :=
  "pb_" ++ id

/-- The guest book with other ids, and with other values wherever they are not shown. -/
def renamed : List Collection :=
  [{ id := "pb_g", name := "guest book\nexport type X = \x7b", kind := .base, system := true
     rules := ⟨some "", none, some "id != 1", none, some ""⟩
     schema := some
       [⟨"f1", "mood", .select (some ["\"fine\"", "so\nso", "\"fine\""]) (some 9), true, false,
          true⟩,
        ⟨"f2", "answers", .relation "pb_g" (some 0), true, false, false⟩,
        ⟨"f3", "visitor?: any\n\x7d", .relation "pb_v" (some 1), false, false, true⟩,
        ⟨"", "$details", .json, false, false, true⟩]
     options := some (.bool true) },
   { Collection.withoutSchema "pb_v" "visitors" .auth with
     rules := ⟨none, some "", none, none, none⟩, options := some .null }]

/-- Without the visitors the relation to them dangles. -/
theorem generate_guestbook_renamed :
    Function.Injective withPrefix ∧
      List.Forall₂ (Collection.Alike withPrefix) guestbook renamed ∧
      (∃ text, generate guestbook = .ok text ∧ generate renamed = .ok text) ∧
      generate (guestbook.take 1) = .error (.unresolved ⟨"v"⟩) ∧
      generate (renamed.take 1) = .error (.unresolved ⟨"pb_v"⟩) := by
  have injective : Function.Injective withPrefix := by
    intro left right same
    simpa [withPrefix] using same
  have alike : List.Forall₂ (Collection.Alike withPrefix) guestbook renamed := by
    refine .cons ⟨by decide, rfl, rfl, .some ?_⟩ (.cons ⟨by decide, rfl, rfl, .none⟩ .nil)
    refine .cons ⟨rfl, rfl, .select _ (by decide)⟩ ?_
    refine .cons ⟨rfl, rfl, .relation "g" (by decide)⟩ ?_
    refine .cons ⟨rfl, rfl, .relation "v" (by decide)⟩ ?_
    exact .cons ⟨rfl, rfl, .json⟩ .nil
  have success := generate_of_resolved guestbook_resolved
  have failed : generate (guestbook.take 1) = .error (.unresolved ⟨"v"⟩) := by
    rw [generate_settle, (by decide : (Catalog.ofCollections (guestbook.take 1)).firstDangling? =
      some "v")]
    rfl
  refine ⟨injective, alike, ⟨_, success, ?_⟩, failed, ?_⟩
  · exact (generate_of_alike withPrefix injective guestbook renamed alike).1 _ success
  · obtain ⟨id, same, renamedFailed⟩ := (generate_of_alike withPrefix injective (guestbook.take 1)
      (renamed.take 1) (List.forall₂_take 1 alike)).2 _ failed
    cases same
    exact renamedFailed

end Guestbook

end CollectionTypes
