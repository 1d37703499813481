import CollectionTypes.Proofs.DeclaredNames
import CollectionTypes.Proofs.References

/-!
# Captured names

A type parameter hides a type of the same name within the declaration that introduces it. Parameters
begin with `T` and keep the letters and digits of the field they are for; names of types come from
pascal case. The two are made apart from each other, so a reference that is meant for a type of the
module can fall to a parameter. When this happens is settled here, reference by reference.

Specification: sections 4.2 and 4.5.
-/

namespace CollectionTypes.TypeScript

open Text (isNameChar)

/-- The declaration refers to a type by a name that one of its own parameters has. -/
def ObjectDeclaration.Captures (d : ObjectDeclaration) (name : String) : Prop :=
  name ∈ d.parameters ∧ name ∈ d.references

def ResponseDeclaration.Captures (d : ResponseDeclaration) (name : String) : Prop :=
  name ∈ d.parameters ∧ name ∈ d.references

/-- A json field has a name of letters and digits, and its parameter is the given name. -/
def TakenByField (fields : List Field) (name : String) : Prop :=
  ∃ field ∈ fields, field.kind = .json ∧ field.name.toList.all Char.isAlphanum = true ∧
    name = "T" ++ field.name

section Parameters

variable {fields : List Field} {name : String}

theorem parameterChar_of_isAlphanum {c : Char} (letter : c.isAlphanum = true) :
    parameterChar c = [c] := by
  rw [parameterChar, isWordChar, letter, Bool.true_or, if_pos rfl]

/-- An underscore and the sign of an escape are in no name of a type. -/
theorem isAlphanum_of_parameterChar {c : Char}
    (word : ∀ d ∈ parameterChar c, isNameChar d = true) : c.isAlphanum = true := by
  have noEscape : isNameChar '$' ≠ true := by decide
  rw [parameterChar] at word
  split at word
  next inWord =>
    rcases Bool.or_eq_true_iff.mp inWord with letter | underscore
    · exact letter
    · have nameChar := word c List.mem_cons_self
      rw [of_decide_eq_true underscore] at nameChar
      exact absurd nameChar (by decide)
  · split at word
    · exact absurd (word '$' List.mem_cons_self) noEscape
    · exact absurd (word '$' List.mem_cons_self) noEscape

theorem parameterName_of_isAlphanum {field : String}
    (letters : field.toList.all Char.isAlphanum = true) : parameterName field = "T" ++ field := by
  have kept : field.toList.flatMap parameterChar = field.toList := by
    have each : ∀ c ∈ field.toList, parameterChar c = [c] :=
      fun c member => parameterChar_of_isAlphanum (List.all_eq_true.mp letters c member)
    rw [List.flatMap_congr each, List.flatMap_singleton']
  apply String.toList_inj.mp
  rw [parameterName, kept, String.toList_ofList, String.toList_append]
  rfl

/-- The parameters that are made of the characters of type names. -/
theorem mem_parametersOf_iff (word : isWord name = true) :
    name ∈ parametersOf fields ↔ TakenByField fields name := by
  rw [parametersOf, List.mem_map]
  constructor
  · rintro ⟨field, member, rfl⟩
    obtain ⟨declared, json⟩ := List.mem_filter.mp member
    have letters : field.name.toList.all Char.isAlphanum = true := by
      apply List.all_eq_true.mpr
      intro c inName
      apply isAlphanum_of_parameterChar
      intro d escaped
      refine List.all_eq_true.mp word d ?_
      rw [parameterName, String.toList_ofList]
      exact List.mem_cons_of_mem _ (List.mem_flatMap.mpr ⟨c, inName, escaped⟩)
    exact ⟨field, declared, beq_iff_eq.mp json, letters, parameterName_of_isAlphanum letters⟩
  · rintro ⟨field, declared, json, letters, rfl⟩
    refine ⟨field, List.mem_filter.mpr ⟨declared, beq_iff_eq.mpr json⟩, ?_⟩
    exact parameterName_of_isAlphanum letters

/-- Parameters begin with `T`. -/
theorem head_of_takenByField (taken : TakenByField fields name) :
    name.toList.head? = some 'T' := by
  obtain ⟨field, _, _, _, rfl⟩ := taken
  rw [String.toList_append]
  rfl

end Parameters

section References

variable {catalog : Catalog} {c : Collection} {name : String}

/-- The type of a field of `collection` names the option enum of that field. -/
def NamesOptions (collection : String) (field : Field) (name : String) : Prop :=
  (∃ values limit, field.kind = .select (some values) limit) ∧
    name = optionEnumName collection field.name

theorem reference?_of_namesOptions {collection : String} {field : Field}
    (names : NamesOptions collection field name) :
    (fieldType collection field).reference? = some name := by
  obtain ⟨⟨values, limit, kind⟩, rfl⟩ := names
  simp only [fieldType, kind, TypeExpr.reference?_ofCount, Scalar.reference?]

theorem namesOptions_of_reference? {collection : String} {field : Field}
    (named : (fieldType collection field).reference? = some name) :
    NamesOptions collection field name ∨ name ∈ [dateAlias, recordIdAlias] := by
  cases kind : field.kind with
  | select values limit =>
    cases values with
    | none => simp [fieldType, kind, Scalar.reference?] at named
    | some values =>
      simp only [fieldType, kind, TypeExpr.reference?_ofCount, Scalar.reference?,
        Option.some.injEq] at named
      exact Or.inl ⟨⟨values, limit, kind⟩, named.symm⟩
  | date =>
    simp only [fieldType, kind, TypeExpr.reference?, Scalar.reference?, Option.some.injEq] at named
    simp [← named]
  | relation _ limit | user limit =>
    simp only [fieldType, kind, TypeExpr.reference?_ofCount, Scalar.reference?,
      Option.some.injEq] at named
    simp [← named]
  | text | email | url | number | bool | json =>
    simp [fieldType, kind, TypeExpr.reference?, Scalar.reference?] at named
  | file limit => simp [fieldType, kind, Scalar.reference?] at named

/-- The types that are the same in every module are out of reach of a parameter. -/
theorem not_takenByField_fixed {fields : List Field} : ∀ name ∈ fixedNames,
    ¬ TakenByField fields name := by
  intro name fixed taken
  have heads : ∀ name ∈ fixedNames, name.toList.head? ≠ some 'T' := by decide
  exact heads name fixed (head_of_takenByField taken)

/-- Beside its own option enums a record type refers to the aliases only. -/
theorem mem_references_recordType (taken : TakenByField c.fields name) :
    name ∈ (recordType c).references ↔ ∃ field ∈ c.fields, NamesOptions c.name field name := by
  rw [ObjectDeclaration.references, recordType, List.mem_filterMap]
  constructor
  · rintro ⟨p, inProperties, named⟩
    obtain ⟨field, declared, rfl⟩ := List.mem_map.mp inProperties
    rcases namesOptions_of_reference? named with options | asAlias
    · exact ⟨field, declared, options⟩
    · have fixed : ∀ shared ∈ [dateAlias, recordIdAlias], shared ∈ fixedNames := by decide
      exact absurd taken (not_takenByField_fixed name (fixed name asAlias))
  · rintro ⟨field, declared, options⟩
    exact ⟨fieldProperty c.name field, List.mem_map_of_mem declared,
      reference?_of_namesOptions options⟩

/-- A relation of `c` leads to a collection that has the response type. -/
def NamesResponse (catalog : Catalog) (c : Collection) (name : String) : Prop :=
  ∃ field ∈ c.fields, ∃ target limit, field.kind = .relation target.id limit ∧
    catalog.lookup? target.id = some target ∧ target.declaresSchema = true ∧
    name = responseTypeName target.name

/-- Beside its record type a response type refers to the response types of the targets of its
relations, and else to system fields only. -/
theorem mem_references_resolvedResponse (taken : TakenByField c.fields name) :
    name ∈ (resolvedResponse catalog c).references ↔
      name = recordTypeName c.name ∨ NamesResponse catalog c name := by
  have noSystem : name ≠ systemFieldsOf c.kind := by
    rintro rfl
    refine not_takenByField_fixed _ ?_ taken
    cases c.kind <;> decide
  rw [ResponseDeclaration.references, List.mem_cons, List.mem_cons]
  constructor
  · rintro (record | system | inExpand)
    · exact Or.inl record
    · exact absurd system noSystem
    · obtain ⟨p, inProperties, named⟩ := List.mem_filterMap.mp inExpand
      obtain ⟨target, field, declared, limit, kind, lookup, rfl⟩ := expandsTo_of_mem inProperties
      rw [expandedProperty, TypeExpr.reference?_ofCount, expandedType, Scalar.reference?] at named
      cases schema : target.declaresSchema with
      | true =>
        rw [schema, if_pos rfl, Option.some.injEq] at named
        exact Or.inr ⟨field, declared, target, limit, kind, lookup, schema, named.symm⟩
      | false =>
        rw [schema, if_neg Bool.false_ne_true, Option.some.injEq] at named
        refine absurd taken (not_takenByField_fixed name ?_)
        rw [← named]
        cases target.kind <;> decide
  · rintro (record | ⟨field, declared, target, limit, kind, lookup, schema, rfl⟩)
    · exact Or.inl record
    · refine Or.inr (Or.inr (List.mem_filterMap.mpr
        ⟨expandedProperty field.name limit target, ?_, ?_⟩))
      · refine List.mem_filterMap.mpr ⟨field, declared, ?_⟩
        rw [expandedProperty?, kind]
        simp only [lookup, Option.map_some]
      · rw [expandedProperty, TypeExpr.reference?_ofCount, expandedType, schema, if_pos rfl]
        rfl

end References

section Captures

variable {catalog : Catalog} {c : Collection} {name : String}

private theorem isWord_systemFieldsOf (kind : CollectionKind) :
    isWord (systemFieldsOf kind) = true := by
  cases kind <;> decide

theorem isWord_of_mem_references_recordType (referenced : name ∈ (recordType c).references) :
    isWord name = true := by
  obtain ⟨p, inProperties, named⟩ := List.mem_filterMap.mp referenced
  obtain ⟨field, _, rfl⟩ := List.mem_map.mp inProperties
  rcases namesOptions_of_reference? named with ⟨_, rfl⟩ | asAlias
  · exact isWord_optionEnumName _ _
  · have words : ∀ shared ∈ [dateAlias, recordIdAlias], isWord shared = true := by decide
    exact words name asAlias

theorem isWord_of_mem_references_resolvedResponse
    (referenced : name ∈ (resolvedResponse catalog c).references) : isWord name = true := by
  rcases List.mem_cons.mp referenced with rfl | others
  · exact isWord_recordTypeName c.name
  rcases List.mem_cons.mp others with rfl | inExpand
  · exact isWord_systemFieldsOf c.kind
  · obtain ⟨p, inProperties, named⟩ := List.mem_filterMap.mp inExpand
    obtain ⟨target, field, _, limit, _, _, rfl⟩ := expandsTo_of_mem inProperties
    rw [expandedProperty, TypeExpr.reference?_ofCount, expandedType, Scalar.reference?] at named
    rw [← Option.some.inj named]
    split
    · exact isWord_responseTypeName target.name
    · exact isWord_systemFieldsOf target.kind

theorem captures_recordType_iff :
    (recordType c).Captures name ↔ TakenByField c.fields name ∧
      ∃ field ∈ c.fields, NamesOptions c.name field name := by
  constructor
  · rintro ⟨parameter, referenced⟩
    have isWord := isWord_of_mem_references_recordType referenced
    have taken := (mem_parametersOf_iff isWord).mp parameter
    exact ⟨taken, (mem_references_recordType taken).mp referenced⟩
  · rintro ⟨taken, options⟩
    have referenced := (mem_references_recordType taken).mpr options
    have word := isWord_of_mem_references_recordType referenced
    exact ⟨(mem_parametersOf_iff word).mpr taken, referenced⟩

theorem captures_resolvedResponse_iff :
    (resolvedResponse catalog c).Captures name ↔ TakenByField c.fields name ∧
      (name = recordTypeName c.name ∨ NamesResponse catalog c name) := by
  constructor
  · rintro ⟨parameter, referenced⟩
    have word := isWord_of_mem_references_resolvedResponse referenced
    have taken := (mem_parametersOf_iff word).mp parameter
    exact ⟨taken, (mem_references_resolvedResponse taken).mp referenced⟩
  · rintro ⟨taken, types⟩
    have referenced : name ∈ (resolvedResponse catalog c).references :=
      (mem_references_resolvedResponse taken).mpr types
    have word := isWord_of_mem_references_resolvedResponse referenced
    exact ⟨(mem_parametersOf_iff word).mpr taken, referenced⟩

end Captures

/-- Where the names of a module fall to parameters: `T` and the name of a json field of letters and
digits spell an option enum in the record type, or in the response type the record type or the
response type of the target of a relation. Nothing else is ever captured. -/
theorem generate_captures_iff (collections : List Collection) (text : String)
    (success : CollectionTypes.generate collections = .ok text) :
    ∃ m, Module.ofCatalog (.ofCollections collections) = .ok m ∧ m.text = text ∧
      (∀ block ∈ m.records, ∃ c ∈ collections, block = .ofCollection c ∧
        ∀ name, block.record.Captures name ↔ TakenByField c.fields name ∧
          ∃ field ∈ c.fields, NamesOptions c.name field name) ∧
      ∀ r ∈ m.responses, ∃ c ∈ collections, responseType (.ofCollections collections) c = .ok r ∧
        ∀ name, r.Captures name ↔ TakenByField c.fields name ∧
          (name = recordTypeName c.name ∨ NamesResponse (.ofCollections collections) c name) := by
  obtain ⟨resolved, rfl⟩ := (generate_eq_ok_iff collections text).mp success
  refine ⟨resolvedModule (.ofCollections collections), Module.ofCatalog_of_resolved resolved, rfl,
    ?_, ?_⟩
  · intro block inRecords
    obtain ⟨c, described, rfl⟩ := List.mem_map.mp inRecords
    have member := (List.mem_filter.mp described).1
    exact ⟨c, (Catalog.mem_ofCollections collections c).mp member, rfl,
      fun name => captures_recordType_iff⟩
  · intro r inResponses
    obtain ⟨c, described, rfl⟩ := List.mem_map.mp inResponses
    have member := (List.mem_filter.mp described).1
    exact ⟨c, (Catalog.mem_ofCollections collections c).mp member,
      responseType_of_resolved resolved member, fun name => captures_resolvedResponse_iff⟩

/-- The parameter of the guest book has an escape in it. -/
theorem guestbook_captures_nothing :
    ∃ text m, CollectionTypes.generate guestbook = .ok text ∧
      Module.ofCatalog (.ofCollections guestbook) = .ok m ∧ m.text = text ∧
      (∀ block ∈ m.records, ∀ name, ¬ block.record.Captures name) ∧
      ∀ r ∈ m.responses, ∀ name, ¬ r.Captures name := by
  have success := generate_of_resolved guestbook_resolved
  obtain ⟨m, isModule, same, records, responses⟩ := generate_captures_iff guestbook _ success
  have free : ∀ c ∈ guestbook, ∀ name, ¬ TakenByField c.fields name := by
    have noField : ∀ c ∈ guestbook, ∀ field ∈ c.fields, field.kind = .json →
        field.name.toList.all Char.isAlphanum ≠ true := by decide
    rintro c member name ⟨field, declared, json, letters, _⟩
    exact noField c member field declared json letters
  refine ⟨_, m, success, isModule, same, ?_, ?_⟩
  · intro block inRecords name captures
    obtain ⟨c, member, _, settled⟩ := records block inRecords
    exact free c member name ((settled name).mp captures).1
  · intro r inResponses name captures
    obtain ⟨c, member, _, settled⟩ := responses r inResponses
    exact free c member name ((settled name).mp captures).1

/-- Three json fields whose names are the rest of a type name that begins with `T`. -/
def tags : Collection :=
  { Collection.withoutFields "t" "tags" .base with
    schema := some
      [.plain "agsKindOptions" .json, .plain "agsRecord" .json, .plain "agsResponse" .json,
       .plain "kind" (.select (some ["topic"]) (some 1)),
       .plain "parent" (.relation "t" (some 1))] }

/-- An option enum, a record type and a response type fall to parameters. -/
theorem tags_captured :
    ∃ text m block response, CollectionTypes.generate [tags] = .ok text ∧
      Module.ofCatalog (.ofCollections [tags]) = .ok m ∧ m.text = text ∧
      m.records = [block] ∧ block.record.Captures "TagsKindOptions" ∧
      m.responses = [response] ∧ response.Captures "TagsRecord" ∧
      response.Captures "TagsResponse" ∧
      response.lines.head? = some ("export type TagsResponse<TagsKindOptions = unknown, " ++
        "TagsRecord = unknown, TagsResponse = unknown> = " ++
        "TagsRecord<TagsKindOptions, TagsRecord, TagsResponse> & BaseSystemFields & \x7b") := by
  have resolved : (Catalog.ofCollections [tags]).firstDangling? = none := by decide
  refine ⟨_, _, RecordBlock.ofCollection tags, resolvedResponse (.ofCollections [tags]) tags,
    generate_of_resolved resolved, Module.ofCatalog_of_resolved resolved, rfl, rfl, ?_, rfl, ?_, ?_,
    ?_⟩
  · exact ⟨by decide, by decide⟩
  · exact ⟨by decide, by decide⟩
  · exact ⟨by decide, by decide⟩
  · decide +kernel

end CollectionTypes.TypeScript
