import CollectionTypes.Proofs.ExportLines
import Mathlib.Data.List.Nodup
import Mathlib.Data.List.Perm.Basic

/-!
# Declared names

Which names a generated text declares, read off its export lines, and when they differ from each
other. A name tells by its ending whether it is a record type, a response type or an option enum, so
names of different sorts never meet. Within one sort they are kept apart by pascal case alone, which
drops separators: two names of a database that differ in nothing else are declared twice.

Specification: sections 4.3, 4.7 and 11 (one member for each collection).
-/

namespace CollectionTypes.TypeScript

open Text (isNameChar)

/-- What stands behind the two keywords of an export line, up to a blank or the parameters. -/
def declaredName (line : String) : String :=
  String.ofList ((line.toList.drop "export type ".length).takeWhile fun c => c != ' ' && c != '<')

def declaredNames (text : String) : List String :=
  (exportLines (textLines text)).map declaredName

/-- The names of the option enums of a collection, without their common ending. -/
def optionStems (c : Collection) : List String :=
  c.fields.filterMap fun field =>
    match field.kind with
    | .select (some _) _ => some (pascalCase c.name ++ pascalCase field.name)
    | _ => none

/-- Pascal case keeps apart what the names of declarations are made from. -/
structure NamesApart (collections : List Collection) : Prop where
  names : ((collections.filter (·.declaresSchema)).map fun c => pascalCase c.name).Nodup
  options : ((collections.filter (·.declaresSchema)).flatMap optionStems).Nodup

def fixedNames : List String :=
  ["Collections", "IsoDateString", "RecordIdString", "BaseSystemFields", "AuthSystemFields",
   "CollectionRecords", "CollectionResponses"]

/-- The names declared in front of the look-up types. -/
def leadingNames (described : List Collection) : List String :=
  ["Collections", "IsoDateString", "RecordIdString", "BaseSystemFields", "AuthSystemFields"] ++
  described.flatMap (fun c => (optionStems c).map (· ++ "Options") ++ [recordTypeName c.name]) ++
  described.map fun c => responseTypeName c.name

/-- The names that some described collections add to the fixed ones, sort by sort. -/
def ownNames (described : List Collection) : List String :=
  (described.flatMap optionStems).map (· ++ "Options") ++
    (described.map fun c => pascalCase c.name).map (· ++ "Record") ++
    (described.map fun c => pascalCase c.name).map (· ++ "Response")

section Reading

def isWord (s : String) : Bool :=
  s.toList.all isNameChar

theorem isWord_append {s t : String} (first : isWord s = true) (second : isWord t = true) :
    isWord (s ++ t) = true := by
  rw [isWord, String.toList_append, List.all_append]
  exact Bool.and_eq_true_iff.mpr ⟨first, second⟩

theorem isWord_pascalCase (name : String) : isWord (pascalCase name) = true :=
  List.all_eq_true.mpr fun _ member => isNameChar_of_mem_pascalCase member

theorem isWord_recordTypeName (collection : String) : isWord (recordTypeName collection) = true :=
  isWord_append (isWord_pascalCase collection) (by decide)

theorem isWord_responseTypeName (collection : String) :
    isWord (responseTypeName collection) = true :=
  isWord_append (isWord_pascalCase collection) (by decide)

theorem isWord_optionEnumName (collection field : String) :
    isWord (optionEnumName collection field) = true :=
  isWord_append (isWord_append (isWord_pascalCase collection) (isWord_pascalCase field)) (by decide)

/-- A name goes on to its end for those who look for a blank or a bracket. -/
theorem continues_of_isWord {name : String} (word : isWord name = true) :
    ∀ c ∈ name.toList, (c != ' ' && c != '<') = true := by
  intro c member
  have nameChar := List.all_eq_true.mp word c member
  rw [Bool.and_eq_true, bne_iff_ne, bne_iff_ne]
  constructor
  · rintro rfl
    exact absurd nameChar (by decide)
  · rintro rfl
    exact absurd nameChar (by decide)

/-- A text that comes behind a name and does not continue it. -/
def EndsName (rest : String) : Prop :=
  rest.toList.head? = some ' ' ∨ rest.toList.head? = some '<'

theorem declaredName_append {keyword name rest : String}
    (two : keyword.toList.length = "export type ".length)
    (word : isWord name = true) (ends : EndsName rest) :
    declaredName (keyword ++ name ++ rest) = name := by
  have outside : rest.toList.takeWhile (fun c => c != ' ' && c != '<') = [] := by
    cases behind : rest.toList with
    | nil => rfl
    | cons c others =>
      rw [EndsName, behind] at ends
      rcases ends with blank | bracket
      · rw [Option.some.inj blank]
        rfl
      · rw [Option.some.inj bracket]
        rfl
  rw [declaredName, String.toList_append, String.toList_append, List.append_assoc, ← two,
    List.drop_left, List.takeWhile_append_of_pos (continues_of_isWord word), outside,
    List.append_nil, String.ofList_toList]

/-- Parameters begin with a bracket; without any the text behind them ends the name. -/
theorem declaredName_parameters {keyword name rest : String} (parameters : List String)
    (two : keyword.toList.length = "export type ".length)
    (word : isWord name = true) (ends : EndsName rest) :
    declaredName (keyword ++ name ++ parameterDeclaration parameters ++ rest) = name := by
  rw [String.append_assoc, parameterDeclaration, angled]
  split
  · rw [String.empty_append]
    exact declaredName_append two word ends
  · refine declaredName_append two word (Or.inr ?_)
    simp only [String.toList_append]
    rfl

theorem declaredName_recordHeader (c : Collection) :
    declaredName (recordHeader c) = recordTypeName c.name :=
  declaredName_parameters _ (by decide) (isWord_recordTypeName c.name) (Or.inl (by decide))

/-- The name of a type that is defined on the same line, with anything behind the definition. -/
theorem declaredName_definition {name : String} (parameters : List String)
    (definition behind : String) (word : isWord name = true) :
    declaredName ("export type " ++ name ++ parameterDeclaration parameters ++ " = " ++
      definition ++ behind) = name := by
  -- Said of any texts, since matching `++` with a literal takes long.
  have assoc : ∀ start equals definition behind : String,
      start ++ equals ++ definition ++ behind = start ++ (equals ++ (definition ++ behind)) := by
    intro start equals definition behind
    rw [String.append_assoc, String.append_assoc]
  refine (congrArg declaredName (assoc _ _ _ _)).trans ?_
  refine declaredName_parameters parameters (by decide) word (Or.inl ?_)
  rw [String.toList_append]
  rfl

theorem declaredName_responseHeader (c : Collection) :
    declaredName (responseHeader c) = responseTypeName c.name :=
  declaredName_definition _ _ _ (isWord_responseTypeName c.name)

theorem declaredName_optionEnumHeaders (c : Collection) :
    (optionEnumHeaders c).map declaredName = (optionStems c).map (· ++ "Options") := by
  rw [optionEnumHeaders, optionStems, List.map_filterMap, List.map_filterMap]
  apply List.filterMap_congr
  intro field _
  cases field.kind with
  | select values limit =>
    cases values with
    | none => simp only [Option.map_none]
    | some values =>
      refine congrArg some (declaredName_append (by decide) ?_ (Or.inl (by decide)))
      apply isWord_append _ (by decide)
      exact isWord_append (isWord_pascalCase c.name) (isWord_pascalCase field.name)
  | _ => simp only [Option.map_none]

/-- In a text the option enums of a collection stand before its record type. -/
private theorem ownNames_perm {sorted described : List Collection}
    (perm : sorted.Perm described) :
    ((sorted.flatMap fun c => (optionStems c).map (· ++ "Options") ++ [recordTypeName c.name]) ++
      sorted.map fun c => responseTypeName c.name).Perm (ownNames described) := by
  have blocks : ((sorted.flatMap fun c => (optionStems c).map (· ++ "Options")) ++
      sorted.map fun c => recordTypeName c.name).Perm
        (sorted.flatMap fun c =>
          (optionStems c).map (· ++ "Options") ++ [recordTypeName c.name]) := by
    rw [List.map_eq_flatMap]
    exact List.flatMap_append_perm sorted _ _
  refine (blocks.symm.append_right _).trans ?_
  rw [ownNames, List.map_flatMap, List.map_map, List.map_map]
  exact ((perm.flatMap_right _).append (perm.map _)).append (perm.map _)

theorem declaredName_leadingHeaders (described : List Collection) :
    (leadingHeaders described).map declaredName = leadingNames described := by
  have fixed : ["export enum Collections \x7b", "export type IsoDateString = string",
      "export type RecordIdString = string", "export type BaseSystemFields = \x7b",
      "export type AuthSystemFields = \x7b"].map declaredName =
      ["Collections", "IsoDateString", "RecordIdString", "BaseSystemFields",
        "AuthSystemFields"] := by
    decide +kernel
  rw [leadingHeaders, List.map_append, List.map_append, fixed, List.map_flatMap, List.map_map]
  simp only [List.map_append, declaredName_optionEnumHeaders, List.map_cons, List.map_nil,
    declaredName_recordHeader, Function.comp_def, declaredName_responseHeader]
  rfl

/-- The names that a text declares, in the order of its lines. -/
theorem declaredNames_resolvedModule {catalog : Catalog}
    (resolved : catalog.firstDangling? = none) :
    declaredNames (resolvedModule catalog).text =
      leadingNames catalog.described ++ ["CollectionRecords", "CollectionResponses"] := by
  have lookups : ["export type CollectionRecords = \x7b",
      "export type CollectionResponses = \x7b"].map declaredName =
      ["CollectionRecords", "CollectionResponses"] := by decide +kernel
  rw [declaredNames, textLines_text, exportLines_resolvedModule resolved, List.map_append,
    declaredName_leadingHeaders, lookups]

/-- The names that a text declares: the fixed ones, and those of the collections with a schema. -/
theorem declaredNames_perm (collections : List Collection)
    (resolved : (Catalog.ofCollections collections).firstDangling? = none) :
    (declaredNames (resolvedModule (.ofCollections collections)).text).Perm
      (fixedNames ++ ownNames (collections.filter (·.declaresSchema))) := by
  have described : (Catalog.ofCollections collections).described.Perm
      (collections.filter (·.declaresSchema)) :=
    (Catalog.ofCollections_perm collections).filter _
  have own := ownNames_perm described
  have fixed : fixedNames = ["Collections", "IsoDateString", "RecordIdString", "BaseSystemFields",
      "AuthSystemFields"] ++ ["CollectionRecords", "CollectionResponses"] := rfl
  rw [declaredNames_resolvedModule resolved, leadingNames, fixed, List.append_assoc,
    List.append_assoc, List.append_assoc]
  -- The look-up types stand last in a text, and with the other fixed names here.
  refine List.Perm.append_left _ ?_
  rw [← List.append_assoc]
  exact List.perm_append_comm.trans (own.append_left _)

end Reading

section Endings

private theorem nodup_append_iff {left right : List String}
    (apart : ∀ x ∈ left, ∀ y ∈ right, x ≠ y) :
    (left ++ right).Nodup ↔ left.Nodup ∧ right.Nodup := by
  rw [List.nodup_append]
  exact ⟨fun ⟨first, second, _⟩ => ⟨first, second⟩, fun ⟨first, second⟩ => ⟨first, second, apart⟩⟩

private theorem nodup_map_append_iff (names : List String) (ending : String) :
    (names.map (· ++ ending)).Nodup ↔ names.Nodup :=
  List.nodup_map_iff fun _ _ same => (String.append_left_inj ending).mp same

theorem suffix_of_ending (s ending : String) : ending.toList <:+ (s ++ ending).toList := by
  rw [String.toList_append]
  exact List.suffix_append _ _

/-- Of two endings of one name, one is an ending of the other. -/
theorem not_suffix_of_apart {a b : String}
    (apart : ¬ a.toList <:+ b.toList ∧ ¬ b.toList <:+ a.toList) (s : String) :
    ¬ a.toList <:+ (s ++ b).toList := fun suffix =>
  (List.suffix_or_suffix_of_suffix suffix (suffix_of_ending s b)).elim apart.1 apart.2

private theorem map_append_apart {left right : List String} {a b : String}
    (apart : ¬ a.toList <:+ b.toList ∧ ¬ b.toList <:+ a.toList) :
    ∀ x ∈ left.map (· ++ a), ∀ y ∈ right.map (· ++ b), x ≠ y := by
  intro x inLeft y inRight
  obtain ⟨s, _, rfl⟩ := List.mem_map.mp inLeft
  obtain ⟨t, _, rfl⟩ := List.mem_map.mp inRight
  intro same
  exact not_suffix_of_apart apart t (same ▸ suffix_of_ending s a)

theorem fixedNames_endings : ∀ name ∈ fixedNames, ∀ ending ∈
    ["Options", "Record", "Response"], ¬ ending.toList <:+ name.toList := by
  decide

private theorem fixedNames_apart {described : List Collection} :
    ∀ x ∈ fixedNames, ∀ y ∈ ownNames described, x ≠ y := by
  rintro x fixed y own rfl
  have other : ∀ (names : List String) (ending : String),
      ending ∈ ["Options", "Record", "Response"] → x ∉ names.map (· ++ ending) := by
    intro names ending oneOf member
    obtain ⟨s, _, rfl⟩ := List.mem_map.mp member
    exact fixedNames_endings _ fixed ending oneOf (suffix_of_ending s ending)
  simp only [ownNames, List.mem_append] at own
  rcases own with (asOptions | asRecord) | asResponse
  · exact other _ _ (by simp) asOptions
  · exact other _ _ (by simp) asRecord
  · exact other _ _ (by simp) asResponse

private theorem nodup_sorts_iff (options names : List String) :
    (options.map (· ++ "Options") ++ names.map (· ++ "Record") ++
      names.map (· ++ "Response")).Nodup ↔ options.Nodup ∧ names.Nodup := by
  have records : ∀ x ∈ options.map (· ++ "Options"), ∀ y ∈ names.map (· ++ "Record"), x ≠ y :=
    map_append_apart (by decide)
  have responses : ∀ x ∈ options.map (· ++ "Options") ++ names.map (· ++ "Record"),
      ∀ y ∈ names.map (· ++ "Response"), x ≠ y := by
    intro x inFront
    rcases List.mem_append.mp inFront with asOptions | asRecord
    · exact map_append_apart (by decide) x asOptions
    · exact map_append_apart (by decide) x asRecord
  rw [nodup_append_iff responses, nodup_append_iff records, nodup_map_append_iff,
    nodup_map_append_iff, nodup_map_append_iff]
  exact ⟨fun ⟨first, _⟩ => first, fun both => ⟨both, both.2⟩⟩

/-- Names can only meet those of their own sort. -/
theorem nodup_moduleNames_iff (collections : List Collection) :
    (fixedNames ++ ownNames (collections.filter (·.declaresSchema))).Nodup ↔
      NamesApart collections := by
  have fixed : fixedNames.Nodup := by decide
  rw [nodup_append_iff fixedNames_apart, ownNames, nodup_sorts_iff]
  constructor
  · rintro ⟨_, options, names⟩
    exact ⟨names, options⟩
  · rintro ⟨names, options⟩
    exact ⟨fixed, options, names⟩

end Endings

/-- The names in the enum of the collections, and those that a text declares, differ from each other
just where pascal case keeps apart the names that they are made from. -/
theorem generate_names_distinct_iff (collections : List Collection) (text : String)
    (success : CollectionTypes.generate collections = .ok text) :
    ∃ m, Module.ofCatalog (.ofCollections collections) = .ok m ∧ m.text = text ∧
      ((m.collections.members.map (·.key)).Nodup ↔
        (collections.map fun c => pascalCase c.name).Nodup) ∧
      ((declaredNames text).Nodup ↔ NamesApart collections) := by
  obtain ⟨resolved, rfl⟩ := (generate_eq_ok_iff collections text).mp success
  refine ⟨resolvedModule (.ofCollections collections), Module.ofCatalog_of_resolved resolved, rfl,
    ?_, ?_⟩
  · have keys : (resolvedModule (.ofCollections collections)).collections.members.map (·.key) =
        ((Catalog.nameOrder collections).map fun c => pascalCase c.name).map EnumKey.bare := by
      rw [resolvedModule, collectionsEnum, Catalog.ofCollections_eq_nameOrder, List.map_map,
        List.map_map]
      rfl
    rw [keys, List.nodup_map_iff fun _ _ same => EnumKey.bare.inj same]
    exact ((Catalog.nameOrder_perm collections).map _).nodup_iff
  · rw [(declaredNames_perm collections resolved).nodup_iff, nodup_moduleNames_iff]

theorem guestbook_names_distinct :
    ∃ text m, CollectionTypes.generate guestbook = .ok text ∧
      Module.ofCatalog (.ofCollections guestbook) = .ok m ∧ m.text = text ∧
      (m.collections.members.map (·.key)).Nodup ∧ (declaredNames text).Nodup := by
  have success := generate_of_resolved guestbook_resolved
  obtain ⟨m, isModule, same, members, names⟩ := generate_names_distinct_iff guestbook _ success
  exact ⟨_, m, success, isModule, same, members.mpr (by decide),
    names.mpr ⟨by decide, by decide⟩⟩

/-- The names differ in separators only, in two collections and in two fields of the first. -/
def lookalikes : List Collection :=
  [{ Collection.withoutFields "u" "user_profiles" .base with
      schema := some
        [.plain "meta-info" (.select (some ["a"]) none),
         .plain "meta_info" (.select (some ["b"]) none)] },
   .withoutFields "v" "user-profiles" .base]

/-- Names of a database that differ from each other can be declared twice. -/
theorem lookalikes_declared_twice :
    (lookalikes.map (·.name)).Nodup ∧ (∀ c ∈ lookalikes, (c.fields.map (·.name)).Nodup) ∧
      ∃ text m, CollectionTypes.generate lookalikes = .ok text ∧
        Module.ofCatalog (.ofCollections lookalikes) = .ok m ∧ m.text = text ∧
        m.collections.members.map (·.key) = [.bare "UserProfiles", .bare "UserProfiles"] ∧
        (declaredNames text).Perm (fixedNames ++
          ["UserProfilesMetaInfoOptions", "UserProfilesMetaInfoOptions", "UserProfilesRecord",
           "UserProfilesRecord", "UserProfilesResponse", "UserProfilesResponse"]) ∧
        ¬ (m.collections.members.map (·.key)).Nodup ∧ ¬ (declaredNames text).Nodup := by
  have resolved : (Catalog.ofCollections lookalikes).firstDangling? = none := by decide
  have declared := declaredNames_perm lookalikes resolved
  have own : ownNames (lookalikes.filter (·.declaresSchema)) =
      ["UserProfilesMetaInfoOptions", "UserProfilesMetaInfoOptions", "UserProfilesRecord",
       "UserProfilesRecord", "UserProfilesResponse", "UserProfilesResponse"] := by decide
  rw [own] at declared
  refine ⟨by decide, by decide, _, _, generate_of_resolved resolved,
    Module.ofCatalog_of_resolved resolved, rfl, by decide, declared, by decide, ?_⟩
  rw [declared.nodup_iff]
  decide

end CollectionTypes.TypeScript
