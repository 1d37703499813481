import CollectionTypes.Proofs.DeclaredNames
import CollectionTypes.Proofs.PascalWords
import Mathlib.Data.List.Find

/-!
# Declared names as identifiers

When the names that a module declares are identifiers. Pascal case drops separators and puts nothing
in their place, so every name made from a collection begins with the first letter or digit of the
collection's own name. Property keys that begin with a digit are written as literals, but there is no
such way out for the name of a declaration: of ASCII names, those that begin with a digit are the
ones that lead to no identifier.

Specification: section 4.7 (names with a leading digit).
-/

namespace CollectionTypes.TypeScript

open Text (isAlphanumeric)

def IsAscii (name : String) : Prop :=
  ∀ c ∈ name.toList, c.toNat < 0x80

instance (name : String) : Decidable (IsAscii name) :=
  List.decidableBAll _ name.toList

/-- A name of ASCII characters that pascal case does not drop altogether. -/
structure Spelled (name : String) : Prop where
  ascii : IsAscii name
  letterOrDigit : name.toList.any Char.isAlphanum = true

instance (name : String) : Decidable (Spelled name) :=
  decidable_of_iff (IsAscii name ∧ name.toList.any Char.isAlphanum = true)
    ⟨fun ⟨ascii, letterOrDigit⟩ => ⟨ascii, letterOrDigit⟩,
      fun ⟨ascii, letterOrDigit⟩ => ⟨ascii, letterOrDigit⟩⟩

/-- The first of the letters and digits of a name is a letter. -/
def beginsWithLetter (name : String) : Bool :=
  (name.toList.find? Char.isAlphanum).any Char.isAlpha

/-- The names that are declared for a collection and a select field of it. -/
def namesFor (collection field : String) : List String :=
  [pascalCase collection, recordTypeName collection, responseTypeName collection,
   optionEnumName collection field]

/-- The module declares the names that are made from a collection: one in the enum of all, two types
where the collection has a schema, and the enums of its select fields. -/
structure DeclaresNamesOf (m : Module) (c : Collection) : Prop where
  member : ⟨.bare (pascalCase c.name), c.name⟩ ∈ m.collections.members
  record : c.declaresSchema = true → recordTypeName c.name ∈ declaredNames m.text
  response : c.declaresSchema = true → responseTypeName c.name ∈ declaredNames m.text
  options : ∀ field ∈ c.fields, (∃ values limit, field.kind = .select (some values) limit) →
    optionEnumName c.name field.name ∈ declaredNames m.text

section Initials

theorem words_cons_letter {c : Char} (letter : isAlphanumeric c = true) (rest : List Char) :
    ∃ word others, words (c :: rest) = (c :: word) :: others := by
  obtain ⟨piece, pieces, split⟩ :=
    List.exists_cons_of_ne_nil (List.splitOnP_ne_nil (fun c => !isAlphanumeric c) rest)
  refine ⟨piece, pieces.filter fun word => !word.isEmpty, ?_⟩
  rw [words, List.splitOnP_cons_eq_if_modifyHead, split, letter]
  rfl

theorem capitalize_cons_of_ascii {c : Char} (ascii : c.toNat < 0x80) (others : Char → List Char)
    (rest : List Char) : capitalize others (c :: rest) = c.toUpper :: rest.flatMap others := by
  rw [capitalize, Text.toUpper, if_pos ascii, List.singleton_append]

/-- Separators in front lead to nothing, and the first word begins with the first letter. -/
theorem head?_flatMap_words {text : List Char} (ascii : ∀ c ∈ text, c.toNat < 0x80)
    (others : Char → List Char) :
    ((words text).flatMap (capitalize others)).head? =
      (text.find? isAlphanumeric).map Char.toUpper := by
  induction text with
  | nil => rfl
  | cons c rest ih =>
    cases letter : isAlphanumeric c with
    | true =>
      obtain ⟨word, more, split⟩ := words_cons_letter letter rest
      rw [split, List.flatMap_cons, capitalize_cons_of_ascii (ascii c List.mem_cons_self),
        List.find?_cons_of_pos letter]
      rfl
    | false =>
      have dropped : words (c :: rest) = words rest := words_append_separator letter [] rest
      rw [dropped, ih fun d member => ascii d (List.mem_cons_of_mem c member),
        List.find?_cons_of_neg (by rw [letter]; exact Bool.false_ne_true)]

theorem head?_pascalChars {text : List Char} (ascii : ∀ c ∈ text, c.toNat < 0x80) :
    (pascalChars text).head? = (text.find? isAlphanumeric).map Char.toUpper := by
  rw [pascalChars]
  split
  next oneWord =>
    cases text with
    | nil => rfl
    | cons c rest =>
      have letter := List.all_eq_true.mp oneWord c List.mem_cons_self
      rw [capitalize_cons_of_ascii (ascii c List.mem_cons_self), List.find?_cons_of_pos letter]
      rfl
  · exact head?_flatMap_words ascii Text.toLower

theorem isAlpha_toUpper {c : Char} (ascii : c.toNat < 0x80) : c.toUpper.isAlpha = c.isAlpha :=
  Text.forall_ascii (P := fun c => c.toUpper.isAlpha = c.isAlpha) (by decide) ascii

variable {name : String}

theorem find?_isAlphanumeric (ascii : IsAscii name) :
    name.toList.find? isAlphanumeric = name.toList.find? Char.isAlphanum :=
  List.find?_congr fun c member => Text.isAlphanumeric_of_ascii (ascii c member)

/-- In pascal case a name begins with its first letter or digit, in upper case if it has one. -/
theorem Spelled.exists_initial (spelled : Spelled name) :
    ∃ first rest, (pascalCase name).toList = first :: rest ∧
      first.isAlpha = beginsWithLetter name := by
  obtain ⟨first, found⟩ : ∃ first, name.toList.find? Char.isAlphanum = some first := by
    rw [← Option.isSome_iff_exists, List.find?_isSome, ← List.any_eq_true]
    exact spelled.letterOrDigit
  have begins := head?_pascalChars spelled.ascii
  rw [find?_isAlphanumeric spelled.ascii, found, Option.map_some] at begins
  obtain ⟨rest, shape⟩ := List.head?_eq_some_iff.mp begins
  refine ⟨first.toUpper, rest, by rw [pascalCase, String.toList_ofList, shape], ?_⟩
  rw [isAlpha_toUpper (spelled.ascii first (List.mem_of_find?_eq_some found)), beginsWithLetter,
    found, Option.any_some]

end Initials

section Identifiers

variable {collection : String}

theorem isIdentifierStart_of_isAlphanum {c : Char} (letter : c.isAlphanum = true) :
    isIdentifierStart c = c.isAlpha := by
  have apart (d : Char) (other : d.isAlphanum = false) : decide (c = d) = false := by
    refine decide_eq_false fun same => ?_
    rw [same, other] at letter
    exact Bool.false_ne_true letter
  rw [isIdentifierStart, apart '_' (by decide), apart '$' (by decide), Bool.or_false, Bool.or_false]

/-- All but the first character can be a digit. -/
theorem isPlainIdentifier_of_isPascal {s : String} {first : Char} {rest : List Char}
    (isPascal : IsPascal s.toList) (shape : s.toList = first :: rest) :
    isPlainIdentifier s = first.isAlpha := by
  rw [shape] at isPascal
  have parts : rest.all isIdentifierPart = true := by
    refine List.all_eq_true.mpr fun c member => ?_
    have letter := isPascal.letters c (List.mem_cons_of_mem first member)
    rw [isIdentifierPart, isWordChar, letter]
    rfl
  rw [isPlainIdentifier, shape]
  dsimp only
  rw [parts, Bool.and_true]
  exact isIdentifierStart_of_isAlphanum (isPascal.letters first List.mem_cons_self)

theorem IsPascal.of_all {text : List Char} (letters : text.all Char.isAlphanum = true)
    (first : text.head?.all (fun c => !c.isLower) = true) : IsPascal text where
  letters := List.all_eq_true.mp letters
  first c isFirst := (Bool.not_eq_true' _).mp (Option.all_eq_true _ _ |>.mp first c isFirst)

theorem isPascal_pascalCase (ascii : IsAscii collection) :
    IsPascal (pascalCase collection).toList := by
  rw [pascalCase, String.toList_ofList]
  exact isPascal_pascalChars ascii

/-- What stands behind the name of the collection has no say. -/
theorem isPlainIdentifier_append (spelled : Spelled collection) {ending : String}
    (isPascal : IsPascal ending.toList) :
    isPlainIdentifier (pascalCase collection ++ ending) = beginsWithLetter collection := by
  obtain ⟨first, rest, shape, initial⟩ := spelled.exists_initial
  have whole : (pascalCase collection ++ ending).toList = first :: (rest ++ ending.toList) := by
    rw [String.toList_append, shape, List.cons_append]
  rw [← initial]
  refine isPlainIdentifier_of_isPascal ?_ whole
  rw [String.toList_append]
  exact (isPascal_pascalCase spelled.ascii).append isPascal

/-- Letters and digits stand behind the name of the collection, and no lower-case letter first. -/
def MadeFrom (collection name : String) : Prop :=
  ∃ ending, IsPascal ending.toList ∧ name = pascalCase collection ++ ending

namespace MadeFrom

theorem self : MadeFrom collection (pascalCase collection) :=
  ⟨"", .nil, String.append_empty.symm⟩

theorem record : MadeFrom collection (recordTypeName collection) :=
  ⟨"Record", .of_all (by decide) (by decide), rfl⟩

theorem response : MadeFrom collection (responseTypeName collection) :=
  ⟨"Response", .of_all (by decide) (by decide), rfl⟩

theorem options {field : String} (ascii : IsAscii field) :
    MadeFrom collection (optionEnumName collection field) := by
  refine ⟨pascalCase field ++ "Options", ?_, String.append_assoc ..⟩
  rw [String.toList_append]
  exact (isPascal_pascalCase ascii).append (.of_all (by decide) (by decide))

theorem isPlainIdentifier_eq (spelled : Spelled collection) {name : String}
    (made : MadeFrom collection name) : isPlainIdentifier name = beginsWithLetter collection := by
  obtain ⟨ending, isPascal, rfl⟩ := made
  exact isPlainIdentifier_append spelled isPascal

end MadeFrom

theorem madeFrom_of_mem_namesFor {field name : String} (ascii : IsAscii field)
    (member : name ∈ namesFor collection field) : MadeFrom collection name := by
  simp only [namesFor, List.mem_cons, List.not_mem_nil, or_false] at member
  rcases member with rfl | rfl | rfl | rfl
  · exact .self
  · exact .record
  · exact .response
  · exact .options ascii

end Identifiers

section Modules

variable {collections : List Collection}

/-- Names of collections as above, and names of fields of ASCII characters. -/
def AllAscii (collections : List Collection) : Prop :=
  ∀ c ∈ collections, Spelled c.name ∧ ∀ field ∈ c.fields, IsAscii field.name

instance (collections : List Collection) : Decidable (AllAscii collections) :=
  List.decidableBAll _ collections

theorem fixedNames_plain : ∀ name ∈ fixedNames, isPlainIdentifier name = true := by
  decide

theorem exists_of_mem_ownNames (ascii : AllAscii collections) {name : String}
    (member : name ∈ ownNames collections) : ∃ c ∈ collections, MadeFrom c.name name := by
  simp only [ownNames, List.mem_append, List.mem_map, List.mem_flatMap] at member
  rcases member with (⟨stem, ⟨c, inList, inStems⟩, rfl⟩ | ⟨_, ⟨c, inList, rfl⟩, rfl⟩) |
    ⟨_, ⟨c, inList, rfl⟩, rfl⟩
  · obtain ⟨field, declared, isStem⟩ := List.mem_filterMap.mp inStems
    split at isStem
    · rw [← Option.some.inj isStem]
      exact ⟨c, inList, .options ((ascii c inList).2 field declared)⟩
    · contradiction
  · exact ⟨c, inList, .record⟩
  · exact ⟨c, inList, .response⟩

theorem recordTypeName_mem_ownNames {c : Collection} (member : c ∈ collections) :
    recordTypeName c.name ∈ ownNames collections := by
  have named : pascalCase c.name ∈ collections.map fun c => pascalCase c.name :=
    List.mem_map_of_mem member
  exact List.mem_append_left _ (List.mem_append_right _ (List.mem_map_of_mem named))

theorem responseTypeName_mem_ownNames {c : Collection} (member : c ∈ collections) :
    responseTypeName c.name ∈ ownNames collections := by
  have named : pascalCase c.name ∈ collections.map fun c => pascalCase c.name :=
    List.mem_map_of_mem member
  exact List.mem_append_right _ (List.mem_map_of_mem named)

theorem optionEnumName_mem_ownNames {c : Collection} (member : c ∈ collections) {field : Field}
    (declared : field ∈ c.fields)
    (isSelect : ∃ values limit, field.kind = .select (some values) limit) :
    optionEnumName c.name field.name ∈ ownNames collections := by
  obtain ⟨values, limit, kind⟩ := isSelect
  have stem : pascalCase c.name ++ pascalCase field.name ∈ optionStems c :=
    List.mem_filterMap.mpr ⟨field, declared, by rw [kind]⟩
  have stems := List.mem_flatMap_of_mem member stem
  exact List.mem_append_left _ (List.mem_append_left _ (List.mem_map_of_mem stems))

theorem declaresNamesOf (resolved : (Catalog.ofCollections collections).firstDangling? = none)
    {c : Collection} (member : c ∈ collections) :
    DeclaresNamesOf (resolvedModule (.ofCollections collections)) c := by
  have declares {name : String} (own : name ∈ ownNames (collections.filter (·.declaresSchema))) :
      name ∈ declaredNames (resolvedModule (.ofCollections collections)).text :=
    (declaredNames_perm collections resolved).mem_iff.mpr (List.mem_append_right _ own)
  have described (schema : c.declaresSchema = true) : c ∈ collections.filter (·.declaresSchema) :=
    List.mem_filter.mpr ⟨member, schema⟩
  refine ⟨?_, fun schema => ?_, fun schema => ?_, fun field declared isSelect => ?_⟩
  · exact List.mem_map_of_mem ((Catalog.mem_ofCollections collections c).mpr member)
  · exact declares (recordTypeName_mem_ownNames (described schema))
  · exact declares (responseTypeName_mem_ownNames (described schema))
  · have schema : c.declaresSchema = true := by
      unfold Collection.fields at declared
      unfold Collection.declaresSchema
      cases isSchema : c.schema with
      | none => simp [isSchema] at declared
      | some fields => rfl
    exact declares (optionEnumName_mem_ownNames (described schema) declared isSelect)

theorem ownNames_plain_iff (ascii : AllAscii collections) :
    (∀ name ∈ ownNames collections, isPlainIdentifier name = true) ↔
      ∀ c ∈ collections, beginsWithLetter c.name = true := by
  constructor
  · intro plain c member
    rw [← MadeFrom.record.isPlainIdentifier_eq (ascii c member).1]
    exact plain _ (recordTypeName_mem_ownNames member)
  · intro letters name member
    obtain ⟨c, inList, made⟩ := exists_of_mem_ownNames ascii member
    rw [made.isPlainIdentifier_eq (ascii c inList).1, letters c inList]

theorem declaredNames_plain_iff (ascii : AllAscii collections)
    (resolved : (Catalog.ofCollections collections).firstDangling? = none) :
    (∀ name ∈ declaredNames (resolvedModule (.ofCollections collections)).text,
        isPlainIdentifier name = true) ↔
      ∀ c ∈ collections, c.declaresSchema = true → beginsWithLetter c.name = true := by
  have described : AllAscii (collections.filter (·.declaresSchema)) :=
    fun c member => ascii c (List.mem_filter.mp member).1
  simp only [(declaredNames_perm collections resolved).mem_iff, List.forall_mem_append,
    ownNames_plain_iff described, List.mem_filter, and_imp]
  exact ⟨fun plain => plain.2, fun letters => ⟨fixedNames_plain, letters⟩⟩

/-- The members of the enum stand there without quotes, whatever their names are. -/
theorem members_plain_iff (ascii : AllAscii collections) :
    (∀ member ∈ (collectionsEnum (.ofCollections collections)).members,
        ∃ name, member.key = .bare name ∧ isPlainIdentifier name = true) ↔
      ∀ c ∈ collections, beginsWithLetter c.name = true := by
  simp only [collectionsEnum, List.forall_mem_map, Catalog.mem_ofCollections, EnumKey.bare.injEq,
    exists_eq_left']
  exact forall₂_congr fun c member => by rw [MadeFrom.self.isPlainIdentifier_eq (ascii c member).1]

end Modules

/-- The names that are declared for a collection, alone or with a field of any name, are identifiers
where the first letter or digit of its own name is a letter, and none of them is one where it is a
digit. So the declarations of a module have identifiers as their names just where the names of all
its collections begin with letters. -/
theorem generate_names_plain_iff (collections : List Collection) (text : String)
    (success : CollectionTypes.generate collections = .ok text) :
    ∃ m, Module.ofCatalog (.ofCollections collections) = .ok m ∧ m.text = text ∧
      (∀ c ∈ collections, DeclaresNamesOf m c ∧
        (Spelled c.name → ∀ field : String, IsAscii field → ∀ name ∈ namesFor c.name field,
          (isPlainIdentifier name = true ↔ beginsWithLetter c.name = true))) ∧
      (AllAscii collections →
        ((∀ member ∈ m.collections.members,
            ∃ name, member.key = .bare name ∧ isPlainIdentifier name = true) ↔
          ∀ c ∈ collections, beginsWithLetter c.name = true) ∧
        ((∀ name ∈ declaredNames text, isPlainIdentifier name = true) ↔
          ∀ c ∈ collections, c.declaresSchema = true → beginsWithLetter c.name = true)) := by
  obtain ⟨resolved, rfl⟩ := (generate_eq_ok_iff collections text).mp success
  refine ⟨resolvedModule (.ofCollections collections), Module.ofCatalog_of_resolved resolved, rfl,
    fun c member => ⟨declaresNamesOf resolved member, ?_⟩,
    fun ascii => ⟨members_plain_iff ascii, declaredNames_plain_iff ascii resolved⟩⟩
  intro spelled field ascii name made
  rw [(madeFrom_of_mem_namesFor ascii made).isPlainIdentifier_eq spelled]

/-- All that is no letter or digit is left out of the names of the guest book. -/
theorem guestbook_names_plain :
    ∃ text m c, CollectionTypes.generate guestbook = .ok text ∧
      Module.ofCatalog (.ofCollections guestbook) = .ok m ∧ m.text = text ∧
      guestbook.head? = some c ∧ DeclaresNamesOf m c ∧ Spelled c.name ∧ IsAscii "mood" ∧
      (∀ name ∈ namesFor c.name "mood", isPlainIdentifier name = true) ∧ AllAscii guestbook ∧
      (∀ member ∈ m.collections.members,
        ∃ name, member.key = .bare name ∧ isPlainIdentifier name = true) ∧
      ∀ name ∈ declaredNames text, isPlainIdentifier name = true := by
  have success := generate_of_resolved guestbook_resolved
  have ascii : IsAscii "mood" := by decide
  have allAscii : AllAscii guestbook := by decide
  obtain ⟨m, isModule, same, each, whole⟩ := generate_names_plain_iff guestbook _ success
  obtain ⟨members, declared⟩ := whole allAscii
  have spelled := (allAscii _ List.mem_cons_self).1
  obtain ⟨declares, names⟩ := each _ List.mem_cons_self
  refine ⟨_, m, _, success, isModule, same, rfl, declares, spelled, ascii, fun name made => ?_,
    allAscii, members.mpr (by decide), declared.mpr (by decide)⟩
  exact (names spelled "mood" ascii name made).mpr (by decide)

/-- A collection whose name begins with a digit. -/
def twoFactorCodes : Collection :=
  { Collection.withoutFields "c" "2fa_codes" .base with
    schema := some [.plain "kind" (.select (some ["totp"]) (some 1))] }

/-- The digit comes first in all the names that are declared for the collection. -/
theorem twoFactorCodes_not_plain :
    Spelled twoFactorCodes.name ∧ Spelled "kind" ∧
      (∀ name ∈ namesFor twoFactorCodes.name "kind", isPlainIdentifier name = false) ∧
      ∃ text m, CollectionTypes.generate [twoFactorCodes] = .ok text ∧
        Module.ofCatalog (.ofCollections [twoFactorCodes]) = .ok m ∧ m.text = text ∧
        m.collections.members.map (·.key) = [.bare "2faCodes"] ∧
        (declaredNames text).Perm
          (fixedNames ++ ["2faCodesKindOptions", "2faCodesRecord", "2faCodesResponse"]) := by
  have resolved : (Catalog.ofCollections [twoFactorCodes]).firstDangling? = none := by decide
  have declared := declaredNames_perm [twoFactorCodes] resolved
  have own : ownNames ([twoFactorCodes].filter (·.declaresSchema)) =
      ["2faCodesKindOptions", "2faCodesRecord", "2faCodesResponse"] := by decide
  rw [own] at declared
  exact ⟨by decide, by decide, by decide, _, _, generate_of_resolved resolved,
    Module.ofCatalog_of_resolved resolved, rfl, by decide, declared⟩

end CollectionTypes.TypeScript
