import CollectionTypes.Proofs.DeclaredNames
import CollectionTypes.Proofs.LineReading

/-!
# Listings

The three listings of a module, read line by line: the enum of the collections has a line for each
collection, the two look-up types have one for each collection with a schema. A line tells the name
of its collection, whatever characters the name has, and the types that the look-up types lead to
are those that the module declares for the same collections in the same order.

Specification: section 4.6 (parts 2, 8 and 9).
-/

namespace CollectionTypes.TypeScript

/-- The lines of a body, where one blank line is written for none. -/
def readBody (lines : List String) : List String :=
  if lines = [""] then [] else lines

/-- The lines within the brackets that a line of the text opens. -/
def membersBehind (header text : String) : List String :=
  readBody ((((textLines text).dropWhile (· != header)).drop 1).takeWhile (· != "\x7d"))

/-- Each of the texts has its listing of the catalog, line by line. -/
structure ListsWhole (catalog : Catalog) (names records responses : String) : Prop where
  collections : (membersBehind "export enum Collections \x7b" names).map EnumMember.read? =
    catalog.collections.map fun c => some ⟨.bare (pascalCase c.name), c.name⟩
  records : (membersBehind "export type CollectionRecords = \x7b" records).map PropertyLine.read? =
    catalog.described.map fun c => some ⟨c.name, false, recordTypeName c.name⟩
  responses :
    (membersBehind "export type CollectionResponses = \x7b" responses).map PropertyLine.read? =
      catalog.described.map fun c => some ⟨c.name, false, responseTypeName c.name⟩

/-- The names with an ending. -/
def endingIn (ending : String) (names : List String) : List String :=
  names.filter fun name => ending.toList.isSuffixOf name.toList

section Bodies

/-- A line within brackets. -/
def Indented (line : String) : Prop :=
  line.toList.head? = some '\t'

instance (line : String) : Decidable (Indented line) :=
  inferInstanceAs (Decidable (_ = _))

theorem indented_tab (s : String) : Indented ("\t" ++ s) := by
  rw [Indented, String.toList_append]
  rfl

theorem EnumMember.indented_line (m : EnumMember) : Indented m.line := by
  rw [line, String.append_assoc, String.append_assoc, String.append_assoc]
  exact indented_tab _

variable {members : List String}

theorem readBody_bodyLines (indented : ∀ line ∈ members, Indented line) :
    readBody (bodyLines members) = members := by
  cases members with
  | nil => rfl
  | cons first more =>
    have some : first :: more ≠ [""] := by
      intro blank
      have tab := indented first List.mem_cons_self
      rw [(List.cons.inj blank).1] at tab
      exact absurd tab (by decide)
    rw [bodyLines, List.isEmpty_cons, if_neg Bool.false_ne_true, readBody, if_neg some]

theorem inside_bodyLines (indented : ∀ line ∈ members, Indented line) :
    ∀ line ∈ bodyLines members, (line != "\x7d") = true := by
  have inside : ∀ line ∈ members, (line != "\x7d") = true := by
    intro line member
    rw [bne_iff_ne]
    rintro rfl
    exact absurd (indented _ member) (by decide)
  rw [bodyLines]
  split
  · decide
  · exact inside

/-- The members of a declaration are found by its header, which no line before it equals. -/
theorem membersBehind_bracketed {header text : String} {front back : List String}
    (lines : textLines text = front ++ (header :: (bodyLines members ++ ["\x7d"])) ++ back)
    (first : header ∉ front) (indented : ∀ line ∈ members, Indented line) :
    membersBehind header text = members := by
  have before : ∀ line ∈ front, (line != header) = true := by
    intro line member
    rw [bne_iff_ne]
    rintro rfl
    exact first member
  have found : ∀ rest, (header :: rest).dropWhile (· != header) = header :: rest := by
    intro rest
    rw [List.dropWhile_cons, bne_self_eq_false, if_neg Bool.false_ne_true]
  have closing : ("\x7d" :: back).takeWhile (· != "\x7d") = [] := by
    rw [List.takeWhile_cons, bne_self_eq_false, if_neg Bool.false_ne_true]
  rw [membersBehind, lines, List.append_assoc, List.dropWhile_append_of_pos before,
    List.cons_append, found, List.drop_one, List.tail_cons, List.append_assoc,
    List.takeWhile_append_of_pos (inside_bodyLines indented), List.singleton_append, closing,
    List.append_nil]
  exact readBody_bodyLines indented

end Bodies

section Members

variable (catalog : Catalog)

theorem read?_collectionsEnum :
    ((collectionsEnum catalog).members.map (·.line)).map EnumMember.read? =
      catalog.collections.map fun c => some ⟨.bare (pascalCase c.name), c.name⟩ := by
  rw [collectionsEnum, List.map_map, List.map_map]
  apply List.map_congr_left
  intro c _
  apply EnumMember.read?_line
  constructor
  all_goals
    intro member
    have nameChar := isNameChar_of_mem_pascalCase member
    revert nameChar
    decide

theorem read?_lookupType (name : String) (typeName : String → String) :
    ((lookupType name typeName catalog).properties.map (·.line)).map PropertyLine.read? =
      catalog.described.map fun c => some ⟨c.name, false, typeName c.name⟩ := by
  rw [lookupType, List.map_map, List.map_map]
  apply List.map_congr_left
  intro c _
  exact PropertyLine.read?_line _

end Members

section Endings

variable {ending other : String}

theorem endingIn_append (front back : List String) :
    endingIn ending (front ++ back) = endingIn ending front ++ endingIn ending back :=
  List.filter_append front back

theorem endingIn_flatMap {α : Type} (elements : List α) (names : α → List String) :
    endingIn ending (elements.flatMap names) =
      elements.flatMap fun a => endingIn ending (names a) :=
  List.filter_flatMap

theorem endingIn_own (names : List String) :
    endingIn ending (names.map (· ++ ending)) = names.map (· ++ ending) := by
  apply List.filter_eq_self.mpr
  intro name member
  obtain ⟨s, _, rfl⟩ := List.mem_map.mp member
  exact List.isSuffixOf_iff_suffix.mpr (suffix_of_ending s ending)

theorem endingIn_other (names : List String)
    (apart : ¬ ending.toList <:+ other.toList ∧ ¬ other.toList <:+ ending.toList) :
    endingIn ending (names.map (· ++ other)) = [] := by
  apply List.filter_eq_nil_iff.mpr
  intro name member
  obtain ⟨s, _, rfl⟩ := List.mem_map.mp member
  rw [List.isSuffixOf_iff_suffix]
  exact not_suffix_of_apart apart s

end Endings

section Names

/-- Record types are the names that end as such, and so are response types. -/
theorem endingIn_leadingNames (described : List Collection) :
    endingIn "Record" (leadingNames described) =
        described.map (fun c => recordTypeName c.name) ∧
      endingIn "Response" (leadingNames described) =
        described.map fun c => responseTypeName c.name := by
  have fixed : ∀ ending ∈ ["Record", "Response"],
      endingIn ending ["Collections", "IsoDateString", "RecordIdString", "BaseSystemFields",
        "AuthSystemFields"] = [] := by decide
  have names (ending : String) : (described.map fun c => pascalCase c.name ++ ending) =
      (described.map fun c => pascalCase c.name).map (· ++ ending) := by
    rw [List.map_map]
    rfl
  constructor
  · have own (c : Collection) : endingIn "Record"
        ((optionStems c).map (· ++ "Options") ++ [recordTypeName c.name]) =
          [recordTypeName c.name] := by
      rw [endingIn_append, endingIn_other _ (by decide), List.nil_append]
      exact endingIn_own [pascalCase c.name]
    have responses : endingIn "Record" (described.map fun c => responseTypeName c.name) = [] := by
      simp only [responseTypeName, names]
      exact endingIn_other _ (by decide)
    rw [leadingNames, endingIn_append, endingIn_append, fixed _ (by decide), responses,
      List.append_nil, List.nil_append, endingIn_flatMap, List.map_eq_flatMap]
    exact List.flatMap_congr fun c _ => own c
  · have own (c : Collection) : endingIn "Response"
        ((optionStems c).map (· ++ "Options") ++ [recordTypeName c.name]) = [] := by
      rw [endingIn_append, endingIn_other _ (by decide), List.nil_append]
      exact endingIn_other [pascalCase c.name] (by decide)
    have responses : endingIn "Response" (described.map fun c => responseTypeName c.name) =
        described.map fun c => responseTypeName c.name := by
      simp only [responseTypeName, names]
      exact endingIn_own _
    rw [leadingNames, endingIn_append, endingIn_append, fixed _ (by decide), responses,
      List.nil_append, endingIn_flatMap, List.flatMap_congr fun c _ => own c,
      List.flatMap_eq_nil_iff.mpr fun _ _ => rfl, List.nil_append]

/-- The look-up types have names of their own. -/
theorem not_mem_leadingNames {name : String}
    (lookup : name ∈ ["CollectionRecords", "CollectionResponses"]) (described : List Collection) :
    name ∉ leadingNames described := by
  have listed : ∀ name ∈ ["CollectionRecords", "CollectionResponses"], name ∈ fixedNames ∧ name ∉
      ["Collections", "IsoDateString", "RecordIdString", "BaseSystemFields",
        "AuthSystemFields"] := by decide
  obtain ⟨isFixed, apart⟩ := listed name lookup
  have endings := fixedNames_endings name isFixed
  have other : ∀ (s ending : String), ending ∈ ["Options", "Record", "Response"] →
      name ≠ s ++ ending := by
    rintro s ending oneOf rfl
    exact endings ending oneOf (suffix_of_ending s ending)
  intro member
  rw [leadingNames, List.mem_append, List.mem_append] at member
  rcases member with (fixed | own) | response
  · exact apart fixed
  · obtain ⟨c, _, inBlock⟩ := List.mem_flatMap.mp own
    rcases List.mem_append.mp inBlock with option | record
    · obtain ⟨stem, _, same⟩ := List.mem_map.mp option
      exact other stem _ (by decide) same.symm
    · exact other (pascalCase c.name) "Record" (by decide) (List.mem_singleton.mp record)
  · obtain ⟨c, _, same⟩ := List.mem_map.mp response
    exact other (pascalCase c.name) "Response" (by decide) same.symm

theorem declaredName_responseFirstLine (catalog : Catalog) (c : Collection) :
    declaredName (resolvedResponse catalog c).firstLine = responseTypeName c.name := by
  rw [ResponseDeclaration.firstLine, ResponseDeclaration.header_split]
  exact declaredName_definition _ _ _ (isWord_responseTypeName c.name)

end Names

section Texts

variable (catalog : Catalog)

theorem declaredNames_joinLines {lines : List String} (some : lines ≠ [])
    (each : ∀ line ∈ lines, OneLine line) :
    declaredNames (joinLines lines) = (exportLines lines).map declaredName := by
  rw [declaredNames, textLines_joinLines some each]

/-- The last name that the block of a collection declares is its record type. -/
theorem getLast?_declaredNames_block (c : Collection) :
    (declaredNames (joinLines (RecordBlock.ofCollection c).lines)).getLast? =
      some (recordTypeName c.name) := by
  have some : (RecordBlock.ofCollection c).lines ≠ [] := by
    intro none
    have headers := exportLines_recordBlock c
    rw [none] at headers
    exact absurd headers (by simp [exportLines])
  rw [declaredNames_joinLines some fun line member => (tidy_recordBlock c line member).1,
    exportLines_recordBlock, List.map_append, List.map_cons, List.map_nil, List.getLast?_concat]
  exact congrArg Option.some (declaredName_recordHeader c)

/-- A response type declares its own name and nothing else. -/
theorem declaredNames_response {c : Collection} {d : ResponseDeclaration}
    (success : responseType catalog c = .ok d) :
    declaredNames (joinLines d.lines) = [responseTypeName c.name] := by
  obtain ⟨-, rfl⟩ := (responseType_eq_ok_iff catalog c d).mp success
  have opens := opens_resolvedResponse catalog c
  have some : (resolvedResponse catalog c).lines ≠ [] := by
    intro none
    have header := opens.exports
    rw [none] at header
    exact absurd header (by simp [exportLines])
  rw [declaredNames_joinLines some opens.oneLine, opens.exports, List.map_cons, List.map_nil,
    declaredName_responseFirstLine]

/-- A listing stands alone in a text. -/
theorem textLines_declaration {header : String} {lines : List String}
    (opens : Opens header lines) : textLines (joinLines lines) = [] ++ lines ++ [] := by
  have some : lines ≠ [] := by
    intro none
    have exports := opens.exports
    rw [none] at exports
    exact absurd exports (by simp [exportLines])
  rw [textLines_joinLines some opens.oneLine, List.nil_append, List.append_nil]

theorem indented_enumMembers (d : EnumDeclaration) :
    ∀ line ∈ d.members.map (·.line), Indented line := by
  intro line member
  obtain ⟨m, _, rfl⟩ := List.mem_map.mp member
  exact m.indented_line

theorem indented_properties (d : ObjectDeclaration) :
    ∀ line ∈ d.properties.map (·.line), Indented line := by
  intro line member
  obtain ⟨p, _, rfl⟩ := List.mem_map.mp member
  exact indented_tab _

/-- Texts in which the listings of a catalog are found by their headers list all of it. -/
theorem listsWhole_of_members {names records responses : String}
    (collections : membersBehind (collectionsEnum catalog).header names =
      (collectionsEnum catalog).members.map (·.line))
    (recordLookup : membersBehind (recordLookupType catalog).header records =
      (recordLookupType catalog).properties.map (·.line))
    (responseLookup : membersBehind (responseLookupType catalog).header responses =
      (responseLookupType catalog).properties.map (·.line)) :
    ListsWhole catalog names records responses where
  collections := (congrArg (·.map EnumMember.read?) collections).trans
    (read?_collectionsEnum catalog)
  records := (congrArg (·.map PropertyLine.read?) recordLookup).trans
    (read?_lookupType catalog "CollectionRecords" recordTypeName)
  responses := (congrArg (·.map PropertyLine.read?) responseLookup).trans
    (read?_lookupType catalog "CollectionResponses" responseTypeName)

theorem listsWhole_declarations :
    ListsWhole catalog (joinLines (collectionsEnum catalog).lines)
      (joinLines (recordLookupType catalog).lines)
      (joinLines (responseLookupType catalog).lines) := by
  apply listsWhole_of_members
  · exact membersBehind_bracketed (textLines_declaration (opens_collectionsEnum catalog))
      List.not_mem_nil (indented_enumMembers _)
  · have opens : Opens (recordLookupType catalog).header (recordLookupType catalog).lines :=
      opens_lookupType catalog (by decide) oneLine_recordTypeName
    exact membersBehind_bracketed (textLines_declaration opens) List.not_mem_nil
      (indented_properties _)
  · have opens : Opens (responseLookupType catalog).header (responseLookupType catalog).lines :=
      opens_lookupType catalog (by decide) oneLine_responseTypeName
    exact membersBehind_bracketed (textLines_declaration opens) List.not_mem_nil
      (indented_properties _)

end Texts

section Modules

theorem Module.lines_around_collections (m : Module) :
    ∃ back, m.lines = (generatedComment ++ [""]) ++ m.collections.lines ++ back := by
  obtain ⟨more, parts⟩ : ∃ more, m.parts = generatedComment :: m.collections.lines :: more :=
    ⟨_, rfl⟩
  refine ⟨more.flatMap ("" :: ·), ?_⟩
  rw [lines, parts, separated_cons, List.flatMap_cons]
  simp

theorem Module.lines_around_lookups (m : Module) :
    m.lines = (separated m.leadingParts ++ [""]) ++ m.recordLookup.lines ++
      ("" :: m.responseLookup.lines) := by
  have some : m.leadingParts ≠ [] := by simp [leadingParts]
  rw [Module.lines, parts_eq_leadingParts, separated_append some]
  simp

variable {catalog : Catalog} (resolved : catalog.firstDangling? = none)

theorem not_mem_of_exportLines {header : String} {lines : List String}
    (isHeader : isExport header = true) (apart : header ∉ exportLines lines) : header ∉ lines :=
  fun member => apart (List.mem_filter.mpr ⟨member, isHeader⟩)

include resolved

theorem not_mem_leadingParts (header : String) (isHeader : isExport header = true)
    (lookup : declaredName header ∈ ["CollectionRecords", "CollectionResponses"]) :
    header ∉ separated (resolvedModule catalog).leadingParts := by
  apply not_mem_of_exportLines isHeader
  rw [exportLines_separated, exportLines_leadingParts resolved]
  intro member
  apply not_mem_leadingNames lookup catalog.described
  rw [← declaredName_leadingHeaders]
  exact List.mem_map_of_mem member

theorem listsWhole_resolvedModule :
    ListsWhole catalog (resolvedModule catalog).text (resolvedModule catalog).text
      (resolvedModule catalog).text := by
  have lines := textLines_text catalog
  have apart := not_mem_leadingParts resolved
  have around := (resolvedModule catalog).lines_around_lookups
  apply listsWhole_of_members
  · obtain ⟨back, split⟩ := (resolvedModule catalog).lines_around_collections
    have first : (collectionsEnum catalog).header ∉ generatedComment ++ [""] := by
      change "export enum Collections \x7b" ∉ _
      decide
    exact membersBehind_bracketed (lines.trans split) first (indented_enumMembers _)
  · have first : (recordLookupType catalog).header ∉
        separated (resolvedModule catalog).leadingParts ++ [""] := by
      change "export type CollectionRecords = \x7b" ∉ _
      rw [List.mem_append, not_or]
      exact ⟨apart _ (by decide) (by decide +kernel), by decide⟩
    exact membersBehind_bracketed (lines.trans around) first (indented_properties _)
  · have first : (responseLookupType catalog).header ∉
        (separated (resolvedModule catalog).leadingParts ++ [""]) ++
          (resolvedModule catalog).recordLookup.lines ++ [""] := by
      change "export type CollectionResponses = \x7b" ∉ _
      have opens : Opens (recordLookupType catalog).header (recordLookupType catalog).lines :=
        opens_lookupType catalog (by decide) oneLine_recordTypeName
      have records : "export type CollectionResponses = \x7b" ∉
          (resolvedModule catalog).recordLookup.lines := by
        apply not_mem_of_exportLines (by decide)
        rw [show exportLines (resolvedModule catalog).recordLookup.lines = _ from opens.exports]
        change _ ∉ ["export type CollectionRecords = \x7b"]
        decide
      simp only [List.mem_append, not_or]
      exact ⟨⟨⟨apart _ (by decide) (by decide +kernel), by decide⟩, records⟩, by decide⟩
    have shape : (resolvedModule catalog).lines =
        ((separated (resolvedModule catalog).leadingParts ++ [""]) ++
          (resolvedModule catalog).recordLookup.lines ++ [""]) ++
          (resolvedModule catalog).responseLookup.lines ++ [] := by
      rw [around]
      simp
    exact membersBehind_bracketed (lines.trans shape) first (indented_properties _)

end Modules

/-- The listings of any catalog are whole and say what they list: read line by line, the enum names
each collection, and the look-up types lead from each collection with a schema to the record type
and the response type that its own declarations have. A module lists them in the same way, and the
record types and response types that it declares are those listed, in the same order. -/
theorem listings_exact (catalog : Catalog) :
    ListsWhole catalog (joinLines (collectionsEnum catalog).lines)
        (joinLines (recordLookupType catalog).lines)
        (joinLines (responseLookupType catalog).lines) ∧
      (∀ c, (declaredNames (joinLines (RecordBlock.ofCollection c).lines)).getLast? =
          some (recordTypeName c.name) ∧
        ∀ d, responseType catalog c = .ok d →
          declaredNames (joinLines d.lines) = [responseTypeName c.name]) ∧
      ∀ text, generate catalog = .ok text →
        ListsWhole catalog text text text ∧
        endingIn "Record" (declaredNames text) =
          catalog.described.map (fun c => recordTypeName c.name) ∧
        endingIn "Response" (declaredNames text) =
          catalog.described.map fun c => responseTypeName c.name := by
  refine ⟨listsWhole_declarations catalog, fun c => ⟨getLast?_declaredNames_block c,
    fun d success => declaredNames_response catalog success⟩, ?_⟩
  intro text success
  rw [generate, Module.ofCatalog_settle, map_settle, settle_eq_ok_iff, unresolved?,
    Option.map_eq_none_iff] at success
  obtain ⟨resolved, rfl⟩ := success
  obtain ⟨records, responses⟩ := endingIn_leadingNames catalog.described
  have lookups : ∀ ending ∈ ["Record", "Response"],
      endingIn ending ["CollectionRecords", "CollectionResponses"] = [] := by decide
  rw [declaredNames_resolvedModule resolved, endingIn_append, endingIn_append, records, responses,
    lookups _ (by decide), lookups _ (by decide), List.append_nil, List.append_nil]
  exact ⟨listsWhole_resolvedModule resolved, rfl, rfl⟩

theorem listings_exact_guestbook :
    ∃ text, generate (.ofCollections guestbook) = .ok text ∧
      (membersBehind "export enum Collections \x7b" text).map EnumMember.read? =
        [some ⟨.bare "GuestBookExportTypeX", "guest book\nexport type X = \x7b"⟩,
         some ⟨.bare "Visitors", "visitors"⟩] ∧
      (membersBehind "export type CollectionRecords = \x7b" text).map PropertyLine.read? =
        [some ⟨"guest book\nexport type X = \x7b", false, "GuestBookExportTypeXRecord"⟩] ∧
      endingIn "Record" (declaredNames text) = ["GuestBookExportTypeXRecord"] := by
  have success : generate (.ofCollections guestbook) =
      .ok (resolvedModule (.ofCollections guestbook)).text := by
    rw [generate, Module.ofCatalog_settle, guestbook_resolved]
    rfl
  obtain ⟨-, -, whole⟩ := listings_exact (.ofCollections guestbook)
  obtain ⟨lists, records, -⟩ := whole _ success
  refine ⟨_, success, lists.collections.trans ?_, lists.records.trans ?_, records.trans ?_⟩
  all_goals decide

end CollectionTypes.TypeScript
