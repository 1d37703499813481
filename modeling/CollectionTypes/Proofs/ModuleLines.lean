import CollectionTypes.Proofs.LineSafety
import CollectionTypes.Proofs.Resolution

/-!
# The lines of a module

A module has one line beginning with `export ` for each declaration, in an order that depends on the
collections alone. All other lines are blank, are indented, close a bracket or are comments, so no
name and no text of the database can open a declaration or end one.
-/

namespace CollectionTypes.TypeScript

/-- The line opens a declaration that others can import. -/
def isExport (line : String) : Bool :=
  "export ".toList.isPrefixOf line.toList

def exportLines (lines : List String) : List String :=
  lines.filter isExport

/-- All the comments that a module has. -/
def moduleComments : List String :=
  ["/**", "* This file was @generated using pbtypegen", "*/",
   "// Alias types for improved usability",
   "// System fields",
   "// Record types for each collection",
   "// Response types include system fields and match responses from the PocketBase API"]

/-- A line between the declarations or inside of one. -/
def IsFiller (line : String) : Prop :=
  line = "" ∨ line.toList.head? = some '\t' ∨ line.toList.head? = some '\x7d' ∨
    line ∈ moduleComments

instance (line : String) : Decidable (IsFiller line) :=
  inferInstanceAs (Decidable (_ ∨ _ ∨ _ ∨ _))

private theorem isExport_append {s : String} (t : String) (start : isExport s = true) :
    isExport (s ++ t) = true := by
  rw [isExport, List.isPrefixOf_iff_prefix] at start ⊢
  rw [String.toList_append]
  exact start.trans (List.prefix_append s.toList t.toList)

private theorem isExport_enum (rest : String) : isExport ("export enum " ++ rest) = true :=
  isExport_append rest (by decide)

private theorem isExport_type (rest : String) : isExport ("export type " ++ rest) = true :=
  isExport_append rest (by decide)

private theorem isExport_of_head {line : String} {c : Char} (head : line.toList.head? = some c)
    (other : c ≠ 'e') : isExport line = false := by
  rw [isExport, Bool.eq_false_iff, ne_eq, List.isPrefixOf_iff_prefix]
  rintro ⟨rest, split⟩
  rw [← split] at head
  exact other (Option.some.inj head).symm

/-- Filler is told from export lines by its first character. -/
theorem not_isExport_of_isFiller {line : String} (filler : IsFiller line) :
    isExport line = false := by
  rcases filler with rfl | tab | bracket | comment
  · decide
  · exact isExport_of_head tab (by decide)
  · exact isExport_of_head bracket (by decide)
  · exact (by decide : ∀ line ∈ moduleComments, isExport line = false) line comment

theorem isFiller_tab (s : String) : IsFiller ("\t" ++ s) :=
  Or.inr (Or.inl (by rw [String.toList_append]; rfl))

/-- Lines of which the first opens a declaration and no other one does. -/
structure Opens (header : String) (lines : List String) : Prop where
  exports : exportLines lines = [header]
  kinds : ∀ line ∈ lines, isExport line = true ∨ IsFiller line
  oneLine : ∀ line ∈ lines, OneLine line

/-- A header with filler behind it opens one declaration. -/
private theorem opens_cons {header : String} {body : List String} (start : isExport header = true)
    (whole : OneLine header) (fillers : ∀ line ∈ body, IsFiller line)
    (oneLine : ∀ line ∈ body, OneLine line) : Opens header (header :: body) where
  exports := by
    have none : exportLines body = [] := by
      apply List.filter_eq_nil_iff.mpr
      intro line member
      rw [not_isExport_of_isFiller (fillers line member)]
      exact Bool.false_ne_true
    rw [exportLines, List.filter_cons_of_pos start]
    exact congrArg (header :: ·) none
  kinds := by
    intro line member
    rcases List.mem_cons.mp member with rfl | inBody
    · exact Or.inl start
    · exact Or.inr (fillers line inBody)
  oneLine := by
    intro line member
    rcases List.mem_cons.mp member with rfl | inBody
    · exact whole
    · exact oneLine line inBody

/-- Between brackets there are the lines of the body, or a blank one for none. -/
private theorem mem_bodyLines {lines : List String} {line : String}
    (member : line ∈ bodyLines lines ++ ["\x7d"]) : line = "" ∨ line ∈ lines ∨ line = "\x7d" := by
  rw [List.mem_append, List.mem_singleton, bodyLines] at member
  rcases member with inBody | closing
  · split at inBody
    · exact Or.inl (List.mem_singleton.mp inBody)
    · exact Or.inr (Or.inl inBody)
  · exact Or.inr (Or.inr closing)

/-- A declaration in brackets, its members indented. -/
private theorem opens_bracketed {header : String} {members : List String}
    (start : isExport header = true) (whole : OneLine header)
    (fillers : ∀ line ∈ members, IsFiller line) (oneLine : ∀ line ∈ members, OneLine line) :
    Opens header (header :: (bodyLines members ++ ["\x7d"])) := by
  apply opens_cons start whole
  · intro line member
    rcases mem_bodyLines member with rfl | inMembers | rfl
    · decide
    · exact fillers line inMembers
    · decide
  · intro line member
    rcases mem_bodyLines member with rfl | inMembers | rfl
    · decide
    · exact oneLine line inMembers
    · decide

/-- An enum opens with its header; its members are indented. -/
theorem EnumDeclaration.opens (d : EnumDeclaration) (name : OneLine d.name)
    (keys : ∀ m ∈ d.members, OneLine m.key.text) : Opens d.header d.lines := by
  have start : isExport d.header = true := by
    simp only [header, String.append_assoc]
    exact isExport_enum _
  have whole : OneLine d.header := by
    simp only [header, oneLine_append]
    exact ⟨⟨by decide, name⟩, by decide⟩
  apply opens_bracketed start whole
  · intro line member
    obtain ⟨m, _, rfl⟩ := List.mem_map.mp member
    simp only [EnumMember.line, String.append_assoc]
    exact isFiller_tab _
  · intro line member
    obtain ⟨m, inMembers, rfl⟩ := List.mem_map.mp member
    exact m.oneLine_line (keys m inMembers)

/-- An object type opens with its header; its properties are indented. -/
theorem ObjectDeclaration.opens (d : ObjectDeclaration) (name : OneLine d.name)
    (parameters : OneLine (parameterDeclaration d.parameters))
    (types : ∀ p ∈ d.properties, OneLine p.type.text) : Opens d.header d.lines := by
  have start : isExport d.header = true := by
    simp only [header, String.append_assoc]
    exact isExport_type _
  have whole : OneLine d.header := by
    simp only [header, oneLine_append]
    exact ⟨⟨⟨by decide, name⟩, parameters⟩, by decide⟩
  apply opens_bracketed start whole
  · intro line member
    obtain ⟨p, _, rfl⟩ := List.mem_map.mp member
    exact isFiller_tab _
  · intro line member
    obtain ⟨p, inProperties, rfl⟩ := List.mem_map.mp member
    exact p.oneLine_line (types p inProperties)

/-- The first line of a response type: the header and, where relations follow, a bracket. -/
def ResponseDeclaration.firstLine (d : ResponseDeclaration) : String :=
  d.header ++ if d.expand.isEmpty then "" else " & \x7b"

theorem ResponseDeclaration.header_split (d : ResponseDeclaration) :
    d.header = "export type " ++ d.name ++ parameterDeclaration d.parameters ++ " = " ++
      (d.record ++ parameterReference d.parameters ++ " & " ++ d.systemFields) := by
  unfold header
  simp only [String.append_assoc]

/-- A response type opens with its first line; what it expands to is indented below. -/
theorem ResponseDeclaration.opens (d : ResponseDeclaration) (whole : OneLine d.header)
    (types : ∀ p ∈ d.expand, OneLine p.type.text) : Opens d.firstLine d.lines := by
  have start : isExport d.header = true := by
    rw [header_split]
    simp only [String.append_assoc]
    exact isExport_type _
  rw [lines, firstLine]
  split
  · rw [String.append_empty]
    exact opens_cons start whole (by simp) (by simp)
  · apply opens_cons (isExport_append _ start) ((oneLine_append _ _).mpr ⟨whole, by decide⟩)
    · intro line member
      simp only [List.mem_cons, List.mem_append, List.mem_map, List.not_mem_nil, or_false] at member
      rcases member with rfl | ⟨p, _, rfl⟩ | rfl | rfl
      · decide
      · exact isFiller_tab _
      · decide
      · decide
    · intro line member
      simp only [List.mem_cons, List.mem_append, List.mem_map, List.not_mem_nil, or_false] at member
      rcases member with rfl | ⟨p, inExpand, rfl⟩ | rfl | rfl
      · decide
      · exact (oneLine_append _ _).mpr ⟨by decide, p.oneLine_line (types p inExpand)⟩
      · decide
      · decide

/-- Export lines are told one by one. -/
theorem exportLines_append (front back : List String) :
    exportLines (front ++ back) = exportLines front ++ exportLines back :=
  List.filter_append front back

/-- The blank lines in between are no export lines. -/
theorem exportLines_separated (parts : List (List String)) :
    exportLines (separated parts) = parts.flatMap exportLines := by
  induction parts with
  | nil => rfl
  | cons first rest ih =>
    cases rest with
    | nil => simp [separated]
    | cons second others =>
      have blank : exportLines [""] = [] := by decide
      rw [separated] at ih
      rw [separated, List.intercalate_cons_cons, exportLines_append, exportLines_append, ih, blank,
        List.append_nil, ← List.flatMap_cons]

/-- Parts are kept apart by blank lines and by nothing else. -/
theorem mem_separated {parts : List (List String)} {line : String}
    (member : line ∈ separated parts) : line = "" ∨ ∃ part ∈ parts, line ∈ part := by
  simpa only [List.mem_singleton] using mem_intercalate member

private theorem separated_ne_nil {first : List String} {rest : List (List String)}
    (some : first ≠ []) : separated (first :: rest) ≠ [] := by
  cases rest with
  | nil => simpa [separated] using some
  | cons second others => simp [separated, some]

/-- Each of the lines stands whole and is an export line or filler. -/
def Tidy (lines : List String) : Prop :=
  ∀ line ∈ lines, OneLine line ∧ (isExport line = true ∨ IsFiller line)

instance (lines : List String) : Decidable (Tidy lines) :=
  inferInstanceAs (Decidable (∀ line ∈ lines, _))

theorem Opens.tidy {header : String} {lines : List String} (opens : Opens header lines) :
    Tidy lines :=
  fun line member => ⟨opens.oneLine line member, opens.kinds line member⟩

/-- Two tidy pieces are tidy together. -/
theorem tidy_append {front back : List String} (frontTidy : Tidy front) (backTidy : Tidy back) :
    Tidy (front ++ back) := by
  intro line member
  rcases List.mem_append.mp member with inFront | inBack
  · exact frontTidy line inFront
  · exact backTidy line inBack

/-- The blank line between two parts is filler. -/
theorem tidy_separated {parts : List (List String)} (each : ∀ part ∈ parts, Tidy part) :
    Tidy (separated parts) := by
  intro line member
  rcases mem_separated member with rfl | ⟨part, inParts, inPart⟩
  · decide
  · exact each part inParts line inPart

theorem tidy_flatMap {α : Type} {elements : List α} {lines : α → List String}
    (each : ∀ a ∈ elements, Tidy (lines a)) : Tidy (elements.flatMap lines) := by
  intro line member
  obtain ⟨a, inElements, inLines⟩ := List.mem_flatMap.mp member
  exact each a inElements line inLines

section Parts

variable (catalog : Catalog) (c : Collection)

/-- Members are named in pascal case, which leaves no line break in a name. -/
theorem opens_collectionsEnum :
    Opens (collectionsEnum catalog).header (collectionsEnum catalog).lines := by
  apply EnumDeclaration.opens
  · exact (by decide : OneLine collectionsEnumName)
  · intro m member
    obtain ⟨c, _, rfl⟩ := List.mem_map.mp member
    exact oneLine_pascalCase c.name

/-- The members of an option enum are literals on both sides. -/
theorem opens_of_optionEnum? {collection : String} {field : Field} {d : EnumDeclaration}
    (found : optionEnum? collection field = some d) : Opens d.header d.lines := by
  obtain ⟨values, _, rfl⟩ := Option.map_eq_some_iff.mp found
  apply EnumDeclaration.opens
  · exact oneLine_optionEnumName collection field.name
  · intro m inMembers
    obtain ⟨value, _, rfl⟩ := List.mem_map.mp inMembers
    exact oneLine_literal value

theorem opens_optionEnum {d : EnumDeclaration} (member : d ∈ optionEnums c) :
    Opens d.header d.lines := by
  obtain ⟨field, _, found⟩ := List.mem_filterMap.mp member
  exact opens_of_optionEnum? found

/-- No field breaks a line of the record type of its collection. -/
theorem opens_recordType : Opens (recordType c).header (recordType c).lines := by
  apply ObjectDeclaration.opens
  · exact oneLine_recordTypeName c.name
  · exact oneLine_parameterDeclaration c.fields
  · intro p member
    obtain ⟨field, _, rfl⟩ := List.mem_map.mp member
    exact oneLine_fieldType c.name field

/-- No relation breaks a line of a response type. -/
theorem opens_resolvedResponse :
    Opens (resolvedResponse catalog c).firstLine (resolvedResponse catalog c).lines := by
  apply ResponseDeclaration.opens
  · simp only [ResponseDeclaration.header_split, oneLine_append]
    refine ⟨⟨⟨⟨by decide, ?_⟩, ?_⟩, by decide⟩, ⟨⟨?_, ?_⟩, by decide⟩, ?_⟩
    · exact oneLine_responseTypeName c.name
    · exact oneLine_parameterDeclaration c.fields
    · exact oneLine_recordTypeName c.name
    · exact oneLine_parameterReference c.fields
    · exact oneLine_systemFieldsOf c.kind
  · intro p member
    obtain ⟨field, _, found⟩ := List.mem_filterMap.mp member
    rw [expandedProperty?] at found
    split at found
    · obtain ⟨target, _, rfl⟩ := Option.map_eq_some_iff.mp found
      exact oneLine_ofCount _ _ (oneLine_expandedType target)
    · cases found

/-- The names of collections are the keys of a look-up type, quoted where they have to be. -/
theorem opens_lookupType {name : String} {typeName : String → String} (header : OneLine name)
    (types : ∀ collection, OneLine (typeName collection)) :
    Opens (lookupType name typeName catalog).header (lookupType name typeName catalog).lines := by
  apply ObjectDeclaration.opens
  · exact header
  · exact (by decide : OneLine (parameterDeclaration []))
  · intro p member
    obtain ⟨c, _, rfl⟩ := List.mem_map.mp member
    exact types c.name

/-- Pieces that open one declaration each have one export line each, in their order. -/
theorem exportLines_flatMap {α : Type} {elements : List α} {lines : α → List String}
    {header : α → String} (each : ∀ a ∈ elements, Opens (header a) (lines a)) :
    exportLines (elements.flatMap lines) = elements.map header := by
  induction elements with
  | nil => rfl
  | cons a rest ih =>
    rw [List.flatMap_cons, exportLines_append, (each a List.mem_cons_self).exports,
      ih fun b member => each b (List.mem_cons_of_mem a member), List.map_cons,
      List.singleton_append]

/-- A record block opens its option enums and then its record type. -/
theorem exportLines_recordBlock :
    exportLines (RecordBlock.ofCollection c).lines =
      (optionEnums c).map (·.header) ++ [(recordType c).header] := by
  rw [RecordBlock.lines, exportLines_separated, List.flatMap_append, List.flatMap_singleton,
    RecordBlock.ofCollection]
  have enums : exportLines ((optionEnums c).flatMap (·.lines)) = (optionEnums c).map (·.header) :=
    exportLines_flatMap fun d member => opens_optionEnum c member
  rw [(opens_recordType c).exports, List.flatMap_map, ← enums, exportLines, List.filter_flatMap]
  rfl

theorem tidy_recordBlock : Tidy (RecordBlock.ofCollection c).lines := by
  apply tidy_separated
  intro part member
  rcases List.mem_append.mp member with front | last
  · obtain ⟨d, inEnums, rfl⟩ := List.mem_map.mp front
    exact (opens_optionEnum c inEnums).tidy
  · rw [List.mem_singleton.mp last]
    exact (opens_recordType c).tidy

/-- The comment above the response types opens none. -/
theorem exportLines_responses :
    exportLines (responseLines (resolvedModule catalog).responses) =
      catalog.described.map fun c => (resolvedResponse catalog c).firstLine := by
  have comment : exportLines responseComment = [] := by decide
  rw [responseLines, exportLines_append, comment, List.nil_append, resolvedModule,
    List.flatMap_map]
  exact exportLines_flatMap fun c _ => opens_resolvedResponse catalog c

theorem tidy_responses : Tidy (responseLines (resolvedModule catalog).responses) := by
  apply tidy_append (by decide)
  apply tidy_flatMap
  intro r member
  obtain ⟨c, _, rfl⟩ := List.mem_map.mp member
  exact (opens_resolvedResponse catalog c).tidy

/-- Nothing in a catalog makes a line that is neither an export line nor filler. -/
theorem tidy_lines : Tidy (resolvedModule catalog).lines := by
  apply tidy_separated
  intro part member
  simp only [Module.parts, resolvedModule, List.mem_append, List.mem_cons, List.mem_map,
    recordBlocks, List.not_mem_nil, or_false] at member
  rcases member with (fixed | ⟨_, ⟨c, _, rfl⟩, rfl⟩) | last
  · rcases fixed with rfl | rfl | rfl | rfl | rfl | rfl
    · decide
    · exact (opens_collectionsEnum catalog).tidy
    · decide
    · decide
    · decide
    · decide
  · exact tidy_recordBlock c
  · rcases last with rfl | rfl | rfl
    · exact tidy_responses catalog
    · exact (opens_lookupType catalog (by decide) oneLine_recordTypeName).tidy
    · exact (opens_lookupType catalog (by decide) oneLine_responseTypeName).tidy

/-- The lines of the text are the lines that it was written in. -/
theorem textLines_text :
    textLines (resolvedModule catalog).text = (resolvedModule catalog).lines := by
  apply textLines_joinLines
  · exact separated_ne_nil (List.cons_ne_nil _ _)
  · exact fun line member => (tidy_lines catalog line member).1

end Parts

end CollectionTypes.TypeScript
