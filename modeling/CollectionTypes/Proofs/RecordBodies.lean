import CollectionTypes.Proofs.Listings

/-!
# Bodies of record types

The record type of a collection, read by someone who looks for the line that opens a type and knows
nothing of the collection. Each field has a line of its own, which says what the field is called,
whether it may be missing and what type it has, whatever characters its name is made of. Keys are
also told apart as they are spelled: no bare key looks like the quoted key of another field.

Specification: section 4.4 (one member for each field, in schema order).
-/

namespace CollectionTypes.TypeScript

/-- The line opens the declaration of a type. -/
def opensType (line : String) : Bool :=
  "export type ".toList.isPrefixOf line.toList

/-- The lines of a text from the first type on. -/
def typeLines (text : String) : List String :=
  (textLines text).dropWhile (!opensType ·)

/-- The lines within the brackets of the first type. -/
def typeBody (text : String) : List String :=
  ((typeLines text).drop 1).takeWhile (· != "\x7d")

/-- What is written for the record type of a collection, option enums included. -/
def recordText (c : Collection) : String :=
  joinLines (RecordBlock.ofCollection c).lines

/-- The text behind as many tabs. -/
def unindented? : Nat → List Char → Option (List Char)
  | 0, text => some text
  | depth + 1, '\t' :: text => unindented? depth text
  | _ + 1, _ => none

/-- The line of a property with its key as it is spelled, quotes and escapes included. -/
structure SpelledProperty where
  spelling : String
  told : PropertyLine
  deriving DecidableEq, Repr

def SpelledProperty.read? (depth : Nat) (line : String) : Option SpelledProperty := do
  let text ← unindented? depth line.toList
  let (key, behind) ← readKey? text
  let told ← readTyped? key behind
  return ⟨String.ofList (text.take (text.length - behind.length)), told⟩

section Properties

theorem unindented?_tabs (depth : Nat) (text : List Char) :
    unindented? depth (List.replicate depth '\t' ++ text) = some text := by
  induction depth with
  | zero => rfl
  | succ depth ih => rw [List.replicate_succ, List.cons_append, unindented?, ih]

/-- A property is read as it was written, at whatever depth it stands. -/
theorem SpelledProperty.read?_text (depth : Nat) (p : Property) :
    read? depth (String.ofList (List.replicate depth '\t') ++ p.text) =
      some ⟨propertyKey p.name, ⟨p.name, p.optional, p.type.text⟩⟩ := by
  obtain ⟨c, behind, split, ends, typed⟩ := p.text_split
  have spelling (key : List Char) :
      (key ++ c :: behind).take ((key ++ c :: behind).length - (c :: behind).length) = key := by
    rw [List.length_append, Nat.add_sub_cancel, List.take_left]
  rw [read?, String.toList_append, String.toList_ofList, unindented?_tabs, split]
  simp only [Option.bind_eq_bind, Option.bind_some, readKey?_propertyKey p.name ends, typed,
    spelling, String.ofList_toList, Option.pure_def]

theorem SpelledProperty.read?_line (p : Property) :
    read? 1 p.line = some ⟨propertyKey p.name, ⟨p.name, p.optional, p.type.text⟩⟩ :=
  read?_text 1 p

/-- A reader of keys undoes the spelling, so no two names share one. -/
theorem propertyKey_injective : Function.Injective propertyKey := by
  intro name other same
  have ends : isIdentifierPart ':' = false := by decide
  have read := readKey?_propertyKey name ends []
  rw [same, readKey?_propertyKey other ends []] at read
  exact (congrArg Prod.fst (Option.some.inj read)).symm

end Properties

section Blocks

variable (c : Collection)

/-- A last part stands behind the others, and a blank line behind each of them. -/
theorem separated_concat (front : List (List String)) (last : List String) :
    separated (front ++ [last]) = front.flatMap (· ++ [""]) ++ last := by
  induction front with
  | nil => simp [separated]
  | cons first front ih =>
    cases front with
    | nil => simp [separated]
    | cons second others =>
      rw [separated] at ih ⊢
      rw [List.flatMap_cons, List.append_assoc, List.append_assoc, ← ih]
      rfl

theorem isExport_of_opensType {line : String} (opens : opensType line = true) :
    isExport line = true := by
  unfold opensType at opens
  unfold isExport
  rw [List.isPrefixOf_iff_prefix] at opens ⊢
  exact (List.prefix_append "export ".toList "type ".toList).trans opens

/-- Option enums open no type: their headers are enums and their other lines no exports. -/
theorem not_opensType_of_mem_optionEnum {d : EnumDeclaration} (member : d ∈ optionEnums c)
    {line : String} (inLines : line ∈ d.lines) : opensType line = false := by
  by_contra opens
  rw [Bool.not_eq_false] at opens
  have exported : line ∈ exportLines d.lines :=
    List.mem_filter.mpr ⟨inLines, isExport_of_opensType opens⟩
  rw [(opens_optionEnum c member).exports, List.mem_singleton] at exported
  rw [exported, opensType, List.isPrefixOf_iff_prefix, EnumDeclaration.header,
    String.append_assoc, String.toList_append] at opens
  obtain ⟨rest, same⟩ := opens
  have apart := congrArg (fun text => text[7]?) same
  simp at apart

theorem textLines_recordText : textLines (recordText c) = (RecordBlock.ofCollection c).lines := by
  apply textLines_joinLines
  · rw [RecordBlock.lines, separated_concat]
    exact List.append_ne_nil_of_right_ne_nil _ (List.cons_ne_nil _ _)
  · exact fun line member => (tidy_recordBlock c line member).1

/-- The record type is the first type of its text, and nothing stands behind it. -/
theorem typeLines_recordText : typeLines (recordText c) = (recordType c).lines := by
  have enums : ∀ line ∈ ((optionEnums c).map (·.lines)).flatMap (· ++ [""]),
      (!opensType line) = true := by
    intro line member
    obtain ⟨lines, inEnums, inLines⟩ := List.mem_flatMap.mp member
    obtain ⟨d, isEnum, rfl⟩ := List.mem_map.mp inEnums
    rcases List.mem_append.mp inLines with inEnum | blank
    · rw [not_opensType_of_mem_optionEnum c isEnum inEnum]
      rfl
    · rw [List.mem_singleton.mp blank]
      decide
  have header : ¬ (!opensType (recordType c).header) = true := by
    simp [opensType, ObjectDeclaration.header]
  rw [typeLines, textLines_recordText, RecordBlock.lines, separated_concat]
  refine (List.dropWhile_append_of_pos enums).trans ?_
  exact List.dropWhile_cons_of_neg header

theorem typeBody_recordText :
    typeBody (recordText c) = bodyLines ((recordType c).properties.map (·.line)) := by
  rw [typeBody, typeLines_recordText, ObjectDeclaration.lines, List.drop_one, List.tail_cons,
    List.takeWhile_append_of_pos (inside_bodyLines (indented_properties (recordType c)))]
  exact List.append_nil _

/-- The members of the body are the properties of the record type; a body is blank for none. -/
theorem readBody_recordText :
    readBody (typeBody (recordText c)) = c.fields.map fun field =>
      (fieldProperty c.name field).line := by
  rw [typeBody_recordText, readBody_bodyLines (indented_properties (recordType c)), recordType,
    List.map_map]
  rfl

theorem typeBody_recordText_blank : typeBody (recordText c) = [""] ↔ c.fields = [] := by
  constructor
  · intro blank
    have members := readBody_recordText c
    rw [blank, readBody, if_pos rfl] at members
    exact List.map_eq_nil_iff.mp members.symm
  · intro none
    rw [typeBody_recordText, recordType, none]
    rfl

end Blocks

/-- A record type is the last thing in its text, and its body, read line by line, tells the name of
each field in the order of the schema, whether it may be missing, and its type. Fields with different
names have different keys, each as it is spelled. -/
theorem record_body_tells_fields (c : Collection) :
    typeLines (recordText c) = recordHeader c :: (typeBody (recordText c) ++ ["\x7d"]) ∧
      (typeBody (recordText c) = [""] ↔ c.fields = []) ∧
      (readBody (typeBody (recordText c))).map (SpelledProperty.read? 1) =
        c.fields.map (fun field => some ⟨propertyKey field.name,
          ⟨field.name, !field.required, (fieldType c.name field).text⟩⟩) ∧
      ∀ name other, name ≠ other → propertyKey name ≠ propertyKey other := by
  refine ⟨?_, typeBody_recordText_blank c, ?_, fun _ _ => propertyKey_injective.ne⟩
  · rw [typeLines_recordText, typeBody_recordText]
    rfl
  · rw [readBody_recordText, List.map_map]
    apply List.map_congr_left
    intro field _
    exact SpelledProperty.read?_line (fieldProperty c.name field)

/-- The marks, the colon and the bracket within the quotes belong to the name of the field. -/
theorem record_body_tells_fields_guestbook :
    (∃ c ∈ guestbook, (readBody (typeBody (recordText c))).map (SpelledProperty.read? 1) =
      [some ⟨"mood", ⟨"mood", true, "GuestBookExportTypeXMoodOptions[]"⟩⟩,
       some ⟨"answers", ⟨"answers", true, "RecordIdString[]"⟩⟩,
       some ⟨"\"visitor?: any\\n\x7d\"", ⟨"visitor?: any\n\x7d", true, "RecordIdString"⟩⟩,
       some ⟨"$details", ⟨"$details", true, "null | T$$details"⟩⟩]) ∧
      propertyKey "mood" ≠ propertyKey "\"mood\"" := by
  obtain ⟨-, -, fields, keys⟩ := record_body_tells_fields (guestbook.head (List.cons_ne_nil _ _))
  refine ⟨⟨_, List.head_mem _, fields.trans ?_⟩, keys _ _ (by decide)⟩
  decide

end CollectionTypes.TypeScript
