import CollectionTypes.Proofs.RecordBodies

/-!
# Expanded relations

A relation stands in two places: in the record type with the ids that it holds, and among the
expanded records of the response type with what the ids lead to. The two are written apart from each
other, so that they agree is said of their lines: the same key, an array in both or in neither, and
in the second place the type of the collection that the id is found at.

Specification: section 4.5 (expanded members of a response).
-/

namespace CollectionTypes.TypeScript

/-- The lines within the brackets of the expanded records. -/
def expandedLines (text : String) : List String :=
  (((textLines text).dropWhile (· != "\texpand?: \x7b")).drop 1).takeWhile (· != "\t\x7d")

/-- The relations of a collection in the order of its schema, each with its line in the record
type. -/
def relationLines (c : Collection) : List (Field × String) :=
  (c.fields.zip (readBody (typeBody (recordText c)))).filter (·.1.target?.isSome)

def IsArray (type : String) : Prop :=
  "[]".toList <:+ type.toList

instance (type : String) : Decidable (IsArray type) :=
  inferInstanceAs (Decidable (_ <:+ _))

/-- The type of one value, where the type may be that of an array of them. -/
def elementType (type : String) : String :=
  if IsArray type then String.ofList (type.toList.take (type.toList.length - 2)) else type

/-- What the lines of a relation to `target` say, the one in the record type and the one among the
expanded records. -/
structure ToldAlike (limit : SelectionLimit) (target : Collection)
    (own expanded : SpelledProperty) : Prop where
  spelling : expanded.spelling = own.spelling
  key : expanded.told.key = own.told.key
  optional : expanded.told.optional = true
  arrays : IsArray expanded.told.type ↔ IsArray own.told.type
  single : ¬ IsArray expanded.told.type ↔ limit = some 1
  described : target.schema.isSome = true →
    elementType expanded.told.type = responseTypeName target.name
  /-- Without a schema there are the system fields, which depend on the kind of the target. -/
  auth : target.schema = none → target.kind = .auth →
    elementType expanded.told.type = "AuthSystemFields"
  base : target.schema = none → target.kind = .base →
    elementType expanded.told.type = "BaseSystemFields"

/-- A relation with its line in the record type, and a line among the expanded records. -/
def Expands (catalog : Catalog) (relation : Field × String) (line : String) : Prop :=
  ∃ id limit target own expanded, relation.1.kind = .relation id limit ∧
    catalog.lookup? id = some target ∧
    SpelledProperty.read? 1 relation.2 = some own ∧ own.told.key = relation.1.name ∧
    SpelledProperty.read? 2 line = some expanded ∧ ToldAlike limit target own expanded

section Types

/-- A type that ends in another character is that of a single value. -/
theorem not_isArray {type : String} {last : Char} (ends : type.toList.getLast? = some last)
    (other : last ≠ ']') : ¬ IsArray type := by
  rintro ⟨front, split⟩
  rw [← split, List.getLast?_append] at ends
  exact other (Option.some.inj ends).symm

theorem isArray_brackets (name : String) : IsArray (name ++ "[]") := by
  rw [IsArray, String.toList_append]
  exact List.suffix_append _ _

theorem isArray_ofCount {name : String} (single : ¬ IsArray name) (many : Bool) :
    IsArray (TypeExpr.ofCount many (.declared name)).text ↔ many = true := by
  cases many with
  | false => exact ⟨fun array => absurd array single, fun wrong => absurd wrong Bool.false_ne_true⟩
  | true => exact ⟨fun _ => rfl, fun _ => isArray_brackets name⟩

theorem elementType_ofCount {name : String} (single : ¬ IsArray name) (many : Bool) :
    elementType (TypeExpr.ofCount many (.declared name)).text = name := by
  cases many with
  | false => exact if_neg single
  | true =>
    have array : IsArray (TypeExpr.ofCount true (.declared name)).text := isArray_brackets name
    have front : (name ++ "[]").toList.take ((name ++ "[]").toList.length - 2) = name.toList := by
      rw [String.toList_append, List.length_append]
      exact List.take_left' rfl
    rw [elementType, if_pos array]
    exact (congrArg String.ofList front).trans String.ofList_toList

/-- What a relation expands to, without brackets. -/
def expandedName (target : Collection) : String :=
  if target.declaresSchema then responseTypeName target.name else systemFieldsOf target.kind

theorem not_isArray_expandedName (target : Collection) : ¬ IsArray (expandedName target) := by
  rw [expandedName]
  split
  · refine @not_isArray _ 'e' ?_ (by decide)
    rw [responseTypeName, String.toList_append, List.getLast?_append]
    rfl
  · cases target.kind <;> decide

end Types

section Lines

variable {catalog : Catalog} {c : Collection}

/-- Each relation has a line of its own, and there is none for any other field. -/
theorem forall₂_filter_filterMap {α β γ : Type} {p : α → Bool} {f : α → Option β}
    {line : β → γ} {own : α → γ} {R : α × γ → γ → Prop} {elements : List α}
    (some : ∀ a ∈ elements, p a = true → ∃ b, f a = some b ∧ R (a, own a) (line b))
    (none : ∀ a ∈ elements, p a = false → f a = none) :
    List.Forall₂ R ((elements.zip (elements.map own)).filter (p ·.1))
      ((elements.filterMap f).map line) := by
  induction elements with
  | nil => exact .nil
  | cons a elements ih =>
    have more := ih (fun b member => some b (List.mem_cons_of_mem a member))
      fun b member => none b (List.mem_cons_of_mem a member)
    rw [List.map_cons, List.zip_cons_cons]
    cases chosen : p a with
    | true =>
      obtain ⟨b, found, related⟩ := some a List.mem_cons_self chosen
      simp only [List.filter_cons, chosen, if_true]
      rw [List.filterMap_cons_some found, List.map_cons]
      exact .cons related more
    | false =>
      simp only [List.filter_cons, chosen, Bool.false_eq_true, if_false]
      rw [List.filterMap_cons_none (none a List.mem_cons_self chosen)]
      exact more

theorem expandedProperty?_of_relation {field : Field} {id : String} {limit : SelectionLimit}
    (kind : field.kind = .relation id limit) (resolved : catalog.dangling? field = none) :
    ∃ target, catalog.lookup? id = some target ∧
      expandedProperty? catalog field = some (expandedProperty field.name limit target) := by
  rw [catalog.dangling?_relation field kind] at resolved
  cases found : catalog.lookup? id with
  | none => simp [found] at resolved
  | some target =>
    refine ⟨target, rfl, ?_⟩
    rw [expandedProperty?, kind]
    simp only [found, Option.map_some]

/-- Both lines of a relation come from its name and its limit, the second from the target too. -/
theorem toldAlike (field : Field) (limit : SelectionLimit) (target : Collection) :
    ToldAlike limit target
      ⟨propertyKey field.name, ⟨field.name, !field.required,
        (TypeExpr.ofCount (!limit.isExactlyOne) (.declared recordIdAlias)).text⟩⟩
      ⟨propertyKey field.name, ⟨field.name, true,
        (TypeExpr.ofCount (!limit.isExactlyOne) (.declared (expandedName target))).text⟩⟩ where
  spelling := rfl
  key := rfl
  optional := rfl
  arrays := by
    rw [isArray_ofCount (not_isArray_expandedName target), isArray_ofCount (by decide)]
  single := by
    rw [isArray_ofCount (not_isArray_expandedName target), SelectionLimit.isExactlyOne]
    simp
  described := by
    intro described
    rw [elementType_ofCount (not_isArray_expandedName target), expandedName]
    exact if_pos described
  auth := by
    intro bare kind
    rw [elementType_ofCount (not_isArray_expandedName target), expandedName,
      Collection.declaresSchema, bare, kind]
    rfl
  base := by
    intro bare kind
    rw [elementType_ofCount (not_isArray_expandedName target), expandedName,
      Collection.declaresSchema, bare, kind]
    rfl

theorem expands_of_relation {field : Field} {id : String} {limit : SelectionLimit}
    {target : Collection} (kind : field.kind = .relation id limit)
    (found : catalog.lookup? id = some target) :
    Expands catalog (field, (fieldProperty c.name field).line)
      ("\t" ++ (expandedProperty field.name limit target).line) := by
  have type : fieldType c.name field =
      .ofCount (!limit.isExactlyOne) (.declared recordIdAlias) := by
    rw [fieldType, kind]
  have own := SpelledProperty.read?_line (fieldProperty c.name field)
  have expanded := SpelledProperty.read?_text 2 (expandedProperty field.name limit target)
  have tabs : String.ofList (List.replicate 2 '\t') = "\t" ++ "\t" := by decide
  rw [fieldProperty, type] at own
  rw [tabs, String.append_assoc] at expanded
  rw [fieldProperty, type]
  exact ⟨id, limit, target, _, _, kind, found, own, rfl, expanded, toldAlike field limit target⟩

section Resolved

variable (own : ∀ field ∈ c.fields, catalog.dangling? field = none)

include own

theorem lines_resolvedResponse :
    (resolvedResponse catalog c).lines = responseHeader c ::
      if c.fields.any (·.target?.isSome) then
        "\texpand?: \x7b" ::
          ((resolvedResponse catalog c).expand.map (fun p => "\t" ++ p.line) ++ ["\t\x7d", "\x7d"])
      else [] := by
  rw [← firstLine_eq_responseHeader own, ResponseDeclaration.firstLine, ResponseDeclaration.lines,
    expand_isEmpty own]
  cases c.fields.any (·.target?.isSome) with
  | true => rfl
  | false => simp

/-- The header is an export, which the line that opens the block is not. -/
theorem responseHeader_ne_block : responseHeader c ≠ "\texpand?: \x7b" := by
  have exported : responseHeader c ∈ exportLines (resolvedResponse catalog c).lines := by
    rw [(opens_resolvedResponse catalog c).exports, firstLine_eq_responseHeader own]
    exact List.mem_cons_self
  intro same
  have isHeader := (List.mem_filter.mp exported).2
  rw [same] at isHeader
  exact absurd isHeader (by decide)

theorem expandedLines_resolvedResponse :
    expandedLines (joinLines (resolvedResponse catalog c).lines) =
      (resolvedResponse catalog c).expand.map fun p => "\t" ++ p.line := by
  have opens := opens_resolvedResponse catalog c
  have header : (responseHeader c != "\texpand?: \x7b") = true :=
    bne_iff_ne.mpr (responseHeader_ne_block own)
  have inside : ∀ line ∈ (resolvedResponse catalog c).expand.map (fun p => "\t" ++ p.line),
      (line != "\t\x7d") = true := by
    intro line member
    obtain ⟨p, _, rfl⟩ := List.mem_map.mp member
    rw [bne_iff_ne]
    intro same
    -- The bracket stands one tab deep, and the line of a property two.
    have bracket : p.line = "\x7d" := (String.append_right_inj "\t").mp same
    have tab : Indented p.line := indented_tab p.text
    rw [bracket] at tab
    exact absurd tab (by decide)
  rw [expandedLines, textLines_declaration opens, List.nil_append, List.append_nil,
    lines_resolvedResponse own, List.dropWhile_cons, if_pos header]
  split
  · rw [List.dropWhile_cons_of_neg (by simp), List.drop_one, List.tail_cons,
      List.takeWhile_append_of_pos inside]
    exact List.append_nil _
  next none =>
    have empty := expand_isEmpty own
    rw [Bool.not_eq_true] at none
    rw [none, Bool.not_false, List.isEmpty_iff] at empty
    rw [empty]
    rfl

theorem textLines_resolvedResponse :
    textLines (joinLines (resolvedResponse catalog c).lines) = responseHeader c ::
      if c.fields.any (·.target?.isSome) then
        "\texpand?: \x7b" ::
          (expandedLines (joinLines (resolvedResponse catalog c).lines) ++ ["\t\x7d", "\x7d"])
      else [] := by
  have lines := textLines_declaration (opens_resolvedResponse catalog c)
  rw [List.nil_append, List.append_nil] at lines
  rw [expandedLines_resolvedResponse own, lines, lines_resolvedResponse own]

theorem expands_resolvedResponse :
    List.Forall₂ (Expands catalog) (relationLines c)
      (expandedLines (joinLines (resolvedResponse catalog c).lines)) := by
  rw [expandedLines_resolvedResponse own, relationLines, readBody_recordText]
  refine forall₂_filter_filterMap (p := fun field : Field => field.target?.isSome) ?_ ?_
  · intro field declared isRelation
    obtain ⟨id, isTarget⟩ := Option.isSome_iff_exists.mp isRelation
    obtain ⟨limit, kind⟩ := (field.target?_eq_some_iff id).mp isTarget
    obtain ⟨target, found, property⟩ := expandedProperty?_of_relation kind (own field declared)
    exact ⟨_, property, expands_of_relation kind found⟩
  · intro field _ other
    rw [Option.isSome_eq_false_iff, Option.isNone_iff_eq_none] at other
    cases kind : field.kind with
    | relation id limit => simp [Field.target?, kind] at other
    | _ => simp only [expandedProperty?, kind]

end Resolved

end Lines

/-- A response type has a block of expanded records where the collection has relations, and nothing
but this block behind its header. The block has a line for each relation in the order of the schema
and none for a field of another kind, and the line agrees with that of the record type. Only a
relation that leads nowhere keeps a collection from having a response type. -/
theorem relations_expand_alike (catalog : Catalog) (c : Collection) :
    ((∃ d, responseType catalog c = .ok d) ↔ ∀ field ∈ c.fields, ∀ id limit,
        field.kind = .relation id limit → ∃ target, catalog.lookup? id = some target) ∧
      ∀ d, responseType catalog c = .ok d →
        ("\texpand?: \x7b" ∈ textLines (joinLines d.lines) ↔
          ∃ field ∈ c.fields, ∃ id limit, field.kind = .relation id limit) ∧
        textLines (joinLines d.lines) = (responseHeader c ::
          if c.fields.any (·.target?.isSome) then
            "\texpand?: \x7b" :: (expandedLines (joinLines d.lines) ++ ["\t\x7d", "\x7d"])
          else []) ∧
        List.Forall₂ (Expands catalog) (relationLines c) (expandedLines (joinLines d.lines)) := by
  constructor
  · have resolved : (∃ d, responseType catalog c = .ok d) ↔
        ∀ field ∈ c.fields, catalog.dangling? field = none := by
      simp [responseType_eq_ok_iff]
    rw [resolved]
    constructor
    · intro own field declared id limit kind
      obtain ⟨target, found, _⟩ := expandedProperty?_of_relation kind (own field declared)
      exact ⟨target, found⟩
    · intro found field declared
      cases kind : field.kind with
      | relation id limit =>
        obtain ⟨target, isTarget⟩ := found field declared id limit kind
        simp [catalog.dangling?_relation field kind, isTarget]
      | _ => simp [Catalog.dangling?, Field.target?, kind]
  · intro d success
    obtain ⟨own, rfl⟩ := (responseType_eq_ok_iff catalog c d).mp success
    refine ⟨?_, textLines_resolvedResponse own, expands_resolvedResponse own⟩
    have relations : c.fields.any (·.target?.isSome) = true ↔
        ∃ field ∈ c.fields, ∃ id limit, field.kind = .relation id limit := by
      simp only [List.any_eq_true, Option.isSome_iff_exists, Field.target?_eq_some_iff]
    rw [textLines_resolvedResponse own, ← relations, List.mem_cons]
    constructor
    · rintro (header | block)
      · exact absurd header (responseHeader_ne_block own).symm
      · by_contra none
        rw [if_neg none] at block
        exact List.not_mem_nil block
    · intro some
      rw [if_pos some]
      exact Or.inr List.mem_cons_self

/-- The guest book leads back to itself and to visitors, who are known by their system fields. -/
theorem relations_expand_alike_guestbook :
    ∃ c ∈ guestbook, ∃ d, responseType (.ofCollections guestbook) c = .ok d ∧
      (relationLines c).map (·.2) = ["\tanswers?: RecordIdString[]",
        "\t\"visitor?: any\\n\x7d\"?: RecordIdString"] ∧
      expandedLines (joinLines d.lines) = ["\t\tanswers?: GuestBookExportTypeXResponse[]",
        "\t\t\"visitor?: any\\n\x7d\"?: AuthSystemFields"] ∧
      "\texpand?: \x7b" ∈ textLines (joinLines d.lines) ∧
      List.Forall₂ (Expands (.ofCollections guestbook)) (relationLines c)
        (expandedLines (joinLines d.lines)) := by
  have own : ∀ field ∈ (guestbook.head (List.cons_ne_nil _ _)).fields,
      (Catalog.ofCollections guestbook).dangling? field = none := by decide
  have success := (responseType_eq_ok_iff (.ofCollections guestbook) _ _).mpr ⟨own, rfl⟩
  obtain ⟨block, -, agree⟩ := (relations_expand_alike (.ofCollections guestbook) _).2 _ success
  refine ⟨_, List.head_mem _, _, success, ?_, ?_, block.mpr ?_, agree⟩
  · rw [relationLines, readBody_recordText]
    decide
  · rw [expandedLines_resolvedResponse own]
    decide
  · exact ⟨_, List.mem_cons_of_mem _ List.mem_cons_self, "g", none, rfl⟩

end CollectionTypes.TypeScript
