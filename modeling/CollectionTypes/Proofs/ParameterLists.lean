import CollectionTypes.Proofs.ExpandedRelations
import CollectionTypes.Proofs.ParameterNames

/-!
# Parameter lists

The parameters of a collection are listed three times, and their names stand in a fourth place: the
record type introduces them, its json fields use them, the response type introduces them again and
passes them on to the record type. Each place is read by itself, by someone who knows only brackets,
commas and the equals sign. No name holds any of these, so the lists are split where they were
joined, and all four places tell the same names in the same order.

Specification: section 4.2 (declaration form and reference form).
-/

namespace CollectionTypes.TypeScript

/-- The parts of a text between one comma with a blank behind it and the next. -/
def splitItems : List Char → List (List Char)
  | ',' :: ' ' :: rest => [] :: splitItems rest
  | c :: rest => (splitItems rest).modifyHead (c :: ·)
  | [] => [[]]

/-- The items between the brackets; without brackets there are none. -/
def bracketItems (brackets : String) : List String :=
  match brackets.toList with
  | '<' :: inside => (splitItems inside.dropLast).map .ofList
  | _ => []

/-- A type by its name, with the brackets that stand behind the name and the text behind both. -/
structure TypeMention where
  name : String
  brackets : String
  behind : List Char

namespace TypeMention

def continuesName (c : Char) : Bool :=
  c != ' ' && c != '<'

/-- The brackets that a text starts with, up to the first one that closes. -/
def leadingBrackets (text : List Char) : List Char :=
  if text.head? = some '<' then text.takeWhile (· != '>') ++ ['>'] else []

def read (text : List Char) : TypeMention :=
  let behindName := text.dropWhile continuesName
  let brackets := leadingBrackets behindName
  ⟨.ofList (text.takeWhile continuesName), .ofList brackets, behindName.drop brackets.length⟩

/-- The type that a line declares. -/
def declaredBy? (line : String) : Option TypeMention :=
  if opensType line then some (read (line.toList.drop "export type ".toList.length)) else none

/-- What is applied, where the type is declared to be a type that is applied. -/
def definition? (m : TypeMention) : Option TypeMention :=
  match m.behind with
  | ' ' :: '=' :: ' ' :: text => some (read text)
  | _ => none

def items (m : TypeMention) : List String :=
  bracketItems m.brackets

/-- The names that the items begin with. -/
def names (m : TypeMention) : List String :=
  m.items.map fun item => .ofList (item.toList.takeWhile (· != ' '))

end TypeMention

/-- The parameter that may stand for the values of a property. -/
def usedParameter? (line : String) : Option String :=
  (SpelledProperty.read? 1 line).bind fun p =>
    let type := p.told.type.toList
    if "null | ".toList.isPrefixOf type then some (.ofList (type.drop "null | ".toList.length))
    else none

/-- The record type introduces the parameters that its fields use: one for each json field, in the
order of the schema. -/
structure IntroducesUsed (c : Collection) (record : TypeMention) : Prop where
  name : record.name = recordTypeName c.name
  distinct : record.names.Nodup
  ordered : record.names = (c.fields.filter (·.kind = .json)).map fun field =>
    parameterName field.name
  usedInOrder : (readBody (typeBody (recordText c))).filterMap usedParameter? = record.names
  used : (readBody (typeBody (recordText c))).map usedParameter? = c.fields.map fun field =>
    if field.kind = .json then some (parameterName field.name) else none

/-- The response type introduces the parameters by the same text, and the record type gets all of
them. -/
structure PassesOn (record response : TypeMention) : Prop where
  brackets : response.brackets = record.brackets
  passed : ∃ passed, response.definition? = some passed ∧ passed.name = record.name ∧
    passed.items = record.names

section Items

/-- An item without commas is read as it stands. -/
theorem splitItems_item {item : List Char} (whole : ',' ∉ item) : splitItems item = [item] := by
  induction item with
  | nil => rfl
  | cons c item ih =>
    rw [List.mem_cons, not_or] at whole
    rw [splitItems, ih whole.2, List.modifyHead_cons]
    intro _ comma
    exact absurd comma.symm whole.1

theorem splitItems_append {item : List Char} (whole : ',' ∉ item) (rest : List Char) :
    splitItems (item ++ ", ".toList ++ rest) = item :: splitItems rest := by
  induction item with
  | nil => rfl
  | cons c item ih =>
    rw [List.mem_cons, not_or] at whole
    rw [List.cons_append, List.cons_append, splitItems, ih whole.2, List.modifyHead_cons]
    intro _ comma
    exact absurd comma.symm whole.1

/-- Joined items come apart again. -/
theorem splitItems_intercalate {items : List (List Char)} (some : items ≠ [])
    (whole : ∀ item ∈ items, ',' ∉ item) :
    splitItems (", ".toList.intercalate items) = items := by
  induction items with
  | nil => exact absurd rfl some
  | cons item items ih =>
    have first := whole item List.mem_cons_self
    have others : ∀ item ∈ items, ',' ∉ item := fun item member =>
      whole item (List.mem_cons_of_mem _ member)
    cases items with
    | nil => rw [List.intercalate_singleton, splitItems_item first]
    | cons second items =>
      rw [List.intercalate_cons_cons, splitItems_append first, ih (List.cons_ne_nil _ _) others]

theorem angled_eq_empty_iff (items : List String) : angled items = "" ↔ items = [] := by
  rw [angled, ← List.isEmpty_iff]
  split
  next none => exact ⟨fun _ => none, fun _ => rfl⟩
  next some => simp [some]

theorem toList_angled {items : List String} (some : items ≠ []) :
    (angled items).toList = '<' :: (", ".toList.intercalate (items.map (·.toList)) ++ ['>']) := by
  have notEmpty : ¬ items.isEmpty = true := fun empty => some (List.isEmpty_iff.mp empty)
  rw [angled, if_neg notEmpty, String.toList_append, String.toList_append,
    String.toList_intercalate]
  rfl

theorem bracketItems_angled {items : List String} (whole : ∀ item ∈ items, ',' ∉ item.toList) :
    bracketItems (angled items) = items := by
  by_cases none : items = []
  · rw [none]
    rfl
  · have pieces : ∀ piece ∈ items.map (·.toList), ',' ∉ piece := by
      intro piece member
      obtain ⟨item, inItems, rfl⟩ := List.mem_map.mp member
      exact whole item inItems
    have same : (String.ofList ∘ fun item : String => item.toList) = id :=
      funext fun item => String.ofList_toList
    rw [bracketItems, toList_angled none]
    simp only [List.dropLast_concat]
    rw [splitItems_intercalate (by simpa using none) pieces, List.map_map, same, List.map_id]

end Items

section Mentions

variable {name : String} {items : List String} {behind : List Char}

/-- Brackets are read to their end, as no item closes them. -/
theorem leadingBrackets_angled (closed : ∀ item ∈ items, '>' ∉ item.toList)
    (ends : behind.head? = some ' ') :
    TypeMention.leadingBrackets ((angled items).toList ++ behind) = (angled items).toList := by
  by_cases none : items = []
  · have open? : ¬ behind.head? = some '<' := by
      rw [ends]
      decide
    rw [(angled_eq_empty_iff items).mpr none]
    exact if_neg open?
  · have inside : ∀ c ∈ '<' :: ", ".toList.intercalate (items.map (·.toList)),
        (c != '>') = true := by
      intro c member
      rw [bne_iff_ne]
      rintro rfl
      rcases List.mem_cons.mp member with bracket | between
      · exact absurd bracket (by decide)
      · rcases mem_intercalate between with separator | ⟨piece, inPieces, inPiece⟩
        · exact absurd separator (by decide)
        · obtain ⟨item, inItems, rfl⟩ := List.mem_map.mp inPieces
          exact closed item inItems inPiece
    -- The first bracket that closes is the last character of the list.
    have parted : (angled items).toList ++ behind =
        ('<' :: ", ".toList.intercalate (items.map (·.toList))) ++ '>' :: behind := by
      rw [toList_angled none, List.cons_append, List.cons_append, List.append_assoc]
      rfl
    rw [parted, TypeMention.leadingBrackets, if_pos (by rfl), List.takeWhile_append_of_pos inside,
      List.takeWhile_cons_of_neg (by decide), List.append_nil, toList_angled none]
    rfl

/-- A type is read as it was written, up to what stands behind it. -/
theorem TypeMention.read_angled (word : isWord name = true)
    (closed : ∀ item ∈ items, '>' ∉ item.toList) (ends : behind.head? = some ' ') :
    read (name.toList ++ ((angled items).toList ++ behind)) = ⟨name, angled items, behind⟩ := by
  have within : ∀ c ∈ name.toList, continuesName c = true := continues_of_isWord word
  have stop : ∃ c rest, (angled items).toList ++ behind = c :: rest ∧
      ¬ continuesName c = true := by
    by_cases none : items = []
    · obtain ⟨rest, rfl⟩ := List.head?_eq_some_iff.mp ends
      rw [(angled_eq_empty_iff items).mpr none]
      exact ⟨' ', rest, rfl, by decide⟩
    · rw [toList_angled none]
      exact ⟨'<', _, rfl, by decide⟩
  obtain ⟨c, rest, split, stops⟩ := stop
  have taken : (name.toList ++ ((angled items).toList ++ behind)).takeWhile continuesName =
      name.toList := by
    rw [split, List.takeWhile_append_of_pos within, List.takeWhile_cons_of_neg stops,
      List.append_nil]
  have left : (name.toList ++ ((angled items).toList ++ behind)).dropWhile continuesName =
      (angled items).toList ++ behind := by
    rw [split, List.dropWhile_append_of_pos within, List.dropWhile_cons_of_neg stops]
  rw [read, taken, left]
  simp only [leadingBrackets_angled closed ends, String.ofList_toList, List.drop_left]

theorem declaredBy?_exported {line : String} {text : List Char}
    (exported : line.toList = "export type ".toList ++ text) :
    TypeMention.declaredBy? line = some (TypeMention.read text) := by
  rw [TypeMention.declaredBy?, opensType, exported, List.drop_left]
  exact if_pos (List.isPrefixOf_iff_prefix.mpr (List.prefix_append _ _))

theorem definition?_behind (name brackets : String) (text : List Char) :
    (TypeMention.mk name brackets (" = ".toList ++ text)).definition? =
      some (TypeMention.read text) :=
  rfl

end Mentions

section Parameters

variable (fields : List Field)

theorem not_mem_parameter {c : Char} (other : isIdentifierPart c = false) :
    ∀ parameter ∈ parametersOf fields, c ∉ parameter.toList := by
  intro parameter member inside
  obtain ⟨field, _, rfl⟩ := List.mem_map.mp member
  rw [isIdentifierPart_of_mem_parameterName inside] at other
  exact absurd other (by decide)

theorem not_mem_introduced {c : Char} (other : isIdentifierPart c = false)
    (between : c ∉ " = unknown".toList) :
    ∀ item ∈ (parametersOf fields).map (· ++ " = unknown"), c ∉ item.toList := by
  intro item member
  obtain ⟨parameter, isParameter, rfl⟩ := List.mem_map.mp member
  rw [String.toList_append, List.mem_append, not_or]
  exact ⟨not_mem_parameter fields other parameter isParameter, between⟩

theorem bracketItems_parameterReference :
    bracketItems (parameterReference (parametersOf fields)) = parametersOf fields :=
  bracketItems_angled (not_mem_parameter fields (by decide))

theorem bracketItems_parameterDeclaration :
    bracketItems (parameterDeclaration (parametersOf fields)) =
      (parametersOf fields).map (· ++ " = unknown") :=
  bracketItems_angled (not_mem_introduced fields (by decide) (by decide))

/-- Behind the name of an introduced parameter there is a blank, which the name has none of. -/
theorem names_parameterDeclaration (name : String) (behind : List Char) :
    (TypeMention.mk name (parameterDeclaration (parametersOf fields)) behind).names =
      parametersOf fields := by
  rw [TypeMention.names, TypeMention.items, bracketItems_parameterDeclaration, List.map_map]
  have each : ∀ parameter ∈ parametersOf fields,
      String.ofList ((parameter ++ " = unknown").toList.takeWhile (· != ' ')) = parameter := by
    intro parameter member
    have within : ∀ c ∈ parameter.toList, (c != ' ') = true := by
      intro c inside
      rw [bne_iff_ne]
      rintro rfl
      exact not_mem_parameter fields (by decide) parameter member inside
    rw [String.toList_append, List.takeWhile_append_of_pos within]
    refine (congrArg String.ofList (List.append_nil _)).trans String.ofList_toList
  exact (List.map_congr_left each).trans (List.map_id _)

theorem parametersOf_eq_nil_iff :
    parametersOf fields = [] ↔ ∀ field ∈ fields, field.kind ≠ .json := by
  simp [parametersOf, Field.isJson, List.filter_eq_nil_iff]

/-- The parameter tells the field, so the fields must have different names. -/
theorem nodup_parametersOf (distinct : (fields.map (·.name)).Nodup) :
    (parametersOf fields).Nodup := by
  have told : (parametersOf fields).map fieldOfParameter? =
      ((fields.filter (·.isJson)).map (·.name)).map some := by
    rw [parametersOf, List.map_map, List.map_map]
    apply List.map_congr_left
    intro field _
    rw [Function.comp_apply, fieldOfParameter?_parameterName, Function.comp_apply]
  have json : ((fields.filter (·.isJson)).map (·.name)).Nodup :=
    distinct.sublist (List.filter_sublist.map _)
  apply List.Nodup.of_map fieldOfParameter?
  rw [told]
  exact json.map fun _ _ => Option.some.inj

end Parameters

section Uses

variable {collection : String} {field : Field}

theorem blank_not_mem_ofCount (many : Bool) {type : Scalar} (word : ' ' ∉ type.text.toList) :
    ' ' ∉ (TypeExpr.ofCount many type).text.toList := by
  cases many with
  | false => exact word
  | true =>
    rw [TypeExpr.ofCount, if_pos rfl, TypeExpr.text, String.toList_append, List.mem_append, not_or]
    exact ⟨word, by decide⟩

theorem blank_not_mem_fieldType (other : field.kind ≠ .json) :
    ' ' ∉ (fieldType collection field).text.toList := by
  rw [fieldType]
  cases kind : field.kind with
  | json => exact absurd kind other
  | text | email | url | number | bool | date =>
    simp only [TypeExpr.text, Scalar.text]
    decide
  | select values limit =>
    cases values with
    | none => exact blank_not_mem_ofCount _ (by decide)
    | some values =>
      refine blank_not_mem_ofCount _ ?_
      intro blank
      have word := isWord_optionEnumName collection field.name
      exact absurd (List.all_eq_true.mp word ' ' blank) (by decide)
  | file limit | user limit | relation _ limit => exact blank_not_mem_ofCount _ (by decide)

/-- Only the type of a json field has `null` and a blank in front. -/
theorem usedParameter?_line (field : Field) :
    usedParameter? (fieldProperty collection field).line =
      if field.kind = .json then some (parameterName field.name) else none := by
  rw [usedParameter?, SpelledProperty.read?_line, Option.bind_some, fieldProperty]
  by_cases json : field.kind = .json
  · have type : (fieldType collection field).text.toList =
        "null | ".toList ++ (parameterName field.name).toList := by
      rw [fieldType, json]
      exact String.toList_append
    simp only [type, List.drop_left, String.ofList_toList]
    rw [if_pos (List.isPrefixOf_iff_prefix.mpr (List.prefix_append _ _)), if_pos json]
  · rw [if_neg json]
    refine if_neg ?_
    rw [List.isPrefixOf_iff_prefix]
    intro isPrefix
    exact blank_not_mem_fieldType json (isPrefix.subset (by decide))

end Uses

section Headers

variable {catalog : Catalog} (c : Collection)

/-- The record type, where it is declared. -/
def declaredRecord : TypeMention :=
  ⟨recordTypeName c.name, parameterDeclaration (parametersOf c.fields), " = \x7b".toList⟩

theorem names_declaredRecord : (declaredRecord c).names = parametersOf c.fields :=
  names_parameterDeclaration c.fields _ _

theorem declaredBy?_recordHeader :
    TypeMention.declaredBy? (recordHeader c) = some (declaredRecord c) := by
  have text : (recordHeader c).toList = "export type ".toList ++ ((recordTypeName c.name).toList ++
      ((parameterDeclaration (parametersOf c.fields)).toList ++ " = \x7b".toList)) := by
    unfold recordHeader
    simp only [String.toList_append, List.append_assoc]
  rw [declaredBy?_exported text]
  exact congrArg some (TypeMention.read_angled (isWord_recordTypeName c.name)
    (not_mem_introduced c.fields (by decide) (by decide)) rfl)

/-- What a response type is made of begins with the record type and all parameters. -/
theorem declaredBy?_responseHeader : ∃ response passed,
    TypeMention.declaredBy? (responseHeader c) = some response ∧
      response.definition? = some passed ∧
      response.name = responseTypeName c.name ∧
      response.brackets = parameterDeclaration (parametersOf c.fields) ∧
      passed.name = recordTypeName c.name ∧
      passed.brackets = parameterReference (parametersOf c.fields) := by
  obtain ⟨behind, text, blank⟩ : ∃ behind, (responseHeader c).toList =
      "export type ".toList ++ ((responseTypeName c.name).toList ++
        ((parameterDeclaration (parametersOf c.fields)).toList ++ (" = ".toList ++
          ((recordTypeName c.name).toList ++
            ((parameterReference (parametersOf c.fields)).toList ++ behind))))) ∧
      behind.head? = some ' ' := by
    refine ⟨" & ".toList ++ ((systemFieldsOf c.kind).toList ++
      (if c.fields.any (·.target?.isSome) then " & \x7b" else "").toList), ?_, rfl⟩
    unfold responseHeader
    simp only [String.toList_append, List.append_assoc]
  have response (definition : List Char) :
      TypeMention.read ((responseTypeName c.name).toList ++
        ((parameterDeclaration (parametersOf c.fields)).toList ++ (" = ".toList ++ definition))) =
      ⟨responseTypeName c.name, parameterDeclaration (parametersOf c.fields),
        " = ".toList ++ definition⟩ :=
    TypeMention.read_angled (isWord_responseTypeName c.name)
      (not_mem_introduced c.fields (by decide) (by decide)) rfl
  refine ⟨_, ⟨recordTypeName c.name, parameterReference (parametersOf c.fields), behind⟩,
    declaredBy?_exported text, ?_, ?_⟩
  · rw [response, definition?_behind, parameterReference,
      TypeMention.read_angled (isWord_recordTypeName c.name)
        (not_mem_parameter c.fields (by decide)) blank]
  · rw [response]
    exact ⟨rfl, rfl, rfl, rfl⟩

theorem introducesUsed (distinct : (c.fields.map (·.name)).Nodup) :
    IntroducesUsed c (declaredRecord c) where
  name := rfl
  distinct := by
    rw [names_declaredRecord]
    exact nodup_parametersOf c.fields distinct
  ordered := by
    rw [names_declaredRecord]
    rfl
  usedInOrder := by
    have used : (usedParameter? ∘ fun field => (fieldProperty c.name field).line) = fun field =>
        if field.isJson then some (parameterName field.name) else none := by
      funext field
      rw [Function.comp_apply, usedParameter?_line]
      simp [Field.isJson]
    rw [names_declaredRecord, readBody_recordText, List.filterMap_map, used, parametersOf,
      ← List.filterMap_eq_map, List.filterMap_filter]
    rfl
  used := by
    rw [readBody_recordText, List.map_map]
    apply List.map_congr_left
    intro field _
    rw [Function.comp_apply, usedParameter?_line]

theorem passesOn (own : ∀ field ∈ c.fields, catalog.dangling? field = none) :
    ∃ response,
      (textLines (joinLines (resolvedResponse catalog c).lines)).head?.bind
        TypeMention.declaredBy? = some response ∧
      response.name = responseTypeName c.name ∧ PassesOn (declaredRecord c) response := by
  obtain ⟨response, passed, declared, definition, name, brackets, record, reference⟩ :=
    declaredBy?_responseHeader c
  refine ⟨response, ?_, name, brackets, passed, definition, record, ?_⟩
  · rw [textLines_resolvedResponse own, List.head?_cons, Option.bind_some, declared]
  · rw [TypeMention.items, reference, names_declaredRecord]
    exact bracketItems_parameterReference c.fields

end Headers

/-- The lists of a collection agree: what the record type introduces is what its json fields use and
what the response type introduces and passes on. As a text, the list of the parameters comes apart
into their names, and it is empty only where there are none. -/
theorem parameter_lists_agree (c : Collection) (distinct : (c.fields.map (·.name)).Nodup) :
    ∃ record, (typeLines (recordText c)).head?.bind TypeMention.declaredBy? = some record ∧
      IntroducesUsed c record ∧
      (∀ catalog d, responseType catalog c = .ok d → ∃ response,
        (textLines (joinLines d.lines)).head?.bind TypeMention.declaredBy? = some response ∧
        response.name = responseTypeName c.name ∧ PassesOn record response) ∧
      record.brackets = parameterDeclaration (parametersOf c.fields) ∧
      bracketItems (parameterDeclaration (parametersOf c.fields)) =
        record.names.map (· ++ " = unknown") ∧
      bracketItems (parameterReference (parametersOf c.fields)) = record.names ∧
      (parameterDeclaration (parametersOf c.fields) = "" ↔ ∀ field ∈ c.fields, field.kind ≠ .json) ∧
      (parameterReference (parametersOf c.fields) = "" ↔ ∀ field ∈ c.fields, field.kind ≠ .json) := by
  have introduced : (typeLines (recordText c)).head?.bind TypeMention.declaredBy? =
      some (declaredRecord c) := by
    have first : (typeLines (recordText c)).head? = some (recordHeader c) := by
      rw [typeLines_recordText]
      rfl
    rw [first, Option.bind_some, declaredBy?_recordHeader]
  refine ⟨declaredRecord c, introduced, introducesUsed c distinct, ?_, rfl, ?_, ?_, ?_, ?_⟩
  · intro catalog d success
    obtain ⟨own, rfl⟩ := (responseType_eq_ok_iff catalog c d).mp success
    exact passesOn c own
  · rw [names_declaredRecord]
    exact bracketItems_parameterDeclaration c.fields
  · rw [names_declaredRecord]
    exact bracketItems_parameterReference c.fields
  · rw [parameterDeclaration, angled_eq_empty_iff, List.map_eq_nil_iff, parametersOf_eq_nil_iff]
  · rw [parameterReference, angled_eq_empty_iff, parametersOf_eq_nil_iff]

/-- Two json fields with similar names and another field in between. -/
def things : Collection :=
  { Collection.withoutFields "t" "things" .auth with
    schema := some [.plain "meta-info" .json, .plain "title" .text, .plain "meta_info" .json] }

theorem parameter_lists_agree_things :
    (things.fields.map (·.name)).Nodup ∧
      ∃ record response, record.name = "ThingsRecord" ∧
        record.names = ["Tmeta$2d$info", "Tmeta_info"] ∧
        IntroducesUsed things record ∧
        response.name = "ThingsResponse" ∧ PassesOn record response ∧
        bracketItems "<Tmeta$2d$info, Tmeta_info>" = record.names := by
  have distinct : (things.fields.map (·.name)).Nodup := by decide
  have success : responseType (.ofCollections [things]) things =
      .ok (resolvedResponse (.ofCollections [things]) things) :=
    (responseType_eq_ok_iff _ _ _).mpr ⟨by decide, rfl⟩
  obtain ⟨record, -, introduces, passes, -, -, reference, -⟩ := parameter_lists_agree things distinct
  obtain ⟨response, -, name, passed⟩ := passes _ _ success
  refine ⟨distinct, record, response, introduces.name.trans ?_, introduces.ordered.trans ?_,
    introduces, name.trans ?_, passed, Eq.trans ?_ reference⟩
  all_goals decide

end CollectionTypes.TypeScript
