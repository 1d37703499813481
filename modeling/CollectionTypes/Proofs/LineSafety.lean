import CollectionTypes.Proofs.NameCharacters
import CollectionTypes.TypeScript.Module
import Mathlib.Tactic.SplitIfs

/-!
# Line safety

Names and texts of a database get into a module as pascal-cased names, as parameters, as property
keys and as literals. None of the four ways lets a line break through, so the lines that a module is
written in are the lines of its text.
-/

namespace CollectionTypes.TypeScript

/-- The pieces of a text between its line breaks. -/
def textLines (text : String) : List String :=
  (text.split '\n').toList.map (·.copy)

/-- A text without a line break. -/
def OneLine (s : String) : Prop :=
  '\n' ∉ s.toList

instance (s : String) : Decidable (OneLine s) :=
  inferInstanceAs (Decidable ('\n' ∉ s.toList))

/-- Texts are joined without a break of their own. -/
@[simp] theorem oneLine_append (s t : String) : OneLine (s ++ t) ↔ OneLine s ∧ OneLine t := by
  simp [OneLine, not_or]

/-- What stands in parts put together stands in one of them or between them. -/
theorem mem_intercalate {α : Type} {a : α} {separator : List α} {parts : List (List α)}
    (member : a ∈ separator.intercalate parts) : a ∈ separator ∨ ∃ part ∈ parts, a ∈ part := by
  induction parts with
  | nil => simp at member
  | cons first rest ih =>
    cases rest with
    | nil => exact Or.inr ⟨first, by simp, by simpa using member⟩
    | cons second others =>
      rw [List.intercalate_cons_cons, List.mem_append, List.mem_append] at member
      rcases member with (inFirst | between) | behind
      · exact Or.inr ⟨first, by simp, inFirst⟩
      · exact Or.inl between
      · rcases ih behind with between | ⟨part, inRest, inPart⟩
        · exact Or.inl between
        · exact Or.inr ⟨part, List.mem_cons_of_mem first inRest, inPart⟩

/-- Items of one line each make one line, where the text between them does. -/
theorem oneLine_intercalate {separator : String} {items : List String}
    (between : OneLine separator) (each : ∀ item ∈ items, OneLine item) :
    OneLine (separator.intercalate items) := by
  intro member
  rw [String.toList_intercalate] at member
  rcases mem_intercalate member with inSeparator | ⟨part, inParts, inPart⟩
  · exact between inSeparator
  · obtain ⟨item, inItems, rfl⟩ := List.mem_map.mp inParts
    exact each item inItems inPart

/-- Pascal case keeps letters and digits only, so a break in a name is dropped. -/
theorem oneLine_pascalCase (name : String) : OneLine (pascalCase name) := by
  intro member
  have nameChar := isNameChar_of_mem_pascalCase member
  revert nameChar
  decide

/-- In the name of a parameter a break is escaped like any other separator. -/
theorem oneLine_parameterName (field : String) : OneLine (parameterName field) := by
  intro member
  have part := isIdentifierPart_of_mem_parameterName member
  revert part
  decide

/-- A literal writes a break as an escape. -/
theorem oneLine_literal (s : String) : OneLine (literal s) := by
  intro member
  simp only [literal, String.toList_ofList, List.mem_cons, List.mem_append, List.mem_flatMap,
    List.not_mem_nil, or_false] at member
  rcases member with quote | ⟨c, _, inside⟩ | quote
  · exact absurd quote (by decide)
  · -- A line break stands as a backslash and an `n`; the other escapes have none in them.
    rw [literalChar] at inside
    split_ifs at inside with _ _ broken
    all_goals simp at inside
    exact broken inside.symm
  · exact absurd quote (by decide)

/-- An identifier has no room for a break. -/
theorem oneLine_of_isPlainIdentifier {s : String} (plain : isPlainIdentifier s = true) :
    OneLine s := by
  intro member
  rw [isPlainIdentifier] at plain
  split at plain
  · exact absurd plain Bool.false_ne_true
  next first rest split =>
    rw [split] at member
    obtain ⟨start, parts⟩ := Bool.and_eq_true_iff.mp plain
    rcases List.mem_cons.mp member with rfl | inRest
    · revert start
      decide
    · have part := List.all_eq_true.mp parts '\n' inRest
      revert part
      decide

/-- A name that holds a break is no identifier, so it is written as a literal. -/
theorem oneLine_propertyKey (name : String) : OneLine (propertyKey name) := by
  rw [propertyKey]
  split
  next bare => exact oneLine_of_isPlainIdentifier (Bool.and_eq_true_iff.mp bare).1
  · exact oneLine_literal name

theorem oneLine_recordTypeName (collection : String) : OneLine (recordTypeName collection) := by
  rw [recordTypeName, oneLine_append]
  exact ⟨oneLine_pascalCase collection, by decide⟩

theorem oneLine_responseTypeName (collection : String) : OneLine (responseTypeName collection) := by
  rw [responseTypeName, oneLine_append]
  exact ⟨oneLine_pascalCase collection, by decide⟩

theorem oneLine_optionEnumName (collection field : String) :
    OneLine (optionEnumName collection field) := by
  rw [optionEnumName, oneLine_append, oneLine_append]
  exact ⟨⟨oneLine_pascalCase collection, oneLine_pascalCase field⟩, by decide⟩

theorem oneLine_systemFieldsOf (kind : CollectionKind) : OneLine (systemFieldsOf kind) := by
  cases kind <;> decide

/-- Brackets add no break to the items that they hold. -/
theorem oneLine_angled (items : List String) (each : ∀ item ∈ items, OneLine item) :
    OneLine (angled items) := by
  rw [angled]
  split
  · decide
  · simp only [oneLine_append]
    exact ⟨⟨by decide, oneLine_intercalate (by decide) each⟩, by decide⟩

theorem oneLine_of_mem_parametersOf {fields : List Field} {parameter : String}
    (member : parameter ∈ parametersOf fields) : OneLine parameter := by
  obtain ⟨field, _, rfl⟩ := List.mem_map.mp member
  exact oneLine_parameterName field.name

theorem oneLine_parameterReference (fields : List Field) :
    OneLine (parameterReference (parametersOf fields)) :=
  oneLine_angled _ fun _ member => oneLine_of_mem_parametersOf member

theorem oneLine_parameterDeclaration (fields : List Field) :
    OneLine (parameterDeclaration (parametersOf fields)) := by
  apply oneLine_angled
  intro item member
  obtain ⟨parameter, inParameters, rfl⟩ := List.mem_map.mp member
  rw [oneLine_append]
  exact ⟨oneLine_of_mem_parametersOf inParameters, by decide⟩

theorem oneLine_ofCount (many : Bool) (type : Scalar) (each : OneLine type.text) :
    OneLine (TypeExpr.ofCount many type).text := by
  cases many with
  | false => exact each
  | true => exact (oneLine_append type.text "[]").mpr ⟨each, by decide⟩

/-- Of what a field says only its name comes into its type, in pascal case or escaped. -/
theorem oneLine_fieldType (collection : String) (field : Field) :
    OneLine (fieldType collection field).text := by
  cases kind : field.kind with
  | text | email | url | number | bool | date =>
    simp only [fieldType, kind]
    decide
  | json =>
    rw [fieldType, kind]
    exact (oneLine_append _ _).mpr ⟨by decide, oneLine_parameterName field.name⟩
  | select values limit =>
    cases values with
    | none =>
      rw [fieldType, kind]
      exact oneLine_ofCount _ _ (by decide)
    | some values =>
      rw [fieldType, kind]
      exact oneLine_ofCount _ _ (oneLine_optionEnumName collection field.name)
  | file limit | relation _ limit | user limit =>
    rw [fieldType, kind]
    exact oneLine_ofCount _ _ (by decide)

/-- The target of a relation is named by a declared name. -/
theorem oneLine_expandedType (target : Collection) : OneLine (expandedType target).text := by
  rw [expandedType, Scalar.text]
  split
  · exact oneLine_responseTypeName target.name
  · exact oneLine_systemFieldsOf target.kind

/-- A property is one line, whatever its name is. -/
theorem Property.oneLine_line (p : Property) (type : OneLine p.type.text) : OneLine p.line := by
  simp only [Property.line, Property.text, Property.marker, oneLine_append]
  refine ⟨by decide, ⟨⟨oneLine_propertyKey p.name, ?_⟩, by decide⟩, type⟩
  split <;> decide

/-- The value of an enum member is a literal, so only its key could break the line. -/
theorem EnumMember.oneLine_line (m : EnumMember) (key : OneLine m.key.text) : OneLine m.line := by
  simp only [EnumMember.line, oneLine_append]
  exact ⟨⟨⟨⟨by decide, key⟩, by decide⟩, oneLine_literal m.value⟩, by decide⟩

/-- Lines without line breaks are found again in the text that they are joined to. -/
theorem textLines_joinLines {lines : List String} (some : lines ≠ [])
    (each : ∀ line ∈ lines, OneLine line) : textLines (joinLines lines) = lines := by
  rw [textLines, joinLines]
  have found := String.toList_split_intercalate (c := '\n') (l := lines) each
  rw [if_neg some] at found
  exact found

end CollectionTypes.TypeScript
