import CollectionTypes.Proofs.QuotedText
import CollectionTypes.Proofs.WholeNumbers

/-!
# Texts of values

The compact text of a value, character by character: how it begins, and how a list or an object is
put together from its parts.
-/

namespace CollectionTypes.Json

/-- The first character of a value tells that a value begins, and whether it is `null`. -/
def Opens (v : Value) : Prop :=
  ∃ c more, v.compact.toList = c :: more ∧ isBlank c = false ∧ c ≠ ']' ∧ (c = 'n' → v = .null)

theorem Opens.length_pos {v : Value} (opens : Opens v) : 0 < v.compact.toList.length := by
  obtain ⟨c, more, shape, -⟩ := opens
  rw [shape, List.length_cons]
  exact Nat.succ_pos _

theorem opens_null : Opens .null :=
  ⟨'n', ['u', 'l', 'l'], rfl, by decide, by decide, fun _ => rfl⟩

theorem opens_bool (b : Bool) : Opens (.bool b) := by
  cases b
  · exact ⟨'f', ['a', 'l', 's', 'e'], rfl, by decide, by decide, fun wrong => by contradiction⟩
  · exact ⟨'t', ['r', 'u', 'e'], rfl, by decide, by decide, fun wrong => by contradiction⟩

theorem toList_compact_text (s : String) :
    (Value.text s).compact.toList = '"' :: (s.toList.flatMap escapeChar ++ ['"']) := by
  rw [Value.compact, quoted, String.toList_ofList, List.cons_append]

theorem opens_text (s : String) : Opens (.text s) :=
  ⟨'"', _, toList_compact_text s, by decide, by decide, fun wrong => absurd wrong (by decide)⟩

theorem ne_of_number_first {c d : Char} (first : (decide (c = '-') || c.isDigit) = true)
    (other : (decide (d = '-') || d.isDigit) = false) : c ≠ d := by
  rintro rfl
  rw [first] at other
  contradiction

/-- What every first character of a number is not. -/
theorem number_first {c : Char} (first : (decide (c = '-') || c.isDigit) = true) :
    isBlank c = false ∧ c ≠ ']' ∧ c ≠ 'n' ∧ c ≠ 't' ∧ c ≠ 'f' := by
  have other : ∀ d : Char, (decide (d = '-') || d.isDigit) = false → c ≠ d :=
    fun d => ne_of_number_first first
  refine ⟨?_, other _ (by decide), other _ (by decide), other _ (by decide), other _ (by decide)⟩
  simp only [isBlank, Bool.or_eq_false_iff, decide_eq_false_iff_not]
  exact ⟨⟨⟨other _ (by decide), other _ (by decide)⟩, other _ (by decide)⟩, other _ (by decide)⟩

theorem integer_first (n : Int) :
    ∃ c more, (Value.number (.integer n)).compact.toList = c :: more ∧
      (decide (c = '-') || c.isDigit) = true := by
  rw [Value.compact, Number.compact, toList_toString, signedDigits]
  by_cases negative : n < 0
  · exact ⟨'-', Nat.toDigits 10 n.natAbs, by rw [decide_eq_true negative, if_pos rfl], rfl⟩
  · obtain ⟨c, more, digits, isDigit, -⟩ := toDigits_first n.natAbs
    refine ⟨c, more, ?_, by rw [isDigit, Bool.or_true]⟩
    rw [decide_eq_false negative, if_neg Bool.false_ne_true, digits]

theorem opens_integer (n : Int) : Opens (.number (.integer n)) := by
  obtain ⟨c, more, shape, first⟩ := integer_first n
  obtain ⟨solid, notEnd, notNull, -⟩ := number_first first
  exact ⟨c, more, shape, solid, notEnd, fun null => absurd null notNull⟩

/-- What stands before an item of a list or an object. -/
def separator (first : Bool) : List Char :=
  if first then [] else [',']

/-- The items of a list or an object as they are written, from the first one on or behind it. -/
def separated {α : Type} (text : α → String) : Bool → List α → List Char
  | _, [] => []
  | first, a :: items => separator first ++ ((text a).toList ++ separated text false items)

theorem toList_intercalate {α : Type} (text : α → String) (items : List α) :
    (",".intercalate (items.map text)).toList = separated text true items := by
  induction items with
  | nil => rfl
  | cons a items ih =>
    cases items with
    | nil => simp [separated, separator]
    | cons b items =>
      rw [List.map_cons] at ih
      rw [List.map_cons, List.map_cons, String.intercalate_cons_cons, String.toList_append,
        String.toList_append, ih, List.append_assoc]
      rfl

/-- Behind an item stands a comma or the end of the whole. -/
theorem ends_separated {α : Type} (text : α → String) (items : List α) {closing : List Char}
    (ends : Ends closing) : Ends (separated text false items ++ closing) := by
  cases items with
  | nil => exact ends
  | cons a items => exact .comma _

theorem toList_compact_list (elements : List Value) :
    (Value.list elements).compact.toList =
      '[' :: (separated Value.compact true elements ++ [']']) := by
  have each : ∀ vs : List Value, Value.compactElements vs = vs.map Value.compact := by
    intro vs
    induction vs with
    | nil => rfl
    | cons v vs ih => rw [Value.compactElements, ih, List.map_cons]
  rw [Value.compact, each, String.toList_append, String.toList_append, toList_intercalate]
  rfl

/-- A member of an object as it is written. -/
def memberText (member : String × Value) : String :=
  quoted member.1 ++ ":" ++ member.2.compact

theorem toList_compact_object (members : List (String × Value)) :
    (Value.object members).compact.toList =
      '\x7b' :: (separated memberText true members ++ ['\x7d']) := by
  have each : ∀ ms : List (String × Value), Value.compactMembers ms = ms.map memberText := by
    intro ms
    induction ms with
    | nil => rfl
    | cons m ms ih => rw [Value.compactMembers, ih, List.map_cons, memberText]
  rw [Value.compact, each, String.toList_append, String.toList_append, toList_intercalate]
  rfl

theorem opens_list (elements : List Value) : Opens (.list elements) :=
  ⟨'[', _, toList_compact_list elements, by decide, by decide,
    fun wrong => absurd wrong (by decide)⟩

theorem opens_object (members : List (String × Value)) : Opens (.object members) :=
  ⟨'\x7b', _, toList_compact_object members, by decide, by decide,
    fun wrong => absurd wrong (by decide)⟩

end CollectionTypes.Json
