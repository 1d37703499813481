import CollectionTypes.Proofs.DecimalNumerals
import CollectionTypes.Proofs.DocumentOutcomes
import CollectionTypes.Proofs.SelectionCounts

/-!
# Limits in documents

What a document says of the limit of a field, told from the numeral that stands there. The limit of
this field is what the numeral counts as, and nothing else comes of the numeral.

Specification: section 4.0 (`maxSelect` as it is written).
-/

namespace CollectionTypes

open Json

/-- The kind with another limit. Kinds without a limit stay as they are. -/
def FieldKind.withLimit (limit : SelectionLimit) : FieldKind → FieldKind
  | .select values _ => .select values limit
  | .file _ => .file limit
  | .relation target _ => .relation target limit
  | .user _ => .user limit
  | kind => kind

def Field.withLimit (limit : SelectionLimit) (field : Field) : Field :=
  { field with kind := field.kind.withLimit limit }

namespace Document

/-- The limit of field `j` of collection `i` is a numeral, whatever was there before. -/
inductive Relimited (i j : Nat) (literal : NumeralText) : String → String → Prop
  | collection {before behind : Blank} {tree tree' : Tree}
      (changed : AtPlace i (AtMember CollectionEntry.shape.keys "schema"
        (AtPlace j (AtMember FieldEntry.shape.keys "options"
          (AtMember FieldOptions.shape.keys "maxSelect" fun _ value => value = .number literal))))
        tree tree') :
      Relimited i j literal (text before tree behind) (text before tree' behind)

/-- How a limit that stands for a rational number is counted. -/
structure Counted (v : ℚ) (count : UInt32) : Prop where
  size : count.toNat = if v < 1 then 0 else min ⌈v⌉₊ greatestLimit
  many : SelectionLimit.allowsMany (some count) = true ↔ 1 < v
  one : SelectionLimit.isExactlyOne (some count) = true ↔ v = 1

end Document

section Entries

variable {literal : NumeralText} {x : Binary64}

theorem FieldKind.ofType?_withLimit (type : String) (options : FieldOptions)
    (limit : SelectionLimit) :
    ofType? type { options with limit } = (ofType? type options).map (withLimit limit) := by
  unfold ofType?
  split <;> rfl

/-- The entry with another limit in its options. -/
def FieldEntry.withLimit (limit : SelectionLimit) (f : FieldEntry) : FieldEntry :=
  { f with options := { f.options with limit } }

theorem FieldEntry.field_withLimit (limit : SelectionLimit) (f : FieldEntry) :
    (f.withLimit limit).field = f.field.withLimit limit := by
  simp only [field, withLimit, Field.withLimit, FieldKind.ofType?_withLimit]
  cases FieldKind.ofType? f.type f.options <;> rfl

theorem FieldOptions.carries_numeral (finite : literal.double? = some x) :
    Carries (Reader.record shape)
      (AtMember shape.keys "maxSelect" fun _ value => value = .number literal)
      fun o o' => o' = { o with limit := some (selectionCount x) } := by
  have read : Carries (Reader.optional Reader.doubleValue)
      (fun _ value => value = .number literal) fun _ limit => limit = some x := by
    rintro _ _ _ rfl -
    refine ⟨some x, ?_, rfl⟩
    rw [Makes.doubleValue.optional.made?_eq]
    exact congrArg (Option.map some) finite
  intro tree tree' o changed made
  obtain ⟨o', made', others, _, _, rfl, rfl, rfl⟩ :=
    read.record regular localReads (List.mem_of_getElem? (i := 0) rfl) tree tree' o changed made
  exact ⟨_, made', rfl⟩

theorem FieldEntry.carries_numeral (finite : literal.double? = some x) :
    Carries (Reader.record shape)
      (AtMember shape.keys "options"
        (AtMember FieldOptions.shape.keys "maxSelect" fun _ value => value = .number literal))
      fun f f' => f' = f.withLimit (some (selectionCount x)) := by
  intro tree tree' f changed made
  obtain ⟨f', made', others, o, _, rfl, rfl, rfl⟩ :=
    (FieldOptions.carries_numeral finite).record regular localReads
      (List.mem_of_getElem? (i := 6) rfl) tree tree' f changed made
  exact ⟨_, made', rfl⟩

theorem CollectionEntry.carries_numeral (finite : literal.double? = some x) (j : Nat) :
    Carries (Reader.record shape)
      (AtMember shape.keys "schema" (AtPlace j (AtMember FieldEntry.shape.keys "options"
        (AtMember FieldOptions.shape.keys "maxSelect" fun _ value => value = .number literal))))
      fun c c' => ∃ fields f, c.schema = some fields ∧ fields[j]? = some f ∧
        c' = { c with schema := some (fields.set j (f.withLimit (some (selectionCount x)))) } := by
  intro tree tree' c changed made
  have fields := (FieldEntry.carries_numeral finite).listValueAt FieldEntry.makes j
  have schema := fields.optional FieldEntry.makes.listValue.self (by
    rintro tree tree' ⟨⟩
    exact ⟨Tree.noConfusion, Tree.noConfusion⟩)
  obtain ⟨c', made', others, _, _, ⟨fields, _, ⟨f, _, rfl, isPlace, rfl⟩, rfl, rfl⟩, rfl, rfl⟩ :=
    schema.record regular localReads (List.mem_of_getElem? (i := 9) rfl) tree tree' c changed made
  exact ⟨_, made', fields, f, rfl, isPlace, rfl⟩

end Entries

namespace Document

variable {i j : Nat} {literal : NumeralText} {document document' : String} {x : Binary64}

theorem Relimited.holds (relimited : Relimited i j literal document document')
    (finite : literal.double? = some x) {es : List CollectionEntry} (held : Holds document es) :
    ∃ e fields f, es[i]? = some e ∧ e.schema = some fields ∧ fields[j]? = some f ∧
      Holds document' (es.set i
        { e with schema := some (fields.set j (f.withLimit (some (selectionCount x)))) }) := by
  cases relimited with
  | collection changed =>
    rename_i before behind tree tree'
    have entries :=
      (CollectionEntry.carries_numeral finite j).listValueAt CollectionEntry.makes i
    rw [holds_text_iff, ← makes_entries.made?_eq] at held
    obtain ⟨_, made', e, _, ⟨fields, f, schema, isField, rfl⟩, isEntry, rfl⟩ :=
      entries tree tree' es changed held
    rw [makes_entries.made?_eq] at made'
    exact ⟨e, fields, f, isEntry, schema, isField, (holds_text_iff ..).mpr made'⟩

/-- A numeral of the finite range is read as the limit of the field, and all else stays. -/
theorem Relimited.collections (relimited : Relimited i j literal document document')
    (finite : literal.double? = some x) {cs : List Collection}
    (read : Document.collections document = .ok cs) :
    ∃ c fields f, cs[i]? = some c ∧ c.schema = some fields ∧ fields[j]? = some f ∧
      Document.collections document' = .ok (cs.set i
        { c with schema := some (fields.set j (f.withLimit (some (selectionCount x)))) }) := by
  obtain ⟨es, held, known, rfl⟩ := collections_eq_ok_iff_holds.mp read
  obtain ⟨e, fields, f, isEntry, schema, isField, holds⟩ := relimited.holds finite held
  refine ⟨e.collection, fields.map FieldEntry.field, f.field, ?_, ?_, ?_, ?_⟩
  · rw [List.getElem?_map, isEntry, Option.map_some]
  · rw [CollectionEntry.collection, schema, Option.map_some]
  · rw [List.getElem?_map, isField, Option.map_some]
  · refine collections_eq_ok_iff_holds.mpr ⟨_, holds, ?_, ?_⟩
    · intro g member
      obtain ⟨d, inList, declared⟩ := List.mem_flatMap.mp member
      rcases List.mem_or_eq_of_mem_set inList with old | rfl
      · exact known g (List.mem_flatMap_of_mem old declared)
      · have inEntry (h : FieldEntry) (inFields : h ∈ fields) : h.type ∈ fieldTypes := by
          refine known h (List.mem_flatMap_of_mem (List.mem_of_getElem? isEntry) ?_)
          rwa [CollectionEntry.fields, schema, Option.getD_some]
        rcases List.mem_or_eq_of_mem_set declared with old | rfl
        · exact inEntry g old
        · exact inEntry f (List.mem_of_getElem? isField)
    · rw [List.map_set, CollectionEntry.collection, Option.map_some, List.map_set,
        FieldEntry.field_withLimit]
      rfl

theorem counted_selectionCount (x : Binary64) : Counted x.value (selectionCount x) :=
  ⟨toNat_selectionCount x, allowsMany_selectionCount x, isExactlyOne_selectionCount x⟩

/-- A numeral of the finite range is the limit of its field, counted by the number that it is read
as: rounded up, within 32 bits, in the order of the numbers and alike for one number. An integer of
64 bits counts as itself within 32 bits, and one of up to 2 ^ 29 is read exactly in any spelling. -/
theorem limits_counted_exactly :
    (∀ (i j : Nat) (literal : NumeralText) (document document' : String) (cs : List Collection)
        (x : Binary64),
      collections document = .ok cs → Relimited i j literal document document' →
        literal.double? = some x →
      ∃ c fields f, cs[i]? = some c ∧ c.schema = some fields ∧ fields[j]? = some f ∧
        collections document' = .ok (cs.set i
          { c with schema := some (fields.set j (f.withLimit (some (selectionCount x)))) })) ∧
    (∀ x : Binary64, Counted x.value (selectionCount x)) ∧
    (∀ x y : Binary64, x.value ≤ y.value → selectionCount x ≤ selectionCount y) ∧
    (∀ x y : Binary64, x.value = y.value → selectionCount x = selectionCount y) ∧
    (∀ (literal : NumeralText) (n : Int),
      literal.IsWhole → IsInteger64 n → literal.decimal = n →
      ∃ x, literal.double? = some x ∧
        ((selectionCount x).toNat : Int) = max 0 (min n greatestLimit)) ∧
    (∀ (literal : NumeralText) (n : Int),
      literal.power.natAbs < exponentBound → n.natAbs ≤ 2 ^ 29 → literal.decimal = n →
      ∃ x, literal.double? = some x ∧ x.value = n) := by
  refine ⟨fun _ _ _ _ _ _ _ read relimited finite => relimited.collections finite read,
    counted_selectionCount, fun _ _ le => selectionCount_mono le,
    fun _ _ same => selectionCount_congr same, ?_,
    fun _ _ short small isInteger => NumeralText.double?_integer small short isInteger⟩
  intro literal n whole fits isInteger
  obtain ⟨x, read, nearest⟩ := NumeralText.double?_of_isWhole whole fits isInteger
  refine ⟨x, read, ?_⟩
  rw [selectionCount_congr nearest]
  exact toNat_selectionCount_integer n

/-- A document of one collection with one field, and a limit in the options of the field. -/
def limited (limit : Tree) : String :=
  notes [idEntry, nameEntry] [nameEntry, entry "type" bare_type (bareText "select" (by decide)),
    entry "options" bare_options (.object [entry "maxSelect" (by decide) limit] .none)]

theorem relimited_limited (literal : NumeralText) (limit : Tree) :
    Relimited 0 0 literal (limited limit) (limited (.number literal)) := by
  refine .collection (@AtPlace.list 0 _ [] [] .none ⟨.none, _, .none⟩ _ rfl ?_)
  refine @AtMember.object _ _ _ [idEntry, nameEntry] [] .none (entry ..) _ (key?_entry ..) ?_
  refine @AtPlace.list 0 _ [] [] .none ⟨.none, _, .none⟩ _ rfl ?_
  refine @AtMember.object _ _ _ [nameEntry, entry "type" bare_type _] [] .none (entry ..) _
    (key?_entry ..) ?_
  exact @AtMember.object _ _ _ [] [] .none (entry ..) _ (key?_entry ..) rfl

/-- Two, written `20e-1`. -/
def twentyTenths : NumeralText where
  negative := false
  whole := ⟨['2', '0'], by decide, List.all_eq_true.mp rfl⟩
  fraction := none
  exponent := some ⟨'e', some '-', ⟨['1'], by decide, List.all_eq_true.mp rfl⟩, .inl rfl,
    fun _ isSign => .inr (Option.some.inj isSign).symm⟩
  zeroAlone := by decide

/-- The greatest integer that is kept as such, 2 ^ 64 - 1. -/
def greatestInteger : NumeralText where
  negative := false
  whole := ⟨"18446744073709551615".toList, by decide, List.all_eq_true.mp rfl⟩
  fraction := none
  exponent := none
  zeroAlone := by decide

/-- The spelling does not keep the limit from being two, and the greatest integer is cut off. -/
theorem limits_counted_exactly_limited :
    (∃ (cs : List Collection) (c : Collection) (fields : List Field) (f : Field),
      collections (limited .null) = .ok cs ∧ cs[0]? = some c ∧ c.schema = some fields ∧
      fields[0]? = some f ∧
      collections (limited (.number twentyTenths)) = .ok (cs.set 0
        { c with schema := some (fields.set 0 (f.withLimit (some 2))) })) ∧
    ∃ x y : Binary64, greatestInteger.double? = some x ∧ twentyTenths.double? = some y ∧
      (selectionCount x).toNat = 2 ^ 32 - 1 ∧
      (⟨false, 3, -1⟩ : Binary64).value ≤ y.value ∧
      selectionCount ⟨false, 3, -1⟩ ≤ selectionCount y ∧
      y.value = (⟨false, 1, 1⟩ : Binary64).value ∧
      selectionCount y = selectionCount ⟨false, 1, 1⟩ := by
  obtain ⟨placed, counted, inOrder, alike, integers, spellings⟩ := limits_counted_exactly
  have two : twentyTenths.decimal = (2 : Int) := by
    have digits : twentyTenths.digitsValue = 20 := rfl
    have power : twentyTenths.power = -1 := rfl
    have point : twentyTenths.fractionDigits = [] := rfl
    rw [NumeralText.decimal, NumeralText.decimalSize, digits, power, point]
    norm_num [twentyTenths]
  have great : greatestInteger.decimal = ((2 ^ 64 - 1 : Int) : ℚ) := by
    have digits : greatestInteger.digitsValue = 2 ^ 64 - 1 := rfl
    have power : greatestInteger.power = 0 := rfl
    have point : greatestInteger.fractionDigits = [] := rfl
    rw [NumeralText.decimal, NumeralText.decimalSize, digits, power, point]
    norm_num [greatestInteger]
  obtain ⟨y, readTwo, valueTwo⟩ := spellings twentyTenths 2 (by decide) (by decide) two
  obtain ⟨x, readGreat, countGreat⟩ := integers greatestInteger _ ⟨rfl, rfl⟩ (by decide) great
  have same : y.value = (⟨false, 1, 1⟩ : Binary64).value := by
    rw [valueTwo]
    norm_num [Binary64.value, Binary64.absolute]
  have less : (⟨false, 3, -1⟩ : Binary64).value ≤ y.value := by
    rw [valueTwo]
    norm_num [Binary64.value, Binary64.absolute]
  have countTwo : selectionCount y = 2 := (alike y _ same).trans (by decide)
  constructor
  · cases read : collections (limited .null) with
    | error e =>
      have fails : (collections (limited .null)).toOption.isSome := by decide +kernel
      rw [read] at fails
      contradiction
    | ok cs =>
      obtain ⟨c, fields, f, isCollection, schema, isField, read'⟩ := placed 0 0 twentyTenths
        (limited .null) _ cs y read (relimited_limited twentyTenths .null) readTwo
      exact ⟨cs, c, fields, f, rfl, isCollection, schema, isField, countTwo ▸ read'⟩
  · refine ⟨x, y, readGreat, readTwo, ?_, less, inOrder _ _ less, same, alike _ _ same⟩
    have cutOff : max 0 (min (2 ^ 64 - 1 : Int) greatestLimit) = 2 ^ 32 - 1 := by decide
    omega

end Document

end CollectionTypes
