import CollectionTypes.Proofs.TreeScanning

/-!
# Reading trees

What the readers of expected values make of a tree, whatever stands around it in a document. What
they make of a list is put together from what its elements give.
-/

namespace CollectionTypes.Json

variable {α β ι σ : Type}

/-- The first character of a tree. -/
inductive Opening : Tree → Char → Prop
  | null : Opening .null 'n'
  | yes : Opening (.bool true) 't'
  | no : Opening (.bool false) 'f'
  | number (text : NumeralText) {c : Char} (first : (decide (c = '-') || c.isDigit) = true) :
      Opening (.number text) c
  | text (glyphs : List Glyph) : Opening (.text glyphs) '"'
  | list (items : List (Item Tree)) (last : Blank) : Opening (.list items last) '['
  | object (entries : List (Entry Tree)) (last : Blank) : Opening (.object entries last) '\x7b'

theorem NumeralText.opens (text : NumeralText) :
    ∃ c more, text.chars = c :: more ∧ (decide (c = '-') || c.isDigit) = true := by
  obtain ⟨c, more, shape, isDigit⟩ := text.whole.first
  unfold NumeralText.chars
  cases text.negative with
  | true => exact ⟨'-', _, rfl, rfl⟩
  | false => exact ⟨c, _, by rw [shape]; rfl, by rw [isDigit, Bool.or_true]⟩

theorem Tree.opens (tree : Tree) : ∃ c more, tree.chars = c :: more ∧ Opening tree c := by
  cases tree with
  | null => exact ⟨'n', _, rfl, .null⟩
  | bool value =>
    cases value with
    | true => exact ⟨'t', _, rfl, .yes⟩
    | false => exact ⟨'f', _, rfl, .no⟩
  | number text =>
    obtain ⟨c, more, shape, first⟩ := text.opens
    exact ⟨c, more, shape, .number text first⟩
  | text glyphs => exact ⟨'"', _, rfl, .text glyphs⟩
  | list items last => exact ⟨'[', _, rfl, .list items last⟩
  | object entries last => exact ⟨'\x7b', _, rfl, .object entries last⟩

namespace Opening

variable {tree : Tree} {c : Char}

theorem solid (opening : Opening tree c) : isBlank c = false := by
  cases opening with
  | number text first => exact (number_first first).1
  | _ => decide

theorem notEnd (opening : Opening tree c) : c ≠ ']' := by
  cases opening with
  | number text first => exact (number_first first).2.1
  | _ => decide

theorem isNull (opening : Opening tree c) (isN : c = 'n') : tree = .null := by
  cases opening with
  | null => rfl
  | number text first => exact absurd isN (number_first first).2.2.1
  | _ => contradiction

end Opening

/-- What a reader makes of each tree, whatever stands around it in a document. -/
def Makes (reader : Reader α) (value? : Tree → Option α) : Prop :=
  ∀ (tree : Tree) (blank : Blank) (rest : List Char), Follows rest →
    reader.run? (blank.chars ++ (tree.chars ++ rest)) = (value? tree).map fun a => (a, rest)

/-- What a reader makes of a tree that stands alone. -/
def made? (reader : Reader α) (tree : Tree) : Option α :=
  (reader.run? tree.chars).map (·.1)

namespace Tree

/-- The text that a tree spells, where it is one. -/
def asText? : Tree → Option String
  | .text glyphs => (Glyph.decode? glyphs).map String.ofList
  | _ => none

def asBool? : Tree → Option Bool
  | .bool value => some value
  | _ => none

/-- The number that a tree spells, in the binary format. -/
def asDouble? : Tree → Option Binary64
  | .number numeral => numeral.numeral.value.toOption.map Number.toBinary64
  | _ => none

/-- A `null` is no value; any other tree has to be one. -/
def asOptional? (value? : Tree → Option α) : Tree → Option (Option α)
  | .null => some none
  | tree => (value? tree).map some

theorem asOptional?_of_ne {value? : Tree → Option α} {tree : Tree} (present : tree ≠ .null) :
    tree.asOptional? value? = (value? tree).map some := by
  cases tree with
  | null => contradiction
  | _ => rfl

/-- A list is read where each of its elements is. -/
def asList? (value? : Tree → Option α) : Tree → Option (List α)
  | .list items _ => items.mapM (value? ·.value)
  | _ => none

end Tree

namespace Makes

open Reader

variable {reader : Reader α} {value? : Tree → Option α}

/-- A tree can be read without a blank before it. -/
theorem alone (makes : Makes reader value?) (tree : Tree) {rest : List Char}
    (follows : Follows rest) :
    run? reader (tree.chars ++ rest) = (value? tree).map fun a => (a, rest) :=
  makes tree .none rest follows

/-- What a reader makes of trees is fixed by what it makes of each alone. -/
theorem made?_eq (makes : Makes reader value?) : made? reader = value? := by
  funext tree
  have read := makes.alone tree (.of_ends .document)
  rw [List.append_nil] at read
  rw [made?, read, Option.map_map]
  exact Option.map_id'

theorem self (makes : Makes reader value?) : Makes reader (made? reader) := by
  rwa [makes.made?_eq]

theorem map (makes : Makes reader value?) (f : α → β) :
    Makes (f <$> reader) fun tree => (value? tree).map f := by
  intro tree blank rest follows
  rw [run?_map, makes tree blank rest follows, Option.map_map, Option.map_map]
  rfl

/-- A reader that looks at the first character of a tree before it reads on. -/
theorem valueBy {expected : String} {reader? : Char → Option (Reader α)}
    (each : ∀ tree c, Opening tree c → ∀ rest, Follows rest →
      ((reader? c).bind fun reader => run? reader (tree.chars ++ rest)) =
        (value? tree).map fun a => (a, rest)) :
    Makes (Reader.valueBy expected reader?) value? := by
  intro tree blank rest follows
  obtain ⟨c, more, shape, opening⟩ := tree.opens
  rw [← each tree c opening rest follows, Reader.valueBy, shape, List.cons_append, run?_bind,
    run?_nextSolid? blank opening.solid, Option.bind_some]
  dsimp only
  cases reader? c with
  | none => exact run?_refuse expected c _
  | some reader => rfl

theorem textValue : Makes Reader.textValue Tree.asText? := by
  refine valueBy fun tree c opening rest follows => ?_
  cases opening with
  | text glyphs =>
    rw [if_pos rfl, Option.bind_some, Tree.chars, run?_text, Tree.asText?, Option.map_map]
    rfl
  | number text first =>
    rw [if_neg (ne_of_number_first first (by decide))]
    rfl
  | _ => rfl

theorem boolValue : Makes Reader.boolValue Tree.asBool? := by
  refine valueBy fun tree c opening rest follows => ?_
  cases opening with
  | yes => exact run?_word 't' "rue" true rest
  | no => exact run?_word 'f' "alse" false rest
  | number text first =>
    rw [if_neg (number_first first).2.2.2.1, if_neg (number_first first).2.2.2.2]
    rfl
  | _ => rfl

theorem doubleValue : Makes Reader.doubleValue Tree.asDouble? := by
  refine valueBy fun tree c opening rest follows => ?_
  cases opening with
  | number text first =>
    rw [if_pos first, Option.bind_some, Tree.chars, run?_map, run?_number text follows,
      Tree.asDouble?, Option.map_map, Option.map_map]
    rfl
  | _ =>
    rw [if_neg (by decide)]
    rfl

/-- The keyword `null` is told by its first letter, which no other tree has. -/
theorem optional (makes : Makes reader value?) :
    Makes (Reader.optional reader) (Tree.asOptional? value?) := by
  intro tree blank rest follows
  by_cases isNull : tree = .null
  · subst isNull
    rw [Tree.chars, List.cons_append, Reader.optional, run?_bind,
      run?_nextSolid? blank (by decide), Option.bind_some]
    exact run?_word 'n' "ull" none rest
  · obtain ⟨c, more, shape, opening⟩ := tree.opens
    have notN : c ≠ 'n' := fun isN => isNull (opening.isNull isN)
    have present := makes.alone tree follows
    rw [shape, List.cons_append] at present
    rw [Tree.asOptional?_of_ne isNull, shape, List.cons_append, Reader.optional, run?_bind,
      run?_nextSolid? blank opening.solid, Option.bind_some]
    dsimp only
    split
    · exact absurd (Option.some.inj ‹_›) notN
    · rw [run?_map, present, Option.map_map, Option.map_map]
      rfl

end Makes

namespace Reader

/-- Behind an item stands another one or the end of the whole. -/
theorem follows_joined (behind : Blank) (piece : ι → List Char) (items : List ι) (last : Blank)
    {closing : Char} (ends : ∀ rest, Ends (closing :: rest)) (rest : List Char) :
    Follows (behind.chars ++ (joined piece false items ++ (last.chars ++ closing :: rest))) := by
  refine .blank_append behind ?_
  cases items with
  | nil => exact .blank_append last (.of_ends (ends rest))
  | cons item items => exact .of_ends (.comma _)

/-- A repetition that reads the items of a list or an object, one a turn. -/
structure Loop (turn : σ → Reader (Turn σ α)) (first : σ → Bool) (lead : ι → List Char)
    (step? : σ → ι → Option σ) (closing : Char) (result : σ → α) : Prop where
  solid : ∀ item, lead item ≠ []
  one : ∀ state item (blank : Blank) rest, Follows rest →
    run? (turn state) (blank.chars ++ (separator (first state) ++ (lead item ++ rest))) =
      (step? state item).map fun next => (.again next, rest)
  later : ∀ state item, ∀ next ∈ step? state item, first next = false
  last : ∀ state (blank : Blank) rest,
    run? (turn state) (blank.chars ++ closing :: rest) = some (.done (result state), rest)
  ends : ∀ rest, Ends (closing :: rest)

theorem Loop.repeats {turn : σ → Reader (Turn σ α)} {first : σ → Bool} {lead : ι → List Char}
    {step? : σ → ι → Option σ} {closing : Char} {result : σ → α}
    (loop : Loop turn first lead step? closing result) (behind : ι → Blank) (items : List ι)
    (state : σ) (before last : Blank) (rest : List Char) :
    Repeats turn state (before.chars ++ (joined (fun item => lead item ++ (behind item).chars)
        (first state) items ++ (last.chars ++ closing :: rest)))
      ((items.foldlM step? state).map fun state => (result state, rest)) := by
  induction items generalizing state before with
  | nil =>
    have read := loop.last state (before.append last) rest
    rw [Blank.append, List.append_assoc] at read
    exact .done read
  | cons item items ih =>
    have read := loop.one state item before _
      (follows_joined (behind item) (fun item => lead item ++ (behind item).chars) items last
        loop.ends rest)
    simp only [joined, List.append_assoc]
    refine .step read ?_ (fun next isNext => ?_) (fun stops => ?_)
    · have := List.length_pos_iff.mpr (loop.solid item)
      simp only [List.length_append]
      omega
    · have more := ih next (behind item)
      rw [loop.later state item next isNext] at more
      rw [List.foldlM_cons, isNext]
      exact more
    · rw [List.foldlM_cons, stops]
      rfl

theorem run?_element?_end (first : Bool) (blank : Blank) (rest : List Char) :
    run? (element? first) (blank.chars ++ ']' :: rest) = some (false, ']' :: rest) := by
  rw [element?, run?_bind, run?_nextSolid? blank (by decide)]
  rfl

/-- The first character of an element is found behind the comma and the blanks before it. -/
theorem run?_element? (first : Bool) (blank before : Blank) {c : Char} (solid : isBlank c = false)
    (notEnd : c ≠ ']') (rest : List Char) :
    run? (element? first) (blank.chars ++ (separator first ++ (before.chars ++ c :: rest))) =
      some (true, c :: rest) := by
  cases first with
  | true =>
    have found := run?_nextSolid? (blank.append before) solid rest
    rw [Blank.append, List.append_assoc] at found
    simp [element?, separator, found, notEnd]
  | false =>
    have comma := run?_nextSolid? blank (by decide : isBlank ',' = false)
      (before.chars ++ c :: rest)
    have found := run?_nextSolid? before solid rest
    simp [element?, separator, comma, found, notEnd]

/-- An element is left to what reads on from its first character. -/
theorem run?_element (first : Bool) (blank : Blank) (item : Item Tree) (rest : List Char)
    (next : Bool → Reader α) :
    run? (element? first >>= next) (blank.chars ++ (separator first ++ (item.lead ++ rest))) =
      run? (next true) (item.value.chars ++ rest) := by
  obtain ⟨c, more, shape, opening⟩ := item.value.opens
  have found := run?_element? first blank item.before opening.solid opening.notEnd (more ++ rest)
  rw [Item.lead, shape, List.append_assoc, List.cons_append, run?_bind, found]
  rfl

end Reader

namespace Makes

open Reader

variable {reader : Reader α} {value? : Tree → Option α}

theorem listLoop (makes : Makes reader value?) :
    Loop (elementTurn reader) List.isEmpty Item.lead
      (fun read item => (value? item.value).map (· :: read)) ']' List.reverse where
  solid item := by
    obtain ⟨c, more, shape, -⟩ := item.value.opens
    simp [Item.lead, shape]
  one read item blank rest follows := by
    rw [elementTurn, run?_element, if_pos rfl, run?_bind, makes.alone item.value follows]
    cases value? item.value <;> rfl
  later read item next isNext := by
    obtain ⟨a, -, rfl⟩ := Option.map_eq_some_iff.mp isNext
    rfl
  last read blank rest := by
    rw [elementTurn, run?_bind, run?_element?_end]
    rfl
  ends rest := .list rest

/-- Elements are gathered in front, so the last one read comes first. -/
theorem foldlM_cons_eq (items : List ι) (f : ι → Option α) (read : List α) :
    items.foldlM (fun read item => (f item).map (· :: read)) read =
      (items.mapM f).map fun made => made.reverse ++ read := by
  induction items generalizing read with
  | nil => rfl
  | cons item items ih =>
    rw [List.foldlM_cons, List.mapM_cons]
    cases f item with
    | none => rfl
    | some a =>
      change items.foldlM _ (a :: read) = ((items.mapM f).bind fun made => some (a :: made)).map _
      rw [ih]
      cases items.mapM f with
      | none => rfl
      | some made => simp

theorem list (makes : Makes reader value?) (items : List (Item Tree)) (last : Blank)
    (rest : List Char) :
    run? (Reader.list reader) ((Tree.list items last).chars ++ rest) =
      (items.mapM (value? ·.value)).map fun made => (made, rest) := by
  have read := (makes.listLoop.repeats Item.behind items [] .none last rest).repeated
  rw [foldlM_cons_eq, Option.map_map] at read
  rw [Tree.chars_list, Reader.list, run?_bind, List.cons_append, run?_skip, Option.bind_some,
    List.append_assoc, List.append_assoc]
  refine Eq.trans read ?_
  simp [Function.comp_def]

theorem listValue (makes : Makes reader value?) :
    Makes (Reader.listValue reader) (Tree.asList? value?) := by
  refine valueBy fun tree c opening rest follows => ?_
  cases opening with
  | list items last => exact makes.list items last rest
  | number text first =>
    rw [if_neg (ne_of_number_first first (by decide))]
    rfl
  | _ => rfl

end Makes

end CollectionTypes.Json
