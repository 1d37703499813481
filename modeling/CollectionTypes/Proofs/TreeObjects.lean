import CollectionTypes.Json.AnyValue
import CollectionTypes.Proofs.TreeReading

/-!
# Reading objects

What is made of an object from what is made of its members, one after the other, and with that of
values of any kind.
-/

namespace CollectionTypes.Json

variable {α ι σ : Type}

namespace Reader

theorem run?_key?_end (first : Bool) (blank : Blank) (rest : List Char) :
    run? (key? first) (blank.chars ++ '\x7d' :: rest) = some (false, '\x7d' :: rest) := by
  rw [key?, run?_bind, run?_nextSolid? blank (by decide)]
  rfl

/-- The quote of a key is found behind the comma and the blanks before it. -/
theorem run?_key? (first : Bool) (blank before : Blank) (rest : List Char) :
    run? (key? first) (blank.chars ++ (separator first ++ (before.chars ++ '"' :: rest))) =
      some (true, '"' :: rest) := by
  cases first with
  | true =>
    have found := run?_nextSolid? (blank.append before) (by decide : isBlank '"' = false) rest
    rw [Blank.append, List.append_assoc] at found
    simp [key?, separator, found]
  | false =>
    have comma := run?_nextSolid? blank (by decide : isBlank ',' = false)
      (before.chars ++ '"' :: rest)
    have found := run?_nextSolid? before (by decide : isBlank '"' = false) rest
    simp [key?, separator, comma, found]

/-- A member is left to what reads on from its key. -/
theorem run?_entry (first : Bool) (blank : Blank) (entry : Entry Tree) (rest : List Char)
    (next : Bool → Reader α) :
    run? (key? first >>= next) (blank.chars ++ (separator first ++ (entry.lead ++ rest))) =
      run? (next true) (quotedGlyphs entry.key ++ (entry.afterKey.chars ++ ':' ::
        (entry.beforeValue.chars ++ (entry.value.chars ++ rest)))) := by
  simp only [Entry.lead, quotedGlyphs, List.append_assoc, List.cons_append, run?_bind, run?_key?]
  rfl

end Reader

/-- What a reader of members makes of a member behind its key. -/
def MakesMember (member : σ → String → Reader σ) (step? : σ → String → Tree → Option σ) : Prop :=
  ∀ (state : σ) (key : String) (tree : Tree) (afterKey beforeValue : Blank) (rest : List Char),
    Follows rest →
    (member state key).run? (afterKey.chars ++ ':' :: (beforeValue.chars ++ (tree.chars ++ rest))) =
      (step? state key tree).map fun next => (next, rest)

/-- A member of which nothing can be read without its key. -/
def Entry.step? (step? : σ → String → Tree → Option σ) (state : σ) (entry : Entry Tree) :
    Option σ :=
  entry.key?.bind fun key => step? state key entry.value

namespace MakesMember

open Reader

variable {member : σ → String → Reader σ} {step? : σ → String → Tree → Option σ}

theorem objectLoop (makes : MakesMember member step?) :
    Loop (memberTurn member) Prod.fst Entry.lead
      (fun state entry => (entry.step? step? state.2).map fun next => (false, next))
      '\x7d' Prod.snd where
  solid entry := by simp [Entry.lead, quotedGlyphs]
  one state entry blank rest follows := by
    rw [memberTurn, run?_entry, if_pos rfl, run?_bind, run?_text, Entry.step?, Entry.key?]
    cases Glyph.decode? entry.key with
    | none => rfl
    | some key =>
      have read := makes state.2 (String.ofList key) entry.value entry.afterKey entry.beforeValue
        rest follows
      simp only [Option.map_some, Option.bind_some, run?_bind, read]
      cases step? state.2 (String.ofList key) entry.value <;> rfl
  later state entry next isNext := by
    obtain ⟨a, -, rfl⟩ := Option.map_eq_some_iff.mp isNext
    rfl
  last state blank rest := by
    rw [memberTurn, run?_bind, run?_key?_end]
    rfl
  ends rest := .object rest

theorem foldlM_snd (entries : List ι) (f : σ → ι → Option σ) (state : Bool × σ) :
    (entries.foldlM (fun state entry => (f state.2 entry).map fun next => (false, next)) state).map
      Prod.snd = entries.foldlM f state.2 := by
  induction entries generalizing state with
  | nil => rfl
  | cons entry entries ih =>
    rw [List.foldlM_cons, List.foldlM_cons]
    cases f state.2 entry with
    | none => rfl
    | some next => exact ih (false, next)

theorem object (makes : MakesMember member step?) (empty : σ) (entries : List (Entry Tree))
    (last : Blank) (rest : List Char) :
    run? (Reader.object member empty) ((Tree.object entries last).chars ++ rest) =
      (entries.foldlM (Entry.step? step?) empty).map fun state => (state, rest) := by
  have read :=
    (makes.objectLoop.repeats Entry.behind entries (true, empty) .none last rest).repeated
  rw [← foldlM_snd entries _ (true, empty), Option.map_map, Tree.chars_object,
    Reader.object, run?_bind, List.cons_append, run?_skip, Option.bind_some, List.append_assoc,
    List.append_assoc]
  exact read

end MakesMember

namespace Tree

/-- The value of a tree; `inside?` gives that of a list or an object. -/
def asValueWith? (inside? : Tree → Option Value) : Tree → Option Value
  | .null => some .null
  | .bool value => some (.bool value)
  | .number numeral => numeral.numeral.value.toOption.map .number
  | .text glyphs => (Glyph.decode? glyphs).map fun characters => .text (String.ofList characters)
  | tree => inside? tree

/-- The members of an object, each key once. -/
def asMembers? (value? : Tree → Option Value) (entries : List (Entry Tree)) :
    Option (List (String × Value)) :=
  entries.foldlM (Entry.step? fun members key tree =>
    (value? tree).map fun value => putMember key value members) []

/-- The value of a tree whose brackets are nested at most `depth` deep. -/
def asValue? : Nat → Tree → Option Value
  | 0 => asValueWith? fun _ => none
  | depth + 1 => asValueWith? fun
      | .list items _ => (items.mapM fun item => asValue? depth item.value).map .list
      | .object entries _ => (asMembers? (asValue? depth) entries).map .object
      | _ => none

end Tree

namespace Makes

open Reader

theorem putMemberValue {reader : Reader Value} {value? : Tree → Option Value}
    (makes : Makes reader value?) :
    MakesMember (Reader.putMemberValue reader) fun members key tree =>
      (value? tree).map fun value => putMember key value members := by
  intro members key tree afterKey beforeValue rest follows
  rw [Reader.putMemberValue, run?_bind, run?_colon, Option.bind_some, run?_bind,
    makes tree beforeValue rest follows]
  dsimp only
  cases value? tree <;> rfl

theorem valueWith {container : Char → Reader Value} {inside? : Tree → Option Value}
    (list : ∀ items last rest, run? (container '[') ((Tree.list items last).chars ++ rest) =
      (inside? (.list items last)).map fun value => (value, rest))
    (object : ∀ entries last rest,
      run? (container '\x7b') ((Tree.object entries last).chars ++ rest) =
        (inside? (.object entries last)).map fun value => (value, rest)) :
    Makes (Reader.valueWith container) (Tree.asValueWith? inside?) := by
  intro tree blank rest follows
  obtain ⟨c, more, shape, opening⟩ := tree.opens
  rw [shape, List.cons_append, Reader.valueWith, run?_bind, run?_nextSolid? blank opening.solid,
    Option.bind_some, ← List.cons_append, ← shape]
  cases opening with
  | null => exact run?_word 'n' "ull" Value.null rest
  | yes => exact run?_word 't' "rue" (Value.bool true) rest
  | no => exact run?_word 'f' "alse" (Value.bool false) rest
  | number text first =>
    obtain ⟨-, -, notN, notT, notF⟩ := number_first first
    dsimp only
    rw [if_neg notN, if_neg notT, if_neg notF, if_pos first, run?_map, Tree.chars,
      run?_number text follows, Tree.asValueWith?, Option.map_map, Option.map_map]
    rfl
  | text glyphs =>
    change run? (Value.text <$> text) (quotedGlyphs glyphs ++ rest) = _
    rw [run?_map, run?_text, Tree.asValueWith?, Option.map_map, Option.map_map]
    rfl
  | list items last => exact list items last rest
  | object entries last => exact object entries last rest

theorem anyValue (depth : Nat) : Makes (Reader.anyValue depth) (Tree.asValue? depth) := by
  induction depth with
  | zero => exact valueWith (fun _ _ _ => rfl) (fun _ _ _ => rfl)
  | succ depth ih =>
    refine valueWith (fun items last rest => ?_) (fun entries last rest => ?_)
    · dsimp only
      rw [if_pos rfl, run?_map, ih.list, Option.map_map, Option.map_map]
      rfl
    · dsimp only
      rw [if_neg (by decide), run?_map, ih.putMemberValue.object, Option.map_map, Tree.asMembers?,
        Option.map_map]
      rfl

end Makes

end CollectionTypes.Json
