import CollectionTypes.Json.Skipped
import CollectionTypes.Proofs.TreeReading

/-!
# Trees that are passed over

Every tree is passed over as a whole, however deep its brackets are nested and whatever brackets are
open before it.
-/

namespace CollectionTypes.Json

open Reader

variable {ι : Type}

def Bracket.opening : Bracket → Char
  | .list => '['
  | .object => '\x7b'

theorem Bracket.solid (bracket : Bracket) : isBlank bracket.closing = false := by
  cases bracket <;> rfl

/-- From an unread text on, the open brackets are passed over up to `rest`. -/
inductive Unwinds (behindValue : Bool) (brackets : List Bracket) (unread rest : List Char) : Prop
  | done (last : run? (unwind behindValue brackets) unread = some (.done (), rest))
  | again {next : List Bracket} {behind : List Char}
      (one : run? (unwind behindValue brackets) unread = some (.again next, behind))
      (shorter : behind.length ≤ unread.length)
      (more : Repeats skipTurn next behind (some ((), rest)))

namespace Unwinds

variable {behindValue : Bool} {brackets outer : List Bracket} {unread behind rest : List Char}

/-- With no bracket open nothing is left to do. -/
theorem none (behindValue : Bool) (rest : List Char) : Unwinds behindValue [] rest rest :=
  .done rfl

/-- A closing bracket goes back to the one around it. -/
theorem closes (unwinds : Unwinds true outer behind rest) (behindValue : Bool) (bracket : Bracket)
    (blank : Blank) :
    Unwinds behindValue (bracket :: outer) (blank.chars ++ bracket.closing :: behind) rest := by
  have closed : run? (unwind behindValue (bracket :: outer))
      (blank.chars ++ bracket.closing :: behind) = run? (unwind true outer) behind := by
    rw [unwind, run?_bind, run?_nextSolid? blank bracket.solid]
    simp
  cases unwinds with
  | done last => exact .done (closed.trans last)
  | again one shorter more =>
    refine .again (closed.trans one) ?_ more
    simp only [List.length_append, List.length_cons]
    omega

/-- A turn of skipping goes on as the brackets that it leaves open do. -/
theorem repeats (unwinds : Unwinds behindValue outer behind rest)
    (turn : run? (skipTurn brackets) unread = run? (unwind behindValue outer) behind)
    (shorter : behind.length < unread.length) :
    Repeats skipTurn brackets unread (some ((), rest)) := by
  cases unwinds with
  | done last => exact .done (turn.trans last)
  | again one noLonger more => exact .again (turn.trans one) (by omega) more

end Unwinds

/-- A tree is passed over whatever brackets are open and whatever follows. -/
def Skipped (tree : Tree) : Prop :=
  ∀ (brackets : List Bracket) (blank : Blank) (behind rest : List Char), Follows behind →
    Unwinds true brackets behind rest →
    Repeats skipTurn brackets (blank.chars ++ (tree.chars ++ behind)) (some ((), rest))

/-- A bracket whose items are passed over up to their values. -/
structure Unwraps (bracket : Bracket) (lead : ι → List Char) (value : ι → Tree) : Prop where
  one : ∀ (outer : List Bracket) (first : Bool) (blank : Blank) (item : ι) (rest : List Char),
    ∃ before : Blank, before.chars ++ (value item).chars <:+ lead item ∧
      run? (unwind (!first) (bracket :: outer))
          (blank.chars ++ (separator first ++ (lead item ++ rest))) =
        some (.again (bracket :: outer), before.chars ++ ((value item).chars ++ rest))
  ends : ∀ rest, Ends (bracket.closing :: rest)

theorem Unwraps.unwinds {bracket : Bracket} {lead : ι → List Char} {value : ι → Tree}
    (unwraps : Unwraps bracket lead value) (behind : ι → Blank) (items : List ι)
    (each : ∀ item ∈ items, Skipped (value item)) (first : Bool) (before last : Blank)
    {outer : List Bracket} {unread rest : List Char} (unwinds : Unwinds true outer unread rest) :
    Unwinds (!first) (bracket :: outer) (before.chars ++
      (joined (fun item => lead item ++ (behind item).chars) first items ++
        (last.chars ++ bracket.closing :: unread))) rest := by
  induction items generalizing first before with
  | nil =>
    have closes := unwinds.closes (!first) bracket (before.append last)
    rwa [Blank.append, List.append_assoc] at closes
  | cons item items ih =>
    obtain ⟨inner, suffix, one⟩ := unwraps.one outer first before item ((behind item).chars ++
      (joined (fun item => lead item ++ (behind item).chars) false items ++
        (last.chars ++ bracket.closing :: unread)))
    have follows := follows_joined (behind item) (fun item => lead item ++ (behind item).chars)
      items last unwraps.ends unread
    have more := each item List.mem_cons_self (bracket :: outer) inner _ rest follows
      (ih (fun item member => each item (List.mem_cons_of_mem _ member)) false (behind item))
    simp only [joined, List.append_assoc]
    refine .again one ?_ more
    have noLonger := suffix.length_le
    simp only [List.length_append] at noLonger ⊢
    omega

theorem unwraps_list : Unwraps .list Item.lead Item.value where
  one outer first blank item rest := by
    obtain ⟨c, more, shape, opening⟩ := item.value.opens
    have notEnd := opening.notEnd
    cases first with
    | true =>
      have found := run?_nextSolid? (blank.append item.before) opening.solid (more ++ rest)
      rw [Blank.append, List.append_assoc] at found
      refine ⟨.none, List.suffix_append .., ?_⟩
      simp [unwind, separator, Item.lead, shape, found, Bracket.closing, notEnd, skipEntry,
        Blank.none]
    | false =>
      have comma := run?_nextSolid? blank (by decide : isBlank ',' = false)
        (item.before.chars ++ (item.value.chars ++ rest))
      refine ⟨item.before, List.suffix_refl _, ?_⟩
      simp [unwind, separator, Item.lead, comma, Bracket.closing, skipEntry]
  ends := .list

theorem run?_skipEntry (blank : Blank) (key : List Glyph) (afterKey : Blank) (rest : List Char) :
    run? (skipEntry .object)
        (blank.chars ++ (quotedGlyphs key ++ (afterKey.chars ++ ':' :: rest))) =
      some ((), rest) := by
  have found := run?_nextSolid? blank (by decide : isBlank '"' = false)
    (key.flatMap Glyph.chars ++ ['"'] ++ (afterKey.chars ++ ':' :: rest))
  rw [skipEntry, run?_bind, quotedGlyphs, List.cons_append, found, Option.bind_some]
  change run? (do skipText; colon) (quotedGlyphs key ++ (afterKey.chars ++ ':' :: rest)) = _
  rw [run?_bind, run?_skipText, Option.bind_some, run?_colon]

theorem unwraps_object : Unwraps .object Entry.lead Entry.value where
  one outer first blank entry rest := by
    refine ⟨entry.beforeValue, ?_, ?_⟩
    · exact ⟨entry.before.chars ++ (quotedGlyphs entry.key ++ (entry.afterKey.chars ++ [':'])),
        by simp [Entry.lead]⟩
    cases first with
    | true =>
      have found := run?_nextSolid? (blank.append entry.before) (by decide : isBlank '"' = false)
        (entry.key.flatMap Glyph.chars ++ '"' :: (entry.afterKey.chars ++ ':' ::
          (entry.beforeValue.chars ++ (entry.value.chars ++ rest))))
      rw [Blank.append, List.append_assoc] at found
      have behind := run?_skipEntry .none entry.key entry.afterKey
        (entry.beforeValue.chars ++ (entry.value.chars ++ rest))
      simp only [quotedGlyphs, Blank.none, List.nil_append, List.cons_append, List.append_assoc]
        at behind
      simp [unwind, separator, Entry.lead, quotedGlyphs, found, Bracket.closing, behind]
    | false =>
      have comma := run?_nextSolid? blank (by decide : isBlank ',' = false)
        (entry.before.chars ++ (quotedGlyphs entry.key ++ (entry.afterKey.chars ++ ':' ::
          (entry.beforeValue.chars ++ (entry.value.chars ++ rest)))))
      have behind := run?_skipEntry entry.before entry.key entry.afterKey
        (entry.beforeValue.chars ++ (entry.value.chars ++ rest))
      simp [unwind, separator, comma, Bracket.closing, Entry.lead, behind]
  ends := .object

/-- An opening bracket is one more to close. -/
theorem run?_skipTurn_opening (bracket : Bracket) (brackets : List Bracket) (blank : Blank)
    (rest : List Char) :
    run? (skipTurn brackets) (blank.chars ++ bracket.opening :: rest) =
      run? (unwind false (bracket :: brackets)) rest := by
  cases bracket with
  | list =>
    rw [Bracket.opening, skipTurn, run?_bind, run?_nextSolid? blank (by decide)]
    rfl
  | object =>
    rw [Bracket.opening, skipTurn, run?_bind, run?_nextSolid? blank (by decide)]
    rfl

/-- Passes over a value without brackets that starts with `c`. -/
def skipScalar (c : Char) : Reader Unit :=
  if c = 'n' then keyword "ull"
  else if c = 't' then keyword "rue"
  else if c = 'f' then keyword "alse"
  else if c = '-' || c.isDigit then skipNumber
  else if c = '"' then skipText
  else stopAfterNext .expectedValue

/-- A value without brackets is skipped at once. -/
theorem run?_skipTurn_scalar (brackets : List Bracket) (blank : Blank) {c : Char}
    (solid : isBlank c = false) (notList : c ≠ '[') (notObject : c ≠ '\x7b')
    (rest : List Char) :
    run? (skipTurn brackets) (blank.chars ++ c :: rest) =
      (run? (skipScalar c) (c :: rest)).bind fun read => run? (unwind true brackets) read.2 := by
  rw [skipTurn, run?_bind, run?_nextSolid? blank solid, Option.bind_some,
    ← run?_bind (skipScalar c) fun _ => unwind true brackets]
  dsimp only
  rw [if_neg notList, if_neg notObject, skipScalar]
  repeat' split
  all_goals rfl

theorem Skipped.of_scalar {tree : Tree}
    (reads : ∀ c, Opening tree c → c ≠ '[' ∧ c ≠ '\x7b' ∧ ∀ behind, Follows behind →
      run? (skipScalar c) (tree.chars ++ behind) = some ((), behind)) : Skipped tree := by
  intro brackets blank behind rest follows unwinds
  obtain ⟨c, more, shape, opening⟩ := tree.opens
  obtain ⟨notList, notObject, read⟩ := reads c opening
  have scalar := read behind follows
  rw [shape, List.cons_append] at scalar ⊢
  refine unwinds.repeats ?_ (by simp; omega)
  rw [run?_skipTurn_scalar brackets blank opening.solid notList notObject, scalar,
    Option.bind_some]

/-- A bracket is opened, then what stands within is passed over. -/
theorem Skipped.of_bracket {tree : Tree} {bracket : Bracket} {lead : ι → List Char}
    {value : ι → Tree} (unwraps : Unwraps bracket lead value) (behind : ι → Blank) (items : List ι)
    (last : Blank)
    (shape : tree.chars = bracket.opening ::
      (joined (fun item => lead item ++ (behind item).chars) true items ++
        (last.chars ++ [bracket.closing])))
    (each : ∀ item ∈ items, Skipped (value item)) : Skipped tree := by
  intro brackets blank after rest follows unwinds
  have inner := unwraps.unwinds behind items each true .none last unwinds
  rw [shape, List.cons_append, List.append_assoc, List.append_assoc]
  refine inner.repeats (run?_skipTurn_opening bracket brackets blank _) ?_
  simp only [Blank.none, List.length_append, List.length_cons, List.length_nil]
  omega

/-- By induction on the tree: its parts are skipped one by one. -/
theorem skipped (tree : Tree) : Skipped tree := by
  induction tree using Tree.induct with
  | null =>
    refine .of_scalar fun c opening => ?_
    cases opening
    exact ⟨by decide, by decide, fun behind _ => run?_keyword 'n' "ull" behind⟩
  | bool value =>
    refine .of_scalar fun c opening => ?_
    cases opening with
    | yes => exact ⟨by decide, by decide, fun behind _ => run?_keyword 't' "rue" behind⟩
    | no => exact ⟨by decide, by decide, fun behind _ => run?_keyword 'f' "alse" behind⟩
  | number text =>
    refine .of_scalar fun c opening => ?_
    cases opening with
    | number _ first =>
      obtain ⟨-, -, notN, notT, notF⟩ := number_first first
      refine ⟨ne_of_number_first first (by decide), ne_of_number_first first (by decide), ?_⟩
      intro behind follows
      rw [skipScalar, if_neg notN, if_neg notT, if_neg notF, if_pos first]
      exact run?_skipNumber text follows
  | text glyphs =>
    refine .of_scalar fun c opening => ?_
    cases opening
    exact ⟨by decide, by decide, fun behind _ => run?_skipText glyphs behind⟩
  | list items last each =>
    exact .of_bracket unwraps_list Item.behind items last (Tree.chars_list items last) each
  | object entries last each =>
    exact .of_bracket unwraps_object Entry.behind entries last (Tree.chars_object entries last) each

theorem makes_skipValue : Makes skipValue fun _ => some () := by
  intro tree blank rest follows
  exact (skipped tree [] blank rest rest follows (.none true rest)).repeated

end CollectionTypes.Json
