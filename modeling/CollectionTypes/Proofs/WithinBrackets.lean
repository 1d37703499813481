import CollectionTypes.Json.Expected
import CollectionTypes.Proofs.SkippedTrees
import CollectionTypes.Proofs.TakenParts

/-!
# Within brackets

What is taken off a text from an opening bracket on, when the values that stand within are trees:
the text of a list or an object.
-/

namespace CollectionTypes.Json

open Reader

variable {α σ : Type} {unread behind rest : List Char}

/-- What a reader takes off a text is a blank and a tree. -/
def TakesTree (reader : Reader α) : Prop :=
  ∀ unread rest a, run? reader unread = some (a, rest) →
    ∃ (blank : Blank) (tree : Tree), unread = blank.chars ++ (tree.chars ++ rest)

/-- What stands within a bracket up to the end of a value. -/
inductive Bracket.Lead : Bracket → List Char → Prop
  | item (item : Item Tree) : Lead .list item.lead
  | entry (entry : Entry Tree) : Lead .object entry.lead

theorem Bracket.Lead.blank {bracket : Bracket} {lead : List Char} (isLead : bracket.Lead lead)
    (blank : Blank) : bracket.Lead (blank.chars ++ lead) := by
  cases isLead with
  | item item =>
    have shape := Lead.item { item with before := blank.append item.before }
    rwa [Item.lead, Blank.append, List.append_assoc] at shape
  | entry entry =>
    have shape := Lead.entry { entry with before := blank.append entry.before }
    rwa [Entry.lead, Blank.append, List.append_assoc] at shape

/-- From within a bracket on, up to its end; `first` tells that no value stands before. -/
inductive Within (bracket : Bracket) : Bool → List Char → List Char → Prop
  | closed (first : Bool) (blank : Blank) (rest : List Char) :
      Within bracket first (blank.chars ++ bracket.closing :: rest) rest
  | lead (first : Bool) (blank : Blank) {lead behind rest : List Char}
      (own : first = true → blank = .none) (isLead : bracket.Lead lead)
      (more : Within bracket false behind rest) :
      Within bracket first (blank.chars ++ (separator first ++ (lead ++ behind))) rest

namespace Within

variable {bracket : Bracket} {first : Bool}

/-- The blanks before the first value are its own. -/
theorem of_lead {lead : List Char} (blank before : Blank) (isLead : bracket.Lead lead)
    (more : Within bracket false behind rest) :
    Within bracket first
      (blank.chars ++ (separator first ++ (before.chars ++ (lead ++ behind)))) rest := by
  cases first with
  | true =>
    have whole := Within.lead true .none (fun _ => rfl) ((isLead.blank before).blank blank) more
    simpa [separator, Blank.none] using whole
  | false =>
    have whole := Within.lead false blank Bool.noConfusion (isLead.blank before) more
    simpa using whole

theorem joined_of {ι : Type} (text : ι → List Char)
    (each : ∀ lead, bracket.Lead lead → ∀ behind : Blank, ∃ item, text item = lead ++ behind.chars)
    (within : Within bracket first unread rest) :
    ∃ (before : Blank) (items : List ι) (last : Blank), (first = true → before = .none) ∧
      unread = before.chars ++ (joined text first items ++
        (last.chars ++ bracket.closing :: rest)) := by
  induction within with
  | closed first blank rest => exact ⟨.none, [], blank, fun _ => rfl, rfl⟩
  | lead first blank own isLead _ ih =>
    obtain ⟨behind, items, last, -, rfl⟩ := ih
    obtain ⟨item, isText⟩ := each _ isLead behind
    exact ⟨blank, item :: items, last, own, by simp [joined, isText]⟩

/-- A bracket with what stands in it is a tree. -/
theorem tree (within : Within bracket true unread rest) :
    ∃ tree : Tree, bracket.opening :: unread = tree.chars ++ rest := by
  cases bracket with
  | list =>
    have items (lead : List Char) (isLead : Bracket.list.Lead lead) (behind : Blank) :
        ∃ item : Item Tree, item.lead ++ item.behind.chars = lead ++ behind.chars := by
      cases isLead with
      | item item => exact ⟨{ item with behind }, rfl⟩
    obtain ⟨before, items, last, isNone, rfl⟩ := within.joined_of _ items
    refine ⟨.list items last, ?_⟩
    simp [isNone rfl, Tree.chars_list, Bracket.opening, Bracket.closing, Blank.none]
  | object =>
    have entries (lead : List Char) (isLead : Bracket.object.Lead lead) (behind : Blank) :
        ∃ entry : Entry Tree, entry.lead ++ entry.behind.chars = lead ++ behind.chars := by
      cases isLead with
      | entry entry => exact ⟨{ entry with behind }, rfl⟩
    obtain ⟨before, entries, last, isNone, rfl⟩ := within.joined_of _ entries
    refine ⟨.object entries last, ?_⟩
    simp [isNone rfl, Tree.chars_object, Bracket.opening, Bracket.closing, Blank.none]

end Within

/-- What is next within a bracket: its end, or what stands behind the comma that may be due. -/
inductive NextWithin (bracket : Bracket) (first : Bool) : Bool → List Char → List Char → Prop
  | ended (blank : Blank) (rest : List Char) :
      NextWithin bracket first false (blank.chars ++ bracket.closing :: rest)
        (bracket.closing :: rest)
  | value (blank before : Blank) (rest : List Char) :
      NextWithin bracket first true (blank.chars ++ (separator first ++ (before.chars ++ rest)))
        rest

namespace Reader

variable {first more? : Bool}

theorem taken_element? (read : run? (element? first) unread = some (more?, behind)) :
    NextWithin .list first more? unread behind := by
  obtain ⟨blank, c, more, rfl, found⟩ := taken_solid read rfl
  dsimp only at found
  by_cases ends : c = ']'
  · rw [if_pos ends] at found
    cases found
    exact ends ▸ .ended blank more
  rw [if_neg ends] at found
  cases first with
  | true =>
    cases found
    exact .value blank .none (c :: more)
  | false =>
    rw [if_neg Bool.false_ne_true, run?_ite] at found
    split at found
    · rename_i comma
      subst comma
      rw [run?_bind, run?_skip, Option.bind_some] at found
      obtain ⟨before, d, rest, rfl, next⟩ := taken_solid found rfl
      rw [run?_ite] at next
      split at next
      · contradiction
      · cases next
        exact .value blank before (d :: rest)
    · contradiction

theorem taken_key? (read : run? (key? first) unread = some (more?, behind)) :
    NextWithin .object first more? unread behind ∧ (more? = true → behind.head? = some '"') := by
  obtain ⟨blank, c, more, rfl, found⟩ := taken_solid read rfl
  dsimp only at found
  by_cases ends : c = '\x7d'
  · rw [if_pos ends] at found
    cases found
    exact ends ▸ ⟨.ended blank more, nofun⟩
  rw [if_neg ends] at found
  cases first with
  | true =>
    rw [if_pos rfl, run?_ite] at found
    split at found
    · rename_i quote
      cases found
      exact ⟨.value blank .none (c :: more), fun _ => congrArg some quote⟩
    · contradiction
  | false =>
    rw [if_neg Bool.false_ne_true, run?_ite] at found
    split at found
    · rename_i comma
      subst comma
      rw [run?_bind, run?_skip, Option.bind_some] at found
      obtain ⟨before, d, rest, rfl, next⟩ := taken_solid found rfl
      rw [run?_ite] at next
      split at next
      · rename_i quote
        cases next
        exact ⟨.value blank before (d :: rest), fun _ => congrArg some quote⟩
      · rw [run?_ite] at next
        split at next <;> contradiction
    · contradiction

end Reader

/-- What a turn takes off a text within a bracket: a value with what is before it, or the end. -/
inductive TakesItem (bracket : Bracket) (first : σ → Bool) (state : σ) :
    Turn σ α → List Char → List Char → Prop
  | again {next : σ} {lead : List Char} (blank before : Blank) (later : first next = false)
      (isLead : bracket.Lead lead) (behind : List Char) :
      TakesItem bracket first state (.again next)
        (blank.chars ++ (separator (first state) ++ (before.chars ++ (lead ++ behind)))) behind
  | done {a : α} (blank : Blank) (rest : List Char) :
      TakesItem bracket first state (.done a) (blank.chars ++ bracket.closing :: rest) rest

def TakesItems (bracket : Bracket) (turn : σ → Reader (Turn σ α)) (first : σ → Bool) : Prop :=
  ∀ state unread result behind, run? (turn state) unread = some (result, behind) →
    TakesItem bracket first state result unread behind

theorem TakesItems.within {bracket : Bracket} {turn : σ → Reader (Turn σ α)} {first : σ → Bool}
    (takes : TakesItems bracket turn first) {state : σ} {a : α}
    (ran : Ran turn state unread a rest) : Within bracket (first state) unread rest := by
  induction ran with
  | done last =>
    cases takes _ _ _ _ last with
    | done blank => exact .closed _ blank _
  | again one _ ih =>
    cases takes _ _ _ _ one with
    | again blank before later isLead => exact .of_lead blank before isLead (later ▸ ih)

/-- A reader that goes on from a first character takes a tree. -/
def TakesTreeFrom (c : Char) (reader : Reader α) : Prop :=
  ∀ unread rest a, run? reader (c :: unread) = some (a, rest) →
    ∃ tree : Tree, c :: unread = tree.chars ++ rest

namespace TakesTree

variable {reader : Reader α}

theorem listItems (takes : TakesTree reader) :
    TakesItems .list (elementTurn reader) List.isEmpty := by
  intro read unread result behind taken
  obtain ⟨more?, _, found, turn⟩ := run?_bind_eq_some_iff.mp taken
  cases taken_element? found with
  | ended blank =>
    rw [if_neg Bool.false_ne_true] at turn
    cases turn
    exact .done blank _
  | value blank before =>
    rw [if_pos rfl] at turn
    obtain ⟨a, _, value, last⟩ := run?_bind_eq_some_iff.mp turn
    cases last
    obtain ⟨inner, tree, rfl⟩ := takes _ _ _ value
    rw [← List.append_assoc inner.chars]
    exact .again blank before rfl (.item ⟨inner, tree, .none⟩) _

theorem list (takes : TakesTree reader) : TakesTreeFrom '[' (Reader.list reader) := by
  intro unread rest a read
  rw [Reader.list, run?_bind, run?_skip, Option.bind_some] at read
  exact (takes.listItems.within (.of_repeated read)).tree

end TakesTree

/-- What a reader of members takes behind a key is a colon and a tree. -/
def TakesMember (member : σ → String → Reader σ) : Prop :=
  ∀ state key unread next rest, run? (member state key) unread = some (next, rest) →
    ∃ (afterKey beforeValue : Blank) (tree : Tree),
      unread = afterKey.chars ++ ':' :: (beforeValue.chars ++ (tree.chars ++ rest))

namespace TakesMember

variable {member : σ → String → Reader σ}

/-- A colon and a tree stand behind a key, whatever is made of them. -/
theorem of_colon {reader : Reader α} (takes : TakesTree reader) {f : α → σ} {next : σ}
    (read : run? (do colon; let a ← reader; pure (f a)) unread = some (next, rest)) :
    ∃ (afterKey beforeValue : Blank) (tree : Tree),
      unread = afterKey.chars ++ ':' :: (beforeValue.chars ++ (tree.chars ++ rest)) := by
  obtain ⟨_, _, colon, value⟩ := run?_bind_eq_some_iff.mp read
  obtain ⟨a, _, value, last⟩ := run?_bind_eq_some_iff.mp value
  cases last
  obtain ⟨afterKey, rfl⟩ := taken_colon colon
  obtain ⟨beforeValue, tree, rfl⟩ := takes _ _ _ value
  exact ⟨afterKey, beforeValue, tree, rfl⟩

theorem objectItems (takes : TakesMember member) :
    TakesItems .object (memberTurn member) Prod.fst := by
  intro state unread result behind taken
  obtain ⟨more?, _, found, turn⟩ := run?_bind_eq_some_iff.mp taken
  obtain ⟨next, isKey⟩ := taken_key? found
  cases next with
  | ended blank =>
    rw [if_neg Bool.false_ne_true] at turn
    cases turn
    exact .done blank _
  | value blank before =>
    rw [if_pos rfl] at turn
    obtain ⟨chars, rfl⟩ := List.head?_eq_some_iff.mp (isKey rfl)
    obtain ⟨key, _, quoted, value⟩ := run?_bind_eq_some_iff.mp turn
    obtain ⟨glyphs, shape⟩ := taken_text quoted
    obtain ⟨next, _, value, last⟩ := run?_bind_eq_some_iff.mp value
    cases last
    obtain ⟨afterKey, beforeValue, tree, rfl⟩ := takes _ _ _ _ _ value
    let entry : Entry Tree := ⟨.none, glyphs, afterKey, beforeValue, tree, .none⟩
    have whole : '"' :: chars = entry.lead ++ behind := by
      simp [shape, entry, Entry.lead, Blank.none]
    exact whole ▸ .again blank before rfl (.entry entry) behind

theorem object (takes : TakesMember member) (empty : σ) :
    TakesTreeFrom '\x7b' (Reader.object member empty) := by
  intro unread rest a read
  rw [Reader.object, run?_bind, run?_skip, Option.bind_some] at read
  exact (takes.objectItems.within (.of_repeated read)).tree

end TakesMember

end CollectionTypes.Json
