import CollectionTypes.Json.AnyValue
import CollectionTypes.Json.Shape
import CollectionTypes.Proofs.WithinBrackets

/-!
# Trees taken off a text

Whatever a reader of values takes off a text is a blank and a tree, so the texts that are read are
those of trees.
-/

namespace CollectionTypes.Json

open Reader

variable {α ρ : Type} {unread behind rest : List Char}

theorem takesTreeFrom_number (c : Char) : TakesTreeFrom c number := by
  intro unread rest value read
  obtain ⟨text, shape⟩ := taken_number read
  exact ⟨.number text, shape⟩

theorem takesTreeFrom_text : TakesTreeFrom '"' text := by
  intro unread rest s read
  obtain ⟨glyphs, shape⟩ := taken_text read
  exact ⟨.text glyphs, shape⟩

theorem takesTreeFrom_skipNumber (c : Char) : TakesTreeFrom c skipNumber := by
  intro unread rest _ read
  obtain ⟨text, shape⟩ := taken_skipNumber read
  exact ⟨.number text, shape⟩

theorem takesTreeFrom_skipText : TakesTreeFrom '"' skipText := by
  intro unread rest _ read
  obtain ⟨glyphs, shape⟩ := taken_skipText read
  exact ⟨.text glyphs, shape⟩

/-- A keyword is the rest of a tree without parts. -/
theorem takesTreeFrom_keyword {c : Char} {word : String} (tree : Tree)
    (shape : tree.chars = c :: word.toList) : TakesTreeFrom c (keyword word) := by
  intro unread rest _ read
  exact ⟨tree, by rw [shape, taken_keyword read, List.cons_append]⟩

theorem takesTreeFrom_word {c : Char} {word : String} {a : α} (tree : Tree)
    (shape : tree.chars = c :: word.toList) : TakesTreeFrom c (do keyword word; pure a) := by
  intro unread rest b read
  obtain ⟨_, _, read, last⟩ := run?_bind_eq_some_iff.mp read
  cases last
  exact takesTreeFrom_keyword tree shape unread rest () read

/-- What is made of a value has no say in what is taken. -/
theorem TakesTreeFrom.map {β : Type} {c : Char} {reader : Reader α} {f : α → β}
    (takes : TakesTreeFrom c reader) : TakesTreeFrom c (f <$> reader) := by
  intro unread rest b read
  obtain ⟨a, taken, -⟩ := run?_map_eq_some_iff.mp read
  exact takes unread rest a taken

namespace TakesTree

variable {reader : Reader α}

theorem map {β : Type} {f : α → β} (takes : TakesTree reader) : TakesTree (f <$> reader) := by
  intro unread rest b read
  obtain ⟨a, taken, -⟩ := run?_map_eq_some_iff.mp read
  exact takes unread rest a taken

/-- A reader that chooses by the first character takes a tree where each of its choices does. -/
theorem valueBy {expected : String} {reader? : Char → Option (Reader α)}
    (each : ∀ c, ∀ reader ∈ reader? c, TakesTreeFrom c reader) :
    TakesTree (Reader.valueBy expected reader?) := by
  intro unread rest a read
  obtain ⟨blank, c, more, rfl, found⟩ := taken_solid read rfl
  dsimp only at found
  cases known : reader? c with
  | none =>
    rw [known] at found
    exact absurd found (by rw [run?_refuse]; nofun)
  | some reader =>
    rw [known] at found
    obtain ⟨tree, shape⟩ := each c reader known more rest a found
    exact ⟨blank, tree, by rw [shape]⟩

theorem textValue : TakesTree Reader.textValue := by
  refine valueBy fun c reader isReader => ?_
  split at isReader
  · cases isReader
    subst_vars
    exact takesTreeFrom_text
  · contradiction

theorem boolValue : TakesTree Reader.boolValue := by
  refine valueBy fun c reader isReader => ?_
  split at isReader
  · cases isReader
    subst_vars
    exact takesTreeFrom_word (.bool true) rfl
  · split at isReader
    · cases isReader
      subst_vars
      exact takesTreeFrom_word (.bool false) rfl
    · contradiction

theorem doubleValue : TakesTree Reader.doubleValue := by
  refine valueBy fun c reader isReader => ?_
  split at isReader
  · cases isReader
    exact (takesTreeFrom_number c).map
  · contradiction

/-- The elements are trees, so the list is one. -/
theorem listValue (takes : TakesTree reader) : TakesTree (Reader.listValue reader) := by
  refine valueBy fun c reader isReader => ?_
  split at isReader
  · cases isReader
    subst_vars
    exact takes.list
  · contradiction

theorem optional (takes : TakesTree reader) : TakesTree (Reader.optional reader) := by
  intro unread rest a read
  obtain ⟨blank, solid, rfl, found⟩ := taken_blank read
  split at found
  · rename_i isN
    obtain ⟨more, rfl⟩ := List.head?_eq_some_iff.mp isN
    obtain ⟨tree, shape⟩ := takesTreeFrom_word .null rfl _ _ _ found
    exact ⟨blank, tree, by rw [shape]⟩
  · obtain ⟨inner, tree, rfl⟩ := takes.map _ _ _ found
    exact ⟨blank.append inner, tree, by simp [Blank.append]⟩

/-- Where both brackets lead to trees, every value is one. -/
theorem valueWith {container : Char → Reader Value}
    (list : TakesTreeFrom '[' (container '[')) (object : TakesTreeFrom '\x7b' (container '\x7b')) :
    TakesTree (Reader.valueWith container) := by
  intro unread rest a read
  obtain ⟨blank, c, more, rfl, found⟩ := taken_solid read rfl
  suffices one : ∃ tree : Tree, c :: more = tree.chars ++ rest by
    obtain ⟨tree, shape⟩ := one
    exact ⟨blank, tree, by rw [shape]⟩
  dsimp only at found
  split at found
  · subst_vars
    exact takesTreeFrom_word .null rfl _ _ _ found
  split at found
  · subst_vars
    exact takesTreeFrom_word (.bool true) rfl _ _ _ found
  split at found
  · subst_vars
    exact takesTreeFrom_word (.bool false) rfl _ _ _ found
  split at found
  · exact (takesTreeFrom_number c).map _ _ _ found
  split at found
  · subst_vars
    exact takesTreeFrom_text.map _ _ _ found
  split at found
  · rename_i bracket
    rcases (by simpa using bracket : c = '[' ∨ c = '\x7b') with rfl | rfl
    · exact list _ _ _ found
    · exact object _ _ _ found
  · contradiction

theorem putMemberValue {reader : Reader Value} (takes : TakesTree reader) :
    TakesMember (Reader.putMemberValue reader) :=
  fun _ _ _ _ _ read => TakesMember.of_colon takes read

/-- By induction on how deep brackets may still be nested. -/
theorem anyValue (depth : Nat) : TakesTree (Reader.anyValue depth) := by
  induction depth with
  | zero => exact valueWith nofun nofun
  | succ depth ih => exact valueWith ih.list.map (ih.putMemberValue.object []).map

end TakesTree

/-! ### Values that are passed over -/

/-- From behind a value on, or from within the innermost bracket, all open brackets are closed. -/
def Closed : Bool → List Bracket → List Char → List Char → Prop
  | _, [], unread, rest => unread = rest
  | first, bracket :: outer, unread, rest =>
      ∃ behind, Within bracket first unread behind ∧ Closed false outer behind rest

/-- Where a value is due, there is a tree, then all open brackets are closed. -/
def AtValue (brackets : List Bracket) (unread rest : List Char) : Prop :=
  ∃ (blank : Blank) (tree : Tree) (behind : List Char),
    unread = blank.chars ++ (tree.chars ++ behind) ∧ Closed false brackets behind rest

/-- What is left to do after a turn is done up to `rest`. -/
def Completes : Turn (List Bracket) Unit → List Char → List Char → Prop
  | .done _, unread, rest => unread = rest
  | .again brackets, unread, rest => AtValue brackets unread rest

theorem taken_skipEntry {bracket : Bracket} {blank : Blank} {tree : Tree}
    (read : run? (skipEntry bracket) unread = some ((), blank.chars ++ (tree.chars ++ rest))) :
    ∃ lead, bracket.Lead lead ∧ unread = lead ++ rest := by
  cases bracket with
  | list =>
    cases read
    exact ⟨_, .item ⟨blank, tree, .none⟩, (List.append_assoc ..).symm⟩
  | object =>
    obtain ⟨before, c, more, rfl, found⟩ := taken_solid read rfl
    dsimp only at found
    split at found
    · subst_vars
      obtain ⟨_, _, key, colon⟩ := run?_bind_eq_some_iff.mp found
      obtain ⟨glyphs, shape⟩ := taken_skipText key
      obtain ⟨afterKey, rfl⟩ := taken_colon colon
      refine ⟨_, .entry ⟨before, glyphs, afterKey, blank, tree, .none⟩, ?_⟩
      simp [shape, Entry.lead]
    · contradiction

/-- An entry is followed by its value, and the bracket it stands in is closed later. -/
theorem closed_of_entry {first : Bool} {bracket : Bracket} {outer : List Bracket}
    {result : Turn (List Bracket) Unit} (blank : Blank)
    (read : run? (do skipEntry bracket; pure (.again (bracket :: outer))) unread =
      some (result, behind))
    (completes : Completes result behind rest) :
    Closed first (bracket :: outer) (blank.chars ++ (separator first ++ unread)) rest := by
  obtain ⟨_, _, entry, last⟩ := run?_bind_eq_some_iff.mp read
  cases last
  obtain ⟨inner, tree, _, rfl, behind, within, closed⟩ := completes
  obtain ⟨lead, isLead, rfl⟩ := taken_skipEntry entry
  exact ⟨behind, .of_lead blank .none isLead within, closed⟩

theorem closed_of_unwind {behindValue : Bool} {brackets : List Bracket}
    {result : Turn (List Bracket) Unit}
    (read : run? (unwind behindValue brackets) unread = some (result, behind))
    (completes : Completes result behind rest) : Closed (!behindValue) brackets unread rest := by
  induction brackets generalizing behindValue unread with
  | nil =>
    cases read
    exact completes
  | cons bracket outer ih =>
    obtain ⟨blank, c, more, rfl, found⟩ := taken_solid read rfl
    dsimp only at found
    split at found
    · subst_vars
      rw [run?_bind, run?_skip, Option.bind_some] at found
      exact ⟨more, .closed _ blank more, ih found⟩
    cases behindValue with
    | true =>
      rw [if_pos rfl] at found
      split at found
      · subst_vars
        rw [run?_bind, run?_skip, Option.bind_some] at found
        exact closed_of_entry blank found completes
      · contradiction
    | false =>
      rw [if_neg Bool.false_ne_true] at found
      exact closed_of_entry blank found completes

/-- A bracket that is opened holds a tree when it is closed again. -/
theorem AtValue.of_bracket {bracket : Bracket} {brackets : List Bracket}
    (closed : Closed true (bracket :: brackets) unread rest) :
    AtValue brackets (bracket.opening :: unread) rest := by
  obtain ⟨behind, within, closed⟩ := closed
  obtain ⟨tree, shape⟩ := within.tree
  exact ⟨.none, tree, behind, shape, closed⟩

theorem AtValue.of_scalar {c : Char} {scalar : Reader Unit} {brackets : List Bracket}
    {result : Turn (List Bracket) Unit} (takes : TakesTreeFrom c scalar)
    (read : run? (do scalar; unwind true brackets) (c :: unread) = some (result, behind))
    (completes : Completes result behind rest) : AtValue brackets (c :: unread) rest := by
  obtain ⟨_, inner, one, unwound⟩ := run?_bind_eq_some_iff.mp read
  obtain ⟨tree, shape⟩ := takes unread inner () one
  exact ⟨.none, tree, inner, shape, closed_of_unwind unwound completes⟩

theorem AtValue.blank {brackets : List Bracket} (blank : Blank)
    (atValue : AtValue brackets unread rest) : AtValue brackets (blank.chars ++ unread) rest := by
  obtain ⟨inner, tree, behind, rfl, closed⟩ := atValue
  exact ⟨blank.append inner, tree, behind, by simp [Blank.append], closed⟩

theorem atValue_of_skipTurn {brackets : List Bracket} {result : Turn (List Bracket) Unit}
    (read : run? (skipTurn brackets) unread = some (result, behind))
    (completes : Completes result behind rest) : AtValue brackets unread rest := by
  obtain ⟨blank, c, more, rfl, found⟩ := taken_solid read rfl
  refine .blank blank ?_
  dsimp only at found
  split at found
  · subst_vars
    exact .of_bracket (closed_of_unwind found completes)
  split at found
  · subst_vars
    exact .of_bracket (closed_of_unwind found completes)
  split at found
  · subst_vars
    exact .of_scalar (takesTreeFrom_keyword .null rfl) found completes
  split at found
  · subst_vars
    exact .of_scalar (takesTreeFrom_keyword (.bool true) rfl) found completes
  split at found
  · subst_vars
    exact .of_scalar (takesTreeFrom_keyword (.bool false) rfl) found completes
  split at found
  · exact .of_scalar (takesTreeFrom_skipNumber c) found completes
  split at found
  · subst_vars
    exact .of_scalar takesTreeFrom_skipText found completes
  · contradiction

/-- The turns of skipping, from one open bracket to the next. -/
theorem atValue_of_ran {brackets : List Bracket} {u : Unit}
    (ran : Ran skipTurn brackets unread u rest) : AtValue brackets unread rest := by
  induction ran with
  | done last => exact atValue_of_skipTurn last rfl
  | again one _ ih => exact atValue_of_skipTurn one ih

/-- A value that is skipped is no less a tree than one that is read. -/
theorem takesTree_skipValue : TakesTree skipValue := by
  intro unread rest _ read
  obtain ⟨blank, tree, _, shape, rfl⟩ := atValue_of_ran (.of_repeated read)
  exact ⟨blank, tree, shape⟩

/-! ### Records -/

theorem TakesMember.knownMember {shape : Shape ρ} (takes : ∀ m ∈ shape.members, TakesTree m.read) :
    TakesMember (Reader.knownMember shape) := by
  intro soFar key unread next rest read
  unfold Reader.knownMember at read
  split at read
  · exact of_colon takesTree_skipValue read
  · rename_i m known
    split at read
    · simp [stopBehindObject] at read
    · exact of_colon (takes m (List.mem_of_find?_eq_some known)) read

theorem taken_listEnd (read : run? listEnd unread = some ((), rest)) :
    ∃ blank : Blank, unread = blank.chars ++ ']' :: rest := by
  obtain ⟨blank, c, more, rfl, found⟩ := taken_solid read rfl
  dsimp only at found
  split at found
  · subst_vars
    cases found
    exact ⟨blank, rfl⟩
  · simp at found

theorem within_of_listMembers {shape : Shape ρ} {members : List (Member ρ)}
    (takes : ∀ m ∈ members, TakesTree m.read) {count : Nat} {record result : ρ}
    (read : run? (listMembers shape count members record) unread = some (result, rest)) :
    Within .list (count = 0) unread rest := by
  induction members generalizing count record unread with
  | nil =>
    obtain ⟨_, _, ended, last⟩ := run?_bind_eq_some_iff.mp read
    cases last
    obtain ⟨blank, rfl⟩ := taken_listEnd ended
    exact .closed _ blank rest
  | cons m members ih =>
    obtain ⟨more?, _, found, turn⟩ := run?_bind_eq_some_iff.mp read
    cases taken_element? found with
    | ended blank =>
      rw [if_neg Bool.false_ne_true, run?_bind, run?_skip, Option.bind_some] at turn
      dsimp only at turn
      split at turn
      · contradiction
      · cases turn
        exact .closed _ blank _
    | value blank before =>
      rw [if_pos rfl] at turn
      obtain ⟨change, _, value, others⟩ := run?_bind_eq_some_iff.mp turn
      obtain ⟨inner, tree, rfl⟩ := takes m List.mem_cons_self _ _ _ value
      have more := ih (fun n member => takes n (List.mem_cons_of_mem m member)) others
      rw [← List.append_assoc inner.chars]
      exact .of_lead blank before (.item ⟨inner, tree, .none⟩) more

/-- A record takes an object or a list, whatever members stand in it. -/
theorem TakesTree.record {shape : Shape ρ} (takes : ∀ m ∈ shape.members, TakesTree m.read) :
    TakesTree (Reader.record shape) := by
  refine .valueBy fun c reader isReader => ?_
  split at isReader
  · cases isReader
    subst_vars
    intro unread rest record read
    rw [listRecord, run?_bind, run?_skip, Option.bind_some] at read
    exact (within_of_listMembers takes read).tree
  split at isReader
  · cases isReader
    subst_vars
    intro unread rest record read
    obtain ⟨soFar, _, members, last⟩ := run?_bind_eq_some_iff.mp read
    split at last
    · contradiction
    · cases last
      exact (TakesMember.knownMember takes).object _ _ _ _ members
  · contradiction

end CollectionTypes.Json
