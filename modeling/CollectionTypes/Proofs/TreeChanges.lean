import CollectionTypes.Proofs.TreeRecords

/-!
# Changes of trees

Changes of a tree and what a reader makes of the tree before and after them. A change at one place
of a record or a list changes the result at that place only.
-/

namespace CollectionTypes.Json

variable {ρ α β : Type}

/-- The members of an object stand in another order, or there is one more of an unknown key. -/
inductive Rearranged (keys : List String) : Tree → Tree → Prop
  | reordered {entries entries' : List (Entry Tree)} {last last' : Blank}
      (perm : (entries.map Entry.pair).Perm (entries'.map Entry.pair)) :
      Rearranged keys (.object entries last) (.object entries' last')
  | inserted {before behind : List (Entry Tree)} {last : Blank} {entry : Entry Tree} {key : String}
      (isKey : entry.key? = some key) (unknown : key ∉ keys) :
      Rearranged keys (.object (before ++ behind) last) (.object (before ++ entry :: behind) last)

/-- The value of one member of a record changes. -/
inductive AtMember (keys : List String) (key : String) (Changed : Tree → Tree → Prop) :
    Tree → Tree → Prop
  | object {before behind : List (Entry Tree)} {last : Blank} {entry : Entry Tree} {value : Tree}
      (isKey : entry.key? = some key) (changed : Changed entry.value value) :
      AtMember keys key Changed (.object (before ++ entry :: behind) last)
        (.object (before ++ { entry with value } :: behind) last)
  | list {before behind : List (Item Tree)} {last : Blank} {item : Item Tree} {value : Tree}
      (isKey : keys[before.length]? = some key) (changed : Changed item.value value) :
      AtMember keys key Changed (.list (before ++ item :: behind) last)
        (.list (before ++ { item with value } :: behind) last)

/-- One element of a list changes. -/
inductive AtElement (Changed : Tree → Tree → Prop) : Tree → Tree → Prop
  | list {before behind : List (Item Tree)} {last : Blank} {item : Item Tree} {value : Tree}
      (changed : Changed item.value value) :
      AtElement Changed (.list (before ++ item :: behind) last)
        (.list (before ++ { item with value } :: behind) last)

/-- The element at one place of a list changes. -/
inductive AtPlace (place : Nat) (Changed : Tree → Tree → Prop) : Tree → Tree → Prop
  | list {before behind : List (Item Tree)} {last : Blank} {item : Item Tree} {value : Tree}
      (isPlace : before.length = place) (changed : Changed item.value value) :
      AtPlace place Changed (.list (before ++ item :: behind) last)
        (.list (before ++ { item with value } :: behind) last)

/-- What a reader makes of a tree it makes of the changed tree too, up to a relation of results. -/
def Carries (reader : Reader α) (Changed : Tree → Tree → Prop) (Alike : α → α → Prop) : Prop :=
  ∀ tree tree' a, Changed tree tree' → made? reader tree = some a →
    ∃ a', made? reader tree' = some a' ∧ Alike a a'

theorem Rearranged.carries {shape : Shape ρ} (regular : shape.Regular) (localReads : shape.Local) :
    Carries (Reader.record shape) (Rearranged shape.keys) Eq := by
  intro tree tree' record changed read
  refine ⟨record, ?_, rfl⟩
  rw [(Makes.record regular localReads).made?_eq] at read ⊢
  rw [← read]
  cases changed with
  | reordered perm => exact (regular.gather?_perm perm).symm
  | inserted isKey unknown =>
    simp only [Tree.pairs?, List.map_append, List.map_cons, Entry.pair, isKey, Option.bind_some]
    exact Shape.gather?_unknown unknown _ _ _

theorem zip_at {κ τ : Type} {keys : List κ} {key : κ} {before : List τ}
    (isKey : keys[before.length]? = some key) (behind : List τ) :
    ∃ lead tail, ∀ value, keys.zip (before ++ value :: behind) = lead ++ (key, value) :: tail := by
  induction before generalizing keys with
  | nil =>
    cases keys with
    | nil => contradiction
    | cons k keys =>
      obtain rfl := Option.some.inj isKey
      exact ⟨[], keys.zip behind, fun _ => rfl⟩
  | cons v before ih =>
    cases keys with
    | nil => contradiction
    | cons k keys =>
      obtain ⟨lead, tail, each⟩ := ih isKey
      exact ⟨(k, v) :: lead, tail, fun value => congrArg ((k, v) :: ·) (each value)⟩

/-- Before and behind the changed value, a record has the same members. -/
theorem AtMember.pairs? {keys : List String} {key : String} {Changed : Tree → Tree → Prop}
    {tree tree' : Tree} (changed : AtMember keys key Changed tree tree')
    {pairs : List (Option String × Tree)} (written : tree.pairs? keys = some pairs) :
    ∃ before behind value value', Changed value value' ∧
      pairs = before ++ (some key, value) :: behind ∧
      tree'.pairs? keys = some (before ++ (some key, value') :: behind) := by
  cases changed with
  | object isKey changed =>
    rename_i before behind last entry value
    obtain rfl := Option.some.inj written
    refine ⟨before.map Entry.pair, behind.map Entry.pair, entry.value, value, changed, ?_, ?_⟩
    · simp [Entry.pair, isKey]
    · rw [Tree.pairs?, List.map_append, List.map_cons, ← isKey]
      rfl
  | list isKey changed =>
    rename_i before behind last item value
    have isKey : (keys.map some)[(before.map Item.value).length]? = some (some key) := by
      rw [List.length_map, List.getElem?_map, isKey]
      rfl
    obtain ⟨lead, tail, each⟩ := zip_at isKey (behind.map Item.value)
    rw [Tree.pairs?] at written
    split at written
    · rename_i few
      obtain rfl := Option.some.inj written
      refine ⟨lead, tail, item.value, value, changed, ?_, ?_⟩
      · rw [List.map_append, List.map_cons, each]
      · rw [Tree.pairs?, if_pos (by simpa using few), List.map_append, List.map_cons, each]
    · contradiction

/-- The text of a member in a record. -/
def Tree.States (keys : List String) (key text : String) (tree : Tree) : Prop :=
  ∃ pairs value, tree.pairs? keys = some pairs ∧ (some key, value) ∈ pairs ∧
    value.asText? = some text

/-- A list is read around the element at one place. -/
theorem mapM_at {τ : Type} (f : τ → Option α) (before : List τ) (v : τ) (behind : List τ) :
    (before ++ v :: behind).mapM f =
      (before.mapM f).bind fun first =>
        (f v).bind fun a => (behind.mapM f).map fun more => first ++ a :: more := by
  rw [List.mapM_append, List.mapM_cons]
  cases before.mapM f with
  | none => rfl
  | some first =>
    cases f v with
    | none => rfl
    | some a => cases behind.mapM f <;> rfl

theorem length_mapM {τ : Type} {f : τ → Option α} {items : List τ} {made : List α}
    (all : items.mapM f = some made) : made.length = items.length := by
  induction items generalizing made with
  | nil =>
    obtain rfl := Option.some.inj all
    rfl
  | cons item items ih =>
    rw [List.mapM_cons] at all
    obtain ⟨a, -, rest⟩ := Option.bind_eq_some_iff.mp all
    obtain ⟨more, isMore, ended⟩ := Option.bind_eq_some_iff.mp rest
    obtain rfl := Option.some.inj ended
    rw [List.length_cons, List.length_cons, ih isMore]

namespace Carries

/-- When the value of a member changes, only what this member sets changes in the record. -/
theorem record {shape : Shape ρ} (regular : shape.Regular) (localReads : shape.Local)
    {key : String} {required : Bool} {value : Reader α} {set : α → ρ → ρ}
    (member : ⟨key, required, set <$> value⟩ ∈ shape.members)
    {Changed : Tree → Tree → Prop} {Alike : α → α → Prop} (carries : Carries value Changed Alike) :
    Carries (Reader.record shape) (AtMember shape.keys key Changed) fun record record' =>
      ∃ others a a', Alike a a' ∧ record = set a others ∧ record' = set a' others := by
  intro tree tree' record changed read
  rw [(Makes.record regular localReads).made?_eq] at read ⊢
  obtain ⟨pairs, written, gathered⟩ := Option.bind_eq_some_iff.mp read
  obtain ⟨before, behind, v, v', changes, rfl, written'⟩ := changed.pairs? written
  obtain ⟨others?, each⟩ := regular.gather?_member member before behind
  have first := (each v).symm.trans gathered
  obtain ⟨others, isOthers, made⟩ := Option.bind_eq_some_iff.mp first
  rw [Member.made?_map, Option.map_map] at made
  obtain ⟨a, isValue, rfl⟩ := Option.map_eq_some_iff.mp made
  obtain ⟨a', isValue', alike⟩ := carries v v' a changes isValue
  refine ⟨set a' others, ?_, others, a, a', alike, rfl, rfl⟩
  dsimp only
  rw [written', Option.bind_some]
  refine (each v').trans ?_
  rw [isOthers, Option.bind_some, Member.made?_map, isValue']
  rfl

/-- A list changes at the place of the element that changes. -/
theorem listValueAt {reader : Reader α} (makes : Makes reader (made? reader))
    {Changed : Tree → Tree → Prop} {Alike : α → α → Prop} (carries : Carries reader Changed Alike)
    (place : Nat) :
    Carries (Reader.listValue reader) (AtPlace place Changed) fun elements elements' =>
      ∃ a a', Alike a a' ∧ elements[place]? = some a ∧ elements' = elements.set place a' := by
  intro tree tree' elements changed read
  rw [makes.listValue.made?_eq] at read ⊢
  cases changed with
  | list isPlace changed =>
    rename_i before behind last item value
    rw [Tree.asList?, mapM_at] at read ⊢
    obtain ⟨first, isFirst, read⟩ := Option.bind_eq_some_iff.mp read
    obtain ⟨a, isValue, read⟩ := Option.bind_eq_some_iff.mp read
    obtain ⟨more, isMore, rfl⟩ := Option.map_eq_some_iff.mp read
    obtain ⟨a', isValue', alike⟩ := carries item.value value a changed isValue
    have length : place = first.length := isPlace.symm.trans (length_mapM isFirst).symm
    refine ⟨first ++ a' :: more, ?_, a, a', alike, ?_, ?_⟩
    · simp [isFirst, isValue', isMore]
    · rw [length, List.getElem?_append_right le_rfl, Nat.sub_self, List.getElem?_cons_zero]
    · rw [length, List.set_append_right _ _ le_rfl, Nat.sub_self, List.set_cons_zero]

theorem listValue {reader : Reader α} (makes : Makes reader (made? reader))
    {Changed : Tree → Tree → Prop} {Alike : α → α → Prop} (carries : Carries reader Changed Alike) :
    Carries (Reader.listValue reader) (AtElement Changed) fun elements elements' =>
      ∃ before behind a a', Alike a a' ∧ elements = before ++ a :: behind ∧
        elements' = before ++ a' :: behind := by
  intro tree tree' elements changed read
  cases changed with
  | list changed =>
    obtain ⟨_, read', a, a', alike, isPlace, rfl⟩ :=
      carries.listValueAt makes _ _ _ elements (.list rfl changed) read
    obtain ⟨inside, rfl⟩ := List.getElem?_eq_some_iff.mp isPlace
    obtain ⟨before, behind, split, -, replaced⟩ := @List.exists_of_set _ _ a' _ inside
    exact ⟨_, read', before, behind, _, a', alike, split, replaced⟩

theorem optional {reader : Reader α} (makes : Makes reader (made? reader))
    {Changed : Tree → Tree → Prop} {Alike : α → α → Prop} (carries : Carries reader Changed Alike)
    (present : ∀ tree tree', Changed tree tree' → tree ≠ .null ∧ tree' ≠ .null) :
    Carries (Reader.optional reader) Changed fun value value' =>
      ∃ a a', Alike a a' ∧ value = some a ∧ value' = some a' := by
  intro tree tree' value changed read
  obtain ⟨notNull, notNull'⟩ := present tree tree' changed
  rw [makes.optional.made?_eq] at read ⊢
  rw [Tree.asOptional?_of_ne notNull] at read
  obtain ⟨a, isValue, rfl⟩ := Option.map_eq_some_iff.mp read
  obtain ⟨a', isValue', alike⟩ := carries tree tree' a changed isValue
  exact ⟨some a', by rw [Tree.asOptional?_of_ne notNull', isValue']; rfl, a, a', alike, rfl, rfl⟩

end Carries

/-- The value of a member can be read, and the member sets what comes of it. -/
theorem Shape.Local.exists_made {shape : Shape ρ} (localReads : shape.Local)
    (regular : shape.Regular) {key : String} {required : Bool} {value : Reader α} {set : α → ρ → ρ}
    (member : ⟨key, required, set <$> value⟩ ∈ shape.members) {tree v : Tree}
    {pairs : List (Option String × Tree)} (written : tree.pairs? shape.keys = some pairs)
    (inPairs : (some key, v) ∈ pairs) {record : ρ}
    (read : made? (Reader.record shape) tree = some record) :
    ∃ a others, made? value v = some a ∧ record = set a others := by
  obtain ⟨before, behind, rfl⟩ := List.append_of_mem inPairs
  obtain ⟨others?, each⟩ := regular.gather?_member member before behind
  rw [(Makes.record regular localReads).made?_eq] at read
  dsimp only at read
  rw [written, Option.bind_some, each v] at read
  obtain ⟨others, -, made⟩ := Option.bind_eq_some_iff.mp read
  rw [Member.made?_map, Option.map_map] at made
  obtain ⟨a, isValue, rfl⟩ := Option.map_eq_some_iff.mp made
  exact ⟨a, others, isValue, rfl⟩

/-- A text that a record states is what its member sets. -/
theorem Tree.States.text {shape : Shape ρ} (regular : shape.Regular) (localReads : shape.Local)
    {key text : String} {required : Bool} {set : String → ρ → ρ}
    (member : ⟨key, required, set <$> Reader.textValue⟩ ∈ shape.members) {tree : Tree}
    (states : tree.States shape.keys key text) {record : ρ}
    (read : made? (Reader.record shape) tree = some record) :
    ∃ others, record = set text others := by
  obtain ⟨pairs, value, written, inPairs, isText⟩ := states
  obtain ⟨_, others, isValue, rfl⟩ :=
    localReads.exists_made regular member written inPairs read
  rw [Makes.textValue.made?_eq, isText] at isValue
  exact ⟨others, by rw [Option.some.inj isValue]⟩

end CollectionTypes.Json
