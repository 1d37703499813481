import CollectionTypes.Proofs.GatheredMembers
import CollectionTypes.Proofs.SkippedTrees
import CollectionTypes.Proofs.TreeObjects

/-!
# Records in trees

A record is read from a tree by gathering its members, whether they stand in an object or in the
order of the shape in a list.
-/

namespace CollectionTypes.Json

open Reader

variable {ρ α : Type}

/-- A member as its key, where that can be read, and its value. -/
def Entry.pair (entry : Entry Tree) : Option String × Tree :=
  (entry.key?, entry.value)

/-- The members of a record; in a list they have the given keys one after the other. -/
def Tree.pairs? (keys : List String) : Tree → Option (List (Option String × Tree))
  | .object entries _ => some (entries.map Entry.pair)
  | .list items _ =>
      if items.length ≤ keys.length then some ((keys.map some).zip (items.map Item.value)) else none
  | _ => none

/-- Each member of a shape is read wherever it stands. -/
def Shape.Local (shape : Shape ρ) : Prop :=
  ∀ m ∈ shape.members, Makes m.read (made? m.read)

/-- The state of reading an object, without the order of its keys. -/
def Partly.gathered (soFar : Partly ρ) : Gathered ρ :=
  ⟨soFar.record, soFar.keys.toFinset⟩

/-- Takes up a member behind its key. -/
def Shape.known? (shape : Shape ρ) (soFar : Partly ρ) (key : String) (tree : Tree) :
    Option (Partly ρ) :=
  match shape.member? key with
  | none => some soFar
  | some member =>
      if key ∈ soFar.keys then none
      else (made? member.read tree).map fun change => ⟨change soFar.record, key :: soFar.keys⟩

theorem run?_stopBehindObject (cause : Cause) (unread : List Char) :
    run? (stopBehindObject cause : Reader α) unread = none := by
  simp [stopBehindObject]

theorem Shape.Local.knownMember {shape : Shape ρ} (localReads : shape.Local) :
    MakesMember (Reader.knownMember shape) shape.known? := by
  intro soFar key tree afterKey beforeValue rest follows
  unfold Reader.knownMember Shape.known?
  cases known : shape.member? key with
  | none =>
    have skip := makes_skipValue tree beforeValue rest follows
    unfold Shape.member? at known
    simp [known, run?_colon, skip]
  | some m =>
    have read := localReads m (Shape.mem_of_member? known).1 tree beforeValue rest follows
    unfold Shape.member? at known
    by_cases repeated : key ∈ soFar.keys
    · simp [known, repeated, run?_stopBehindObject]
    · simp [known, repeated, run?_colon, read, Function.comp_def]

theorem gathered_known? (shape : Shape ρ) (soFar : Partly ρ) (entry : Entry Tree) :
    (entry.step? shape.known? soFar).map Partly.gathered =
      shape.take? soFar.gathered entry.pair := by
  unfold Entry.step? Entry.pair Shape.take?
  cases entry.key? with
  | none => rfl
  | some key =>
    rw [Option.bind_some, Option.bind_some, Shape.known?]
    cases shape.member? key with
    | none => rfl
    | some m =>
      by_cases repeated : key ∈ soFar.keys
      · simp [Partly.gathered, repeated]
      · simp [Partly.gathered, repeated, Function.comp_def]

theorem foldlM_known? (shape : Shape ρ) (entries : List (Entry Tree)) (soFar : Partly ρ) :
    (entries.foldlM (Entry.step? shape.known?) soFar).map Partly.gathered =
      (entries.map Entry.pair).foldlM shape.take? soFar.gathered := by
  induction entries generalizing soFar with
  | nil => rfl
  | cons entry entries ih =>
    rw [List.foldlM_cons, List.map_cons, List.foldlM_cons, ← gathered_known?]
    cases entry.step? shape.known? soFar with
    | none => rfl
    | some next => exact ih next

/-- A record is complete unless a member is found missing. -/
theorem Shape.complete?_gathered (shape : Shape ρ) (soFar : Partly ρ) :
    shape.complete? soFar.gathered =
      if (shape.members.find? fun m => m.required && !soFar.keys.contains m.key).isNone then
        some soFar.record
      else none := by
  have present (m : Member ρ) : (m.required && !soFar.keys.contains m.key) = false ↔
      (m.required = true → m.key ∈ soFar.keys.toFinset) := by
    cases m.required <;> simp
  rw [Shape.complete?]
  congr 1
  simp only [Option.isNone_iff_eq_none, List.find?_eq_none, Bool.not_eq_true, present]
  rfl

theorem Shape.Local.objectRecord {shape : Shape ρ} (localReads : shape.Local)
    (entries : List (Entry Tree)) (last : Blank) (rest : List Char) :
    run? (Reader.objectRecord shape) ((Tree.object entries last).chars ++ rest) =
      (shape.gather? (entries.map Entry.pair)).map
        fun record => (record, rest) := by
  have read := localReads.knownMember.object ⟨shape.empty, []⟩ entries last rest
  have gathered := foldlM_known? shape entries ⟨shape.empty, []⟩
  rw [Reader.objectRecord, run?_bind, read, Shape.gather?]
  change _ = Option.map _ ((List.foldlM shape.take? (Partly.gathered ⟨shape.empty, []⟩) _).bind _)
  rw [← gathered]
  cases entries.foldlM (Entry.step? shape.known?) ⟨shape.empty, []⟩ with
  | none => rfl
  | some soFar =>
    simp only [Option.map_some, Option.bind_some, shape.complete?_gathered]
    cases shape.members.find? fun m => m.required && !soFar.keys.contains m.key <;> rfl

/-- A record of members in the order of its shape. -/
def listed? : List (Member ρ) → List Tree → ρ → Option ρ
  | [], [], record => some record
  | [], _ :: _, _ => none
  | member :: members, [], record =>
      if ∀ m ∈ member :: members, m.required = false then some record else none
  | member :: members, tree :: trees, record =>
      (made? member.read tree).bind fun change => listed? members trees (change record)

/-- Only the closing bracket ends a list. -/
theorem run?_listEnd (blank : Blank) {c : Char} (solid : isBlank c = false) (rest : List Char) :
    run? listEnd (blank.chars ++ c :: rest) = if c = ']' then some ((), rest) else none := by
  rw [listEnd, run?_bind, run?_nextSolid? blank solid, Option.bind_some]
  by_cases ends : c = ']'
  · simp [ends]
  · by_cases comma : c = ','
    · simp [comma]
    · simp [ends, comma]

theorem run?_listEnd_item (first : Bool) (blank : Blank) (item : Item Tree) (rest : List Char) :
    run? listEnd (blank.chars ++ (separator first ++ (item.lead ++ rest))) = none := by
  obtain ⟨c, more, shape, opening⟩ := item.value.opens
  rw [Item.lead, shape, List.append_assoc, List.cons_append]
  cases first with
  | true =>
    have refused := run?_listEnd (blank.append item.before) opening.solid (more ++ rest)
    rwa [if_neg opening.notEnd, Blank.append, List.append_assoc] at refused
  | false => exact run?_listEnd blank (by decide) (item.before.chars ++ c :: (more ++ rest))

theorem run?_listMembers (shape : Shape ρ) (members : List (Member ρ))
    (localReads : ∀ m ∈ members, Makes m.read (made? m.read)) (count : Nat)
    (items : List (Item Tree)) (record : ρ) (before last : Blank) (rest : List Char) :
    run? (listMembers shape count members record) (before.chars ++
      (joined (fun item => item.lead ++ item.behind.chars) (count = 0) items ++
        (last.chars ++ ']' :: rest))) =
      (listed? members (items.map Item.value) record).map fun record => (record, rest) := by
  induction members generalizing count items record before with
  | nil =>
    rw [listMembers, run?_bind]
    cases items with
    | nil =>
      have ended := run?_listEnd (before.append last) (by decide : isBlank ']' = false) rest
      rw [Blank.append, List.append_assoc] at ended
      rw [joined, List.nil_append, ended]
      rfl
    | cons item items =>
      simp only [joined, List.append_assoc]
      rw [run?_listEnd_item]
      rfl
  | cons m members ih =>
    cases items with
    | nil =>
      have ended := run?_element?_end (count = 0) (before.append last) rest
      rw [Blank.append, List.append_assoc] at ended
      rw [listMembers, joined, List.nil_append, run?_bind, ended]
      simp only [Option.bind_some, Bool.false_eq_true, if_false, run?_bind, run?_skip, List.map_nil,
        listed?]
      cases required : (m :: members).findIdx? (·.required) with
      | none =>
        rw [List.findIdx?_eq_none_iff] at required
        rw [if_pos required]
        rfl
      | some missing =>
        rw [if_neg fun free => ?_]
        · rfl
        · rw [List.findIdx?_eq_none_iff.mpr free] at required
          contradiction
    | cons item items =>
      have follows := follows_joined item.behind (fun item => item.lead ++ item.behind.chars) items
        last .list rest
      have value := (localReads m List.mem_cons_self).alone item.value follows
      simp only [joined, List.append_assoc]
      rw [listMembers, run?_element, if_pos rfl, run?_bind, value, List.map_cons, listed?]
      cases made? m.read item.value with
      | none => rfl
      | some change =>
        exact ih (fun n member => localReads n (List.mem_cons_of_mem m member)) (count + 1) items
          (change record) item.behind

/-- The members that are still to come when those of the given keys were read in order. -/
structure Pending (shape : Shape ρ) (members : List (Member ρ)) (keys : Finset String) : Prop where
  known : ∀ m ∈ members, shape.member? m.key = some m
  distinct : (members.map Member.key).Nodup
  unread : ∀ m ∈ members, m.key ∉ keys
  others : ∀ m ∈ shape.members, m ∈ members ∨ m.key ∈ keys

namespace Pending

variable {shape : Shape ρ} {m : Member ρ} {members : List (Member ρ)} {keys : Finset String}

theorem start (regular : shape.Regular) : Pending shape shape.members ∅ where
  known _ member := find?_key regular.distinct member
  distinct := regular.distinct
  unread _ _ := Finset.notMem_empty _
  others _ member := .inl member

theorem next (pending : Pending shape (m :: members) keys) :
    Pending shape members (insert m.key keys) where
  known n member := pending.known n (List.mem_cons_of_mem m member)
  distinct := (List.nodup_cons.mp pending.distinct).2
  unread n member inKeys := by
    rcases Finset.mem_insert.mp inKeys with same | inKeys
    · exact (List.nodup_cons.mp pending.distinct).1 (same ▸ List.mem_map_of_mem member)
    · exact pending.unread n (List.mem_cons_of_mem m member) inKeys
  others n member := by
    rcases pending.others n member with inList | inKeys
    · rcases List.mem_cons.mp inList with rfl | behind
      · exact .inr (Finset.mem_insert_self ..)
      · exact .inl behind
    · exact .inr (Finset.mem_insert_of_mem inKeys)

/-- A record is complete when none of the members to come is required. -/
theorem complete? (pending : Pending shape members keys) (record : ρ) :
    shape.complete? ⟨record, keys⟩ =
      if ∀ m ∈ members, m.required = false then some record else none := by
  have complete : (∀ m ∈ shape.members, m.required → m.key ∈ keys) ↔
      ∀ m ∈ members, m.required = false := by
    constructor
    · intro complete m member
      refine Bool.eq_false_iff.mpr fun required => pending.unread m member ?_
      exact complete m (Shape.mem_of_member? (pending.known m member)).1 required
    · intro free m member required
      refine (pending.others m member).resolve_left fun inList => ?_
      rw [free m inList] at required
      contradiction
  rw [Shape.complete?]
  simp only [complete]

/-- Members in the order of the shape are gathered like others, as long as they are not too many. -/
theorem listed?_eq (pending : Pending shape members keys) (trees : List Tree) (record : ρ) :
    listed? members trees record =
      if trees.length ≤ members.length then
        ((((members.map Member.key).map some).zip trees).foldlM shape.take? ⟨record, keys⟩).bind
          shape.complete?
      else none := by
  induction members generalizing trees record keys with
  | nil =>
    cases trees with
    | nil => exact (pending.complete? record).symm
    | cons tree trees => rfl
  | cons m members ih =>
    cases trees with
    | nil => exact (pending.complete? record).symm
    | cons tree trees =>
      have more := fun change : ρ → ρ => ih pending.next trees (change record)
      rw [listed?, List.map_cons, List.map_cons, List.zip_cons_cons, List.foldlM_cons,
        Shape.take?_known (pending.known m List.mem_cons_self),
        if_neg (pending.unread m List.mem_cons_self)]
      cases made? m.read tree with
      | none => simp
      | some change =>
        rw [Option.bind_some, more change]
        simp

end Pending

theorem Shape.Local.listRecord {shape : Shape ρ} (localReads : shape.Local)
    (regular : shape.Regular) (items : List (Item Tree)) (last : Blank) (rest : List Char) :
    run? (Reader.listRecord shape) ((Tree.list items last).chars ++ rest) =
      (((Tree.list items last).pairs? shape.keys).bind shape.gather?).map
        fun record => (record, rest) := by
  have read := run?_listMembers shape shape.members localReads 0 items shape.empty .none last rest
  rw [(Pending.start regular).listed?_eq] at read
  rw [Tree.chars_list, Reader.listRecord, run?_bind, List.cons_append, run?_skip, Option.bind_some,
    List.append_assoc, List.append_assoc]
  refine Eq.trans read ?_
  rw [Tree.pairs?, List.length_map, Shape.keys, List.length_map]
  by_cases few : items.length ≤ shape.members.length
  · rw [if_pos few, if_pos few]
    rfl
  · rw [if_neg few, if_neg few]
    rfl

/-- A record is read by gathering its members. -/
theorem Makes.record {shape : Shape ρ} (regular : shape.Regular) (localReads : shape.Local) :
    Makes (Reader.record shape) fun tree => (tree.pairs? shape.keys).bind shape.gather? := by
  refine .valueBy fun tree c opening rest follows => ?_
  cases opening with
  | list items last => exact localReads.listRecord regular items last rest
  | object entries last => exact localReads.objectRecord entries last rest
  | number text first =>
    rw [if_neg (ne_of_number_first first (by decide)),
      if_neg (ne_of_number_first first (by decide))]
    rfl
  | _ => rfl

end CollectionTypes.Json
