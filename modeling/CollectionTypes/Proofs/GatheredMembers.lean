import CollectionTypes.Json.Shape
import CollectionTypes.Proofs.TreeReading
import CollectionTypes.Proofs.WrittenRecords
import Mathlib.Data.Finset.Insert
import Mathlib.Data.List.Pairwise

/-!
# Gathered members

A record as it is gathered from keys and trees. The order of the members does not matter when their
changes of the record commute, and members with unknown keys do not matter at all.
-/

namespace CollectionTypes.Json

variable {ρ α β : Type}

/-- A record under construction, with the keys that were read so far in no order. -/
structure Gathered (ρ : Type) where
  record : ρ
  keys : Finset String

namespace Shape

def keys (shape : Shape ρ) : List String :=
  shape.members.map Member.key

def member? (shape : Shape ρ) (key : String) : Option (Member ρ) :=
  shape.members.find? (·.key == key)

/-- Takes up a member, unless its key cannot be read or was there before. -/
def take? (shape : Shape ρ) (soFar : Gathered ρ) (pair : Option String × Tree) :
    Option (Gathered ρ) :=
  pair.1.bind fun key =>
    match shape.member? key with
    | none => some soFar
    | some member =>
        if key ∈ soFar.keys then none
        else (made? member.read pair.2).map fun change =>
          ⟨change soFar.record, insert key soFar.keys⟩

/-- The record, unless a required member is missing. -/
def complete? (shape : Shape ρ) (gathered : Gathered ρ) : Option ρ :=
  if ∀ m ∈ shape.members, m.required → m.key ∈ gathered.keys then some gathered.record else none

theorem complete?_change (shape : Shape ρ) (change : ρ → ρ) (record : ρ) (keys : Finset String) :
    shape.complete? ⟨change record, keys⟩ = (shape.complete? ⟨record, keys⟩).map change := by
  unfold complete?
  split <;> rfl

def gather? (shape : Shape ρ) (pairs : List (Option String × Tree)) : Option ρ :=
  (pairs.foldlM shape.take? ⟨shape.empty, ∅⟩).bind shape.complete?

end Shape

namespace Member

/-- The changes that two members make of a record commute. -/
def Commutes (m n : Member ρ) : Prop :=
  ∀ (s t : Tree) (change other : ρ → ρ), made? m.read s = some change →
    made? n.read t = some other → ∀ record, change (other record) = other (change record)

instance : Std.Symm (@Commutes ρ) where
  symm _ _ commutes s t change other first second record :=
    (commutes t s other change second first record).symm

/-- Of a tree, a member makes the change that sets what its value makes of the tree. -/
theorem made?_map (set : α → ρ → ρ) (value : Reader α) (tree : Tree) :
    made? (set <$> value) tree = (made? value tree).map set := by
  rw [made?, made?, Reader.run?_map, Option.map_map, Option.map_map]
  rfl

theorem Commutes.of_sets {key key' : String} {required required' : Bool} {value : Reader α}
    {value' : Reader β} {set : α → ρ → ρ} {set' : β → ρ → ρ}
    (commute : ∀ a b record, set a (set' b record) = set' b (set a record)) :
    Commutes ⟨key, required, set <$> value⟩ ⟨key', required', set' <$> value'⟩ := by
  intro s t change other first second record
  rw [made?_map] at first second
  obtain ⟨a, -, rfl⟩ := Option.map_eq_some_iff.mp first
  obtain ⟨b, -, rfl⟩ := Option.map_eq_some_iff.mp second
  exact commute a b record

/-- A part of the record that a member leaves as it is. -/
def Keeps (part : ρ → α) (m : Member ρ) : Prop :=
  ∀ (tree : Tree) (change : ρ → ρ), made? m.read tree = some change →
    ∀ record, part (change record) = part record

theorem Keeps.of_set {part : ρ → β} {key : String} {required : Bool} {value : Reader α}
    {set : α → ρ → ρ} (keeps : ∀ a record, part (set a record) = part record) :
    Keeps part ⟨key, required, set <$> value⟩ := by
  intro tree change made record
  rw [made?_map] at made
  obtain ⟨a, -, rfl⟩ := Option.map_eq_some_iff.mp made
  exact keeps a record

end Member

/-- The members of a shape have keys of their own, and each changes its own part of the record. -/
structure Shape.Regular (shape : Shape ρ) : Prop where
  distinct : shape.keys.Nodup
  commute : shape.members.Pairwise Member.Commutes

theorem foldlM_perm {ι σ : Type} {step? : σ → ι → Option σ}
    (commute : ∀ s a b, (step? s a).bind (step? · b) = (step? s b).bind (step? · a))
    {items items' : List ι} (perm : items.Perm items') (s : σ) :
    items.foldlM step? s = items'.foldlM step? s := by
  induction perm generalizing s with
  | nil => rfl
  | cons a _ ih =>
    rw [List.foldlM_cons, List.foldlM_cons]
    exact congrArg _ (funext ih)
  | swap a b items =>
    have swapped := congrArg (Option.bind · fun s => items.foldlM step? s) (commute s b a)
    simpa [List.foldlM_cons, Option.bind_assoc] using swapped
  | trans _ _ ih ih' => exact (ih s).trans (ih' s)

namespace Shape

variable {shape : Shape ρ}

theorem mem_of_member? {key : String} {m : Member ρ} (known : shape.member? key = some m) :
    m ∈ shape.members ∧ m.key = key := by
  unfold member? at known
  have isKey := List.find?_some known
  exact ⟨List.mem_of_find?_eq_some known, eq_of_beq isKey⟩

theorem take?_unreadable (soFar : Gathered ρ) (tree : Tree) :
    shape.take? soFar (none, tree) = none :=
  rfl

theorem take?_unknown {key : String} (unknown : shape.member? key = none) (soFar : Gathered ρ)
    (tree : Tree) : shape.take? soFar (some key, tree) = some soFar := by
  rw [take?, Option.bind_some, unknown]

theorem take?_known {key : String} {m : Member ρ} (known : shape.member? key = some m)
    (soFar : Gathered ρ) (tree : Tree) :
    shape.take? soFar (some key, tree) =
      if key ∈ soFar.keys then none
      else (made? m.read tree).map fun change =>
        ⟨change soFar.record, insert key soFar.keys⟩ := by
  rw [take?, Option.bind_some, known]

theorem take?_repeated {key : String} {m : Member ρ} (known : shape.member? key = some m)
    (soFar : Gathered ρ) (tree tree' : Tree) :
    (shape.take? soFar (some key, tree)).bind (shape.take? · (some key, tree')) = none := by
  rw [take?_known known]
  split
  · rfl
  · cases made? m.read tree with
    | none => rfl
    | some change =>
      rw [Option.map_some, Option.bind_some, take?_known known, if_pos (Finset.mem_insert_self ..)]

/-- Members of different keys whose changes commute are taken up in either order. -/
theorem take?_pair {key key' : String} {m n : Member ρ} (known : shape.member? key = some m)
    (known' : shape.member? key' = some n) (other : key ≠ key') (commutes : m.Commutes n)
    (soFar : Gathered ρ) (tree tree' : Tree) :
    (shape.take? soFar (some key, tree)).bind (shape.take? · (some key', tree')) =
      (shape.take? soFar (some key', tree')).bind (shape.take? · (some key, tree)) := by
  simp only [take?_known known, take?_known known']
  cases made : made? m.read tree with
  | none => cases made? n.read tree' <;> simp
  | some change =>
    cases made' : made? n.read tree' with
    | none => simp
    | some change' =>
      have swap := commutes tree tree' change change' made made' soFar.record
      by_cases read : key ∈ soFar.keys
      · by_cases read' : key' ∈ soFar.keys
        · simp [read, read']
        · simp [read, read']
      · by_cases read' : key' ∈ soFar.keys
        · simp [read, read']
        · simp [read, read', other, other.symm, swap, Finset.insert_comm]

namespace Regular

theorem commutes (regular : shape.Regular) {m n : Member ρ} (left : m ∈ shape.members)
    (right : n ∈ shape.members) (other : m ≠ n) : m.Commutes n :=
  regular.commute.forall left right other

/-- Two members are taken up in either order. -/
theorem take?_comm (regular : shape.Regular) (soFar : Gathered ρ) (a b : Option String × Tree) :
    (shape.take? soFar a).bind (shape.take? · b) =
      (shape.take? soFar b).bind (shape.take? · a) := by
  obtain ⟨key?, tree⟩ := a
  obtain ⟨key'?, tree'⟩ := b
  cases key? with
  | none => simp [take?_unreadable]
  | some key =>
    cases key'? with
    | none => simp [take?_unreadable]
    | some key' =>
      cases known : shape.member? key with
      | none => simp [take?_unknown known]
      | some m =>
        cases known' : shape.member? key' with
        | none => simp [take?_unknown known']
        | some n =>
          by_cases same : key = key'
          · subst same
            rw [take?_repeated known, take?_repeated known]
          · obtain ⟨member, isKey⟩ := mem_of_member? known
            obtain ⟨member', isKey'⟩ := mem_of_member? known'
            have commutes := regular.commutes member member' fun equal =>
              same (isKey ▸ isKey' ▸ congrArg Member.key equal)
            exact take?_pair known known' same commutes soFar tree tree'

theorem gather?_perm (regular : shape.Regular) {pairs pairs' : List (Option String × Tree)}
    (perm : pairs.Perm pairs') : shape.gather? pairs = shape.gather? pairs' := by
  rw [gather?, foldlM_perm regular.take?_comm perm, gather?]

end Regular

/-- A member with a readable key that the shape does not have makes no difference. -/
theorem gather?_unknown {shape : Shape ρ} {key : String} (unknown : key ∉ shape.keys) (tree : Tree)
    (before behind : List (Option String × Tree)) :
    shape.gather? (before ++ (some key, tree) :: behind) = shape.gather? (before ++ behind) := by
  have missing : shape.member? key = none := by
    rw [member?, List.find?_eq_none]
    intro m member isKey
    exact unknown (eq_of_beq isKey ▸ List.mem_map_of_mem member)
  rw [gather?, gather?, List.foldlM_append, List.foldlM_append]
  simp only [List.foldlM_cons, take?_unknown missing]
  rfl

section Absent

variable {shape : Shape ρ} {key : String} {part : ρ → α}
  (keeps : ∀ m ∈ shape.members, m.key = key ∨ m.Keeps part)

include keeps

theorem take?_keeps {soFar next : Gathered ρ} {pair : Option String × Tree}
    (other : pair.1 ≠ some key) (taken : shape.take? soFar pair = some next) :
    part next.record = part soFar.record := by
  obtain ⟨key'?, tree⟩ := pair
  cases key'? with
  | none => contradiction
  | some key' =>
    cases known : shape.member? key' with
    | none =>
      rw [take?_unknown known] at taken
      rw [Option.some.inj taken]
    | some m =>
      rw [take?_known known] at taken
      split at taken
      · contradiction
      · obtain ⟨change, made, rfl⟩ := Option.map_eq_some_iff.mp taken
        obtain ⟨member, isKey⟩ := mem_of_member? known
        rcases keeps m member with same | kept
        · exact absurd (congrArg some (isKey.symm.trans same)) other
        · exact kept tree change made soFar.record

theorem foldlM_take?_keeps {pairs : List (Option String × Tree)}
    (absent : ∀ tree, (some key, tree) ∉ pairs) {soFar last : Gathered ρ}
    (taken : pairs.foldlM shape.take? soFar = some last) : part last.record = part soFar.record := by
  induction pairs generalizing soFar with
  | nil => rw [Option.some.inj taken]
  | cons pair pairs ih =>
    rw [List.foldlM_cons] at taken
    obtain ⟨next, first, rest⟩ := Option.bind_eq_some_iff.mp taken
    have other : pair.1 ≠ some key := by
      intro same
      exact absent pair.2 (same ▸ List.mem_cons_self)
    rw [ih (fun tree member => absent tree (List.mem_cons_of_mem pair member)) rest,
      take?_keeps keeps other first]

/-- Without a member of the key, what it alone sets is as in the empty record. -/
theorem gather?_absent {pairs : List (Option String × Tree)}
    (absent : ∀ tree, (some key, tree) ∉ pairs) {record : ρ}
    (gathered : shape.gather? pairs = some record) : part record = part shape.empty := by
  obtain ⟨last, taken, completed⟩ := Option.bind_eq_some_iff.mp gathered
  have whole : last.record = record := by
    rw [complete?] at completed
    split at completed
    · exact Option.some.inj completed
    · contradiction
  rw [← whole, foldlM_take?_keeps keeps absent taken]

end Absent

/-- The value of one member comes in as the last change of a record that does not depend on it. -/
theorem Regular.gather?_member {shape : Shape ρ} (regular : shape.Regular) {m : Member ρ}
    (member : m ∈ shape.members) (before behind : List (Option String × Tree)) :
    ∃ others? : Option ρ, ∀ tree, shape.gather? (before ++ (some m.key, tree) :: behind) =
      others?.bind fun others => (made? m.read tree).map fun change => change others := by
  have known : shape.member? m.key = some m := find?_key regular.distinct member
  refine ⟨((before ++ behind).foldlM shape.take? ⟨shape.empty, ∅⟩).bind fun soFar =>
    if m.key ∈ soFar.keys then none
    else shape.complete? ⟨soFar.record, insert m.key soFar.keys⟩, fun tree => ?_⟩
  have last : (before ++ (some m.key, tree) :: behind).Perm
      ((before ++ behind) ++ [(some m.key, tree)]) :=
    List.perm_middle.trans (List.perm_append_singleton _ _).symm
  rw [regular.gather?_perm last, gather?, List.foldlM_append]
  cases (before ++ behind).foldlM shape.take? ⟨shape.empty, ∅⟩ with
  | none => rfl
  | some soFar =>
    simp only [take?_known known, List.foldlM_cons, List.foldlM_nil, Option.bind_eq_bind,
      Option.bind_some, Option.pure_def, Option.bind_fun_some]
    split
    · rfl
    · cases made? m.read tree with
      | none => simp
      | some change =>
        rw [Option.map_some, Option.bind_some, shape.complete?_change]
        cases shape.complete? ⟨soFar.record, insert m.key soFar.keys⟩ <;> rfl

end Shape

end CollectionTypes.Json
