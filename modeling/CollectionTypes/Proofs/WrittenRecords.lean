import CollectionTypes.Json.Shape
import CollectionTypes.Proofs.ReadBack

/-!
# Written records

A record that is written with all members of its shape is read back: each key is found, none was
there before, and in the end none is missing.
-/

namespace CollectionTypes.Json

variable {ρ α : Type}

/-- The members of a shape as they are written, and the record that their changes make of
another. -/
inductive Writes : List (Member ρ) → List (String × Value) → ρ → ρ → Prop
  | nil (record : ρ) : Writes [] [] record record
  | cons {member : Member ρ} {members : List (Member ρ)} {v : Value}
      {values : List (String × Value)} {change : ρ → ρ} {record result : ρ}
      (reads : Reads member.read v change) (more : Writes members values (change record) result) :
      Writes (member :: members) ((member.key, v) :: values) record result

theorem find?_key {members : List (Member ρ)} (distinct : (members.map Member.key).Nodup)
    {m : Member ρ} (member : m ∈ members) : members.find? (·.key == m.key) = some m := by
  induction members with
  | nil => contradiction
  | cons first members ih =>
    rw [List.map_cons, List.nodup_cons] at distinct
    rcases List.mem_cons.mp member with rfl | behind
    · exact List.find?_cons_of_pos (beq_self_eq_true m.key)
    · have other : first.key ≠ m.key :=
        fun same => distinct.1 (same ▸ List.mem_map_of_mem behind)
      rw [List.find?_cons_of_neg (by simpa using other)]
      exact ih distinct.2 behind

namespace Writes

open Reader

/-- Members of different keys are taken up one after the other. -/
theorem gathers {shape : Shape ρ} {members : List (Member ρ)} {values : List (String × Value)}
    {record result : ρ} (writes : Writes members values record result)
    (known : ∀ m ∈ members, shape.members.find? (·.key == m.key) = some m)
    (distinct : (members.map Member.key).Nodup) (keys : List String)
    (unread : ∀ m ∈ members, m.key ∉ keys) :
    Gathers (knownMember shape) values ⟨record, keys⟩
      ⟨result, (members.map Member.key).reverse ++ keys⟩ := by
  induction writes generalizing keys with
  | nil record => exact .nil _
  | @cons member members v values change record result reads _ ih =>
    rw [List.map_cons, List.nodup_cons] at distinct
    have more := ih (fun m inRest => known m (List.mem_cons_of_mem member inRest)) distinct.2
      (member.key :: keys) (by
        intro m inRest inKeys
        rcases List.mem_cons.mp inKeys with same | inKeys
        · exact distinct.1 (same ▸ List.mem_map_of_mem inRest)
        · exact unread m (List.mem_cons_of_mem member inRest) inKeys)
    rw [List.map_cons, List.reverse_cons, List.append_assoc, List.singleton_append]
    refine .cons (fun rest ends => ?_) more
    have new : ¬keys.contains member.key = true := by
      rw [List.contains_iff_mem]
      exact unread member List.mem_cons_self
    rw [knownMember, known member List.mem_cons_self]
    simp only [if_neg new]
    rw [bind_apply (Gathers.colon_cons _), bind_apply (reads.reads rest ends), pure_apply]

theorem objectRecord {shape : Shape ρ} {values : List (String × Value)} {result : ρ}
    (writes : Writes shape.members values shape.empty result)
    (distinct : (shape.members.map Member.key).Nodup) (rest : List Char) :
    Reader.objectRecord shape ((Value.object values).compact.toList ++ rest) =
      .ok (result, rest) := by
  have gathered := writes.gathers (fun m member => find?_key distinct member) distinct []
    (fun m _ => List.not_mem_nil)
  have complete : shape.members.find? (fun member => member.required &&
      !((shape.members.map Member.key).reverse ++ []).contains member.key) = none := by
    rw [List.find?_eq_none]
    intro m member missing
    have read : m.key ∈ (shape.members.map Member.key).reverse ++ [] :=
      List.mem_append_left _ (List.mem_reverse.mpr (List.mem_map_of_mem member))
    rw [List.contains_iff_mem.mpr read, Bool.not_true, Bool.and_false] at missing
    contradiction
  rw [Reader.objectRecord, bind_apply (gathered.object rest)]
  simp only [complete, pure_apply]

end Writes

namespace Reads

open Reader

theorem record {shape : Shape ρ} {values : List (String × Value)} {result : ρ}
    (writes : Writes shape.members values shape.empty result)
    (distinct : (shape.members.map Member.key).Nodup) :
    Reads (Reader.record shape) (.object values) result := by
  refine ⟨opens_object values, fun rest _ => ?_⟩
  have read := writes.objectRecord distinct rest
  rw [toList_compact_object, List.cons_append] at read ⊢
  rw [Reader.record, valueBy_cons (by decide) rfl, read]

end Reads

end CollectionTypes.Json
