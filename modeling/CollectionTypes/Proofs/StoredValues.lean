import CollectionTypes.Json.AnyValue
import CollectionTypes.Proofs.ReadBack

/-!
# Stored values

The values of any shape that are read back as they were. Their numbers are integers, since the text
of another number is not exact, and their objects keep the order in which members are put.
-/

namespace CollectionTypes.Json

/-- Each key of an object stands before the keys behind it, so none stands twice. -/
def KeysAscend (members : List (String × Value)) : Prop :=
  members.Pairwise fun a b => Text.atOrBefore b.1 a.1 = false

instance (members : List (String × Value)) : Decidable (KeysAscend members) :=
  inferInstanceAs (Decidable (List.Pairwise _ members))

/-- A member whose key stands behind all others is put last. -/
theorem putMember_last {members : List (String × Value)} {key : String} {v : Value}
    (last : ∀ m ∈ members, Text.atOrBefore key m.1 = false) :
    putMember key v members = members ++ [(key, v)] := by
  induction members with
  | nil => rfl
  | cons m members ih =>
    have behind := last m List.mem_cons_self
    have other : m.1 ≠ key := by
      intro same
      rw [same, Text.atOrBefore_refl] at behind
      contradiction
    rw [putMember, if_neg other, if_neg (by rw [behind]; decide),
      ih fun n member => last n (List.mem_cons_of_mem m member), List.cons_append]

namespace Value

mutual

/-- How deep brackets are nested in a value. -/
def depth : Value → Nat
  | .list elements => depthOfElements elements + 1
  | .object members => depthOfMembers members + 1
  | _ => 0

def depthOfElements : List Value → Nat
  | [] => 0
  | v :: rest => max (depth v) (depthOfElements rest)

def depthOfMembers : List (String × Value) → Nat
  | [] => 0
  | (_, v) :: rest => max (depth v) (depthOfMembers rest)

end

theorem depth_le_depthOfElements {v : Value} {elements : List Value} (member : v ∈ elements) :
    v.depth ≤ depthOfElements elements := by
  induction elements with
  | nil => contradiction
  | cons first rest ih =>
    rw [depthOfElements]
    rcases List.mem_cons.mp member with rfl | behind
    · exact Nat.le_max_left _ _
    · exact Nat.le_trans (ih behind) (Nat.le_max_right _ _)

theorem depth_le_depthOfMembers {m : String × Value} {members : List (String × Value)}
    (member : m ∈ members) : m.2.depth ≤ depthOfMembers members := by
  induction members with
  | nil => contradiction
  | cons first rest ih =>
    rw [depthOfMembers]
    rcases List.mem_cons.mp member with rfl | behind
    · exact Nat.le_max_left _ _
    · exact Nat.le_trans (ih behind) (Nat.le_max_right _ _)

/-- Values that a document can hold and that are read back as they are. -/
inductive Stored : Value → Prop
  | null : Stored .null
  | bool (b : Bool) : Stored (.bool b)
  | integer {n : Int} (fits : IsInteger64 n) : Stored (.number (.integer n))
  | text (s : String) : Stored (.text s)
  | list {elements : List Value} (each : ∀ v ∈ elements, Stored v) : Stored (.list elements)
  | object {members : List (String × Value)} (ascend : KeysAscend members)
      (each : ∀ m ∈ members, Stored m.2) : Stored (.object members)

end Value

namespace Reads

open Reader

theorem valueWith_null (container : Char → Reader Value) :
    Reads (valueWith container) .null .null := by
  refine ⟨opens_null, fun rest _ => ?_⟩
  change valueWith container ('n' :: ("ull".toList ++ rest)) = _
  rw [valueWith, bind_apply (nextSolid?_cons (by decide) _)]
  simp only [if_true]
  rw [bind_apply (keyword_cons 'n' "ull" rest), pure_apply]

theorem valueWith_bool (container : Char → Reader Value) (b : Bool) :
    Reads (valueWith container) (.bool b) (.bool b) := by
  refine ⟨opens_bool b, fun rest _ => ?_⟩
  cases b with
  | false =>
    change valueWith container ('f' :: ("alse".toList ++ rest)) = _
    rw [valueWith, bind_apply (nextSolid?_cons (by decide) _)]
    simp only [Char.reduceEq, if_false, if_true]
    rw [bind_apply (keyword_cons 'f' "alse" rest), pure_apply]
  | true =>
    change valueWith container ('t' :: ("rue".toList ++ rest)) = _
    rw [valueWith, bind_apply (nextSolid?_cons (by decide) _)]
    simp only [Char.reduceEq, if_false, if_true]
    rw [bind_apply (keyword_cons 't' "rue" rest), pure_apply]

theorem valueWith_integer (container : Char → Reader Value) {n : Int} (fits : IsInteger64 n) :
    Reads (valueWith container) (.number (.integer n)) (.number (.integer n)) := by
  refine ⟨opens_integer n, fun rest ends => ?_⟩
  obtain ⟨c, more, shape, first⟩ := integer_first n
  obtain ⟨solid, -, notN, notT, notF⟩ := number_first first
  have read := map_apply (number_compact fits ends) Value.number
  rw [Value.compact] at shape ⊢
  rw [shape, List.cons_append] at read ⊢
  rw [valueWith, bind_apply (nextSolid?_cons solid _)]
  simp only [if_neg notN, if_neg notT, if_neg notF, if_pos first]
  exact read

theorem valueWith_text (container : Char → Reader Value) (s : String) :
    Reads (valueWith container) (.text s) (.text s) := by
  refine ⟨opens_text s, fun rest _ => ?_⟩
  have read := map_apply (text_quoted s rest) Value.text
  have shape := toList_compact_text s
  rw [Value.compact] at shape ⊢
  rw [shape, List.cons_append] at read ⊢
  rw [valueWith, bind_apply (nextSolid?_cons (by decide) _)]
  simpa [Char.isDigit] using read

/-- A list or an object is left to the reader of its brackets. -/
theorem valueWith_container {container : Char → Reader Value} {bracket : Char}
    (opening : bracket = '[' ∨ bracket = '\x7b') (unread : List Char) :
    valueWith container (bracket :: unread) = container bracket (bracket :: unread) := by
  rcases opening with rfl | rfl
  · rw [valueWith, bind_apply (nextSolid?_cons (by decide) _)]
    rfl
  · rw [valueWith, bind_apply (nextSolid?_cons (by decide) _)]
    rfl

/-- A list is read back with one level less for its elements. -/
theorem anyValue_list {depth : Nat} {elements : List Value}
    (each : ∀ v ∈ elements, Reads (anyValue depth) v v) :
    Reads (anyValue (depth + 1)) (.list elements) (.list elements) := by
  refine ⟨opens_list elements, fun rest _ => ?_⟩
  have elementsRead :
      list (anyValue depth) ((Value.list (elements.map id)).compact.toList ++ rest) =
        .ok (elements, rest) :=
    list_elements elements each rest
  have read := map_apply elementsRead Value.list
  rw [List.map_id, toList_compact_list, List.cons_append] at read
  rw [toList_compact_list, List.cons_append, anyValue, valueWith_container (.inl rfl), if_pos rfl,
    read]

theorem gathers_members {depth : Nat} {members : List (String × Value)}
    (each : ∀ m ∈ members, Reads (anyValue depth) m.2 m.2) (read : List (String × Value))
    (ascend : KeysAscend (read ++ members)) :
    Gathers (putMemberValue (anyValue depth)) members read (read ++ members) := by
  induction members generalizing read with
  | nil => rw [List.append_nil]; exact .nil read
  | cons m members ih =>
    have last : ∀ n ∈ read, Text.atOrBefore m.1 n.1 = false := by
      intro n inRead
      exact (List.pairwise_append.mp ascend).2.2 n inRead m List.mem_cons_self
    have more := ih (fun n member => each n (List.mem_cons_of_mem m member)) (read ++ [m])
      (by rwa [List.append_assoc, List.singleton_append])
    rw [List.append_assoc, List.singleton_append] at more
    refine .cons (fun rest ends => ?_) more
    rw [putMemberValue, bind_apply (Gathers.colon_cons _),
      bind_apply ((each m List.mem_cons_self).reads rest ends), pure_apply, putMember_last last]

/-- Keys that ascend are found in their places. -/
theorem anyValue_object {depth : Nat} {members : List (String × Value)}
    (ascend : KeysAscend members) (each : ∀ m ∈ members, Reads (anyValue depth) m.2 m.2) :
    Reads (anyValue (depth + 1)) (.object members) (.object members) := by
  refine ⟨opens_object members, fun rest _ => ?_⟩
  have notList : '\x7b' ≠ '[' := by decide
  have read := map_apply ((gathers_members each [] ascend).object rest) Value.object
  rw [toList_compact_object, List.cons_append] at read ⊢
  rw [anyValue, valueWith_container (.inr rfl), if_neg notList]
  exact read

/-- A value that is read without regard to brackets is read at any depth. -/
theorem anyValue_scalar {v a : Value} (read : ∀ container, Reads (valueWith container) v a)
    (depth : Nat) : Reads (anyValue depth) v a := by
  cases depth with
  | zero => exact read _
  | succ depth => exact read _

/-- A stored value is read back where its brackets are not nested too deep. -/
theorem anyValue_stored {v : Value} (stored : v.Stored) {depth : Nat} (shallow : v.depth ≤ depth) :
    Reads (anyValue depth) v v := by
  induction stored generalizing depth with
  | null => exact anyValue_scalar valueWith_null depth
  | bool b => exact anyValue_scalar (valueWith_bool · b) depth
  | integer fits => exact anyValue_scalar (valueWith_integer · fits) depth
  | text s => exact anyValue_scalar (valueWith_text · s) depth
  | list _ ih =>
    rw [Value.depth] at shallow
    obtain ⟨inner, rfl⟩ : ∃ inner, depth = inner + 1 := ⟨depth - 1, by omega⟩
    refine anyValue_list fun v member => ih v member ?_
    exact Nat.le_trans (Value.depth_le_depthOfElements member) (Nat.le_of_succ_le_succ shallow)
  | object ascend _ ih =>
    rw [Value.depth] at shallow
    obtain ⟨inner, rfl⟩ : ∃ inner, depth = inner + 1 := ⟨depth - 1, by omega⟩
    refine anyValue_object ascend fun m member => ih m member ?_
    exact Nat.le_trans (Value.depth_le_depthOfMembers member) (Nat.le_of_succ_le_succ shallow)

end Reads

end CollectionTypes.Json
