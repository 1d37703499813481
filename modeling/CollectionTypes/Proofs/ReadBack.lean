import CollectionTypes.Json.AnyValue
import CollectionTypes.Proofs.ValueTexts

/-!
# Values that are read back

Which reader makes what of the text of a value. The statements hold whatever stands behind the value
in a document, so those on lists and objects follow from those on their parts.
-/

namespace CollectionTypes.Json

variable {α β σ : Type}

/-- A reader makes `a` of the text of `v` and leaves what stands behind it. -/
structure Reads (reader : Reader α) (v : Value) (a : α) : Prop where
  opens : Opens v
  reads : ∀ rest, Ends rest → reader (v.compact.toList ++ rest) = .ok (a, rest)

namespace Reads

open Reader

theorem map {reader : Reader α} {v : Value} {a : α} (read : Reads reader v a) (f : α → β) :
    Reads (f <$> reader) v (f a) :=
  ⟨read.opens, fun rest ends => map_apply (read.reads rest ends) f⟩

/-- A text is read back, with the escapes that it was written with undone. -/
theorem textValue (s : String) : Reads Reader.textValue (.text s) s := by
  refine ⟨opens_text s, fun rest _ => ?_⟩
  have read := text_quoted s rest
  have shape := toList_compact_text s
  rw [Value.compact] at shape ⊢
  rw [shape, List.cons_append] at read ⊢
  rw [Reader.textValue, valueBy_cons (by decide) (if_pos rfl), read]

/-- Both truth values are read back from their keywords. -/
theorem boolValue (b : Bool) : Reads Reader.boolValue (.bool b) b := by
  refine ⟨opens_bool b, fun rest _ => ?_⟩
  cases b with
  | false =>
    change Reader.boolValue ('f' :: ("alse".toList ++ rest)) = _
    rw [Reader.boolValue, valueBy_cons (by decide) rfl, bind_apply (keyword_cons 'f' "alse" rest),
      pure_apply]
  | true =>
    change Reader.boolValue ('t' :: ("rue".toList ++ rest)) = _
    rw [Reader.boolValue, valueBy_cons (by decide) rfl, bind_apply (keyword_cons 't' "rue" rest),
      pure_apply]

/-- A whole number is read as the nearest number of the binary format. -/
theorem doubleValue {n : Int} (fits : IsInteger64 n) :
    Reads Reader.doubleValue (.number (.integer n)) (Number.integer n).toBinary64 := by
  refine ⟨opens_integer n, fun rest ends => ?_⟩
  obtain ⟨c, more, shape, first⟩ := integer_first n
  have read := map_apply (number_compact fits ends) Number.toBinary64
  rw [Value.compact] at shape ⊢
  rw [shape, List.cons_append] at read ⊢
  rw [Reader.doubleValue, valueBy_cons (number_first first).1 (if_pos first), read]

/-- A `null` is read as no value. -/
theorem optional_null (reader : Reader α) : Reads (Reader.optional reader) .null none := by
  refine ⟨opens_null, fun rest _ => ?_⟩
  change Reader.optional reader ('n' :: ("ull".toList ++ rest)) = _
  rw [Reader.optional, bind_apply (nextSolid?_cons (by decide) _)]
  simp only
  rw [bind_apply (keyword_cons 'n' "ull" rest), pure_apply]

/-- Any other value is read as one that has to be there. -/
theorem optional_some {reader : Reader α} {v : Value} {a : α} (read : Reads reader v a)
    (notNull : v ≠ .null) : Reads (Reader.optional reader) v (some a) := by
  refine ⟨read.opens, fun rest ends => ?_⟩
  obtain ⟨c, more, shape, solid, -, null⟩ := read.opens
  have notN : c ≠ 'n' := fun isN => notNull (null isN)
  have present := map_apply (read.reads rest ends) some
  rw [shape, List.cons_append] at present ⊢
  rw [Reader.optional, bind_apply (nextSolid?_cons solid _)]
  simp [notN, present]

/-- A closing bracket ends the list. -/
theorem elementTurn_end (reader : Reader α) (read : List α) (rest : List Char) :
    elementTurn reader read (']' :: rest) = .ok (.done read.reverse, rest) := by
  have noElement : element? read.isEmpty (']' :: rest) = .ok (false, ']' :: rest) := by
    rw [element?, bind_apply (nextSolid?_cons (by decide) rest)]
    rfl
  rw [elementTurn, bind_apply noElement]
  rfl

theorem element?_opens {v : Value} (opens : Opens v) (first : Bool) (behind : List Char) :
    element? first (separator first ++ (v.compact.toList ++ behind)) =
      .ok (true, v.compact.toList ++ behind) := by
  obtain ⟨c, more, shape, solid, notEnd, -⟩ := opens
  rw [shape, List.cons_append]
  cases first with
  | true =>
    change element? true (c :: (more ++ behind)) = _
    rw [element?, bind_apply (nextSolid?_cons solid _)]
    simp only [if_neg notEnd, if_true, pure_apply]
  | false =>
    have notClosed : ',' ≠ ']' := by decide
    change element? false (',' :: c :: (more ++ behind)) = _
    rw [element?, bind_apply (nextSolid?_cons (by decide) _)]
    simp only [if_neg notClosed, Bool.false_eq_true, if_false, if_true]
    rw [bind_apply (skip_cons ',' _), bind_apply (nextSolid?_cons solid _)]
    simp only [if_neg notEnd, pure_apply]

/-- One turn reads one element with the comma before it. -/
theorem elementTurn_again {reader : Reader α} {v : Value} {a : α} (reads : Reads reader v a)
    (read : List α) {behind : List Char} (ends : Ends behind) :
    elementTurn reader read (separator read.isEmpty ++ (v.compact.toList ++ behind)) =
      .ok (.again (a :: read), behind) := by
  rw [elementTurn, bind_apply (element?_opens reads.opens read.isEmpty behind), if_pos rfl,
    bind_apply (reads.reads behind ends), pure_apply]

/-- A list is read turn by turn, one element in each. -/
theorem turns_elements {reader : Reader α} {encode : α → Value} (elements : List α)
    (each : ∀ a ∈ elements, Reads reader (encode a) a) (read : List α) (rest : List Char) :
    Turns (elementTurn reader) read
      (separated Value.compact read.isEmpty (elements.map encode) ++ ']' :: rest)
      (read.reverse ++ elements) rest := by
  induction elements generalizing read with
  | nil =>
    rw [List.append_nil]
    exact .done (elementTurn_end reader read rest)
  | cons a elements ih =>
    have reads := each a List.mem_cons_self
    have ends := ends_separated Value.compact (elements.map encode) (.list rest)
    have one := elementTurn_again reads read ends
    have more := ih (fun b member => each b (List.mem_cons_of_mem a member)) (a :: read)
    rw [List.reverse_cons, List.append_assoc, List.singleton_append] at more
    have nonempty := reads.opens.length_pos
    rw [List.map_cons, separated, List.append_assoc, List.append_assoc]
    exact .again one (by simp only [List.length_append]; omega) more

theorem list_elements {reader : Reader α} {encode : α → Value} (elements : List α)
    (each : ∀ a ∈ elements, Reads reader (encode a) a) (rest : List Char) :
    Reader.list reader ((Value.list (elements.map encode)).compact.toList ++ rest) =
      .ok (elements, rest) := by
  have read := repeated_of_turns (turns_elements elements each [] rest)
  rw [toList_compact_list, List.cons_append, List.append_assoc, Reader.list,
    bind_apply (skip_cons '[' _)]
  exact read

/-- A list is read back where each of its elements is. -/
theorem listValue {reader : Reader α} {encode : α → Value} (elements : List α)
    (each : ∀ a ∈ elements, Reads reader (encode a) a) :
    Reads (Reader.listValue reader) (.list (elements.map encode)) elements := by
  refine ⟨opens_list _, fun rest _ => ?_⟩
  have read := list_elements elements each rest
  rw [toList_compact_list, List.cons_append] at read ⊢
  rw [Reader.listValue, valueBy_cons (by decide) (if_pos rfl), read]

end Reads

/-- The members of an object, read one after the other behind their keys, lead from a state to a
result. -/
inductive Gathers (member : σ → String → Reader σ) : List (String × Value) → σ → σ → Prop
  | nil (state : σ) : Gathers member [] state state
  | cons {key : String} {v : Value} {members : List (String × Value)} {state next result : σ}
      (one : ∀ rest, Ends rest →
        member state key (':' :: (v.compact.toList ++ rest)) = .ok (next, rest))
      (more : Gathers member members next result) :
      Gathers member ((key, v) :: members) state result

namespace Gathers

open Reader

theorem colon_cons (rest : List Char) : colon (':' :: rest) = .ok ((), rest) := by
  rw [colon, bind_apply (nextSolid?_cons (by decide) rest)]
  rfl

/-- A member is its key, a colon and its value. -/
theorem memberText_append (key : String) (v : Value) (behind : List Char) :
    (memberText (key, v)).toList ++ behind =
      (quoted key).toList ++ ':' :: (v.compact.toList ++ behind) := by
  rw [memberText, String.toList_append, String.toList_append, List.append_assoc, List.append_assoc]
  rfl

theorem key?_quoted (first : Bool) (key : String) (behind : List Char) :
    key? first (separator first ++ ((quoted key).toList ++ behind)) =
      .ok (true, (quoted key).toList ++ behind) := by
  have notClosed : '"' ≠ '\x7d' := by decide
  have comma : ',' ≠ '\x7d' := by decide
  rw [quoted, String.toList_ofList, List.cons_append, List.cons_append]
  cases first with
  | true =>
    change key? true ('"' :: _) = _
    rw [key?, bind_apply (nextSolid?_cons (by decide) _)]
    simp only [if_neg notClosed, if_true, pure_apply]
  | false =>
    change key? false (',' :: '"' :: _) = _
    rw [key?, bind_apply (nextSolid?_cons (by decide) _)]
    simp only [if_neg comma, Bool.false_eq_true, if_false, if_true]
    rw [bind_apply (skip_cons ',' _), bind_apply (nextSolid?_cons (by decide) _)]
    simp only [if_true, pure_apply]

theorem memberTurn_end (member : σ → String → Reader σ) (first : Bool) (state : σ)
    (rest : List Char) :
    memberTurn member (first, state) ('\x7d' :: rest) = .ok (.done state, rest) := by
  have noKey : key? first ('\x7d' :: rest) = .ok (false, '\x7d' :: rest) := by
    rw [key?, bind_apply (nextSolid?_cons (by decide) rest)]
    rfl
  rw [memberTurn, bind_apply noKey]
  rfl

/-- One turn reads one member with the comma before it. -/
theorem memberTurn_again {member : σ → String → Reader σ} {key : String} {v : Value}
    {state next : σ} {behind : List Char} (first : Bool)
    (one : member state key (':' :: (v.compact.toList ++ behind)) = .ok (next, behind)) :
    memberTurn member (first, state)
      (separator first ++ ((memberText (key, v)).toList ++ behind)) =
      .ok (.again (false, next), behind) := by
  rw [memberText_append, memberTurn, bind_apply (key?_quoted first key _), if_pos rfl,
    bind_apply (text_quoted key _), bind_apply one, pure_apply]

theorem turns {member : σ → String → Reader σ} {members : List (String × Value)}
    {state result : σ} (gathers : Gathers member members state result) (first : Bool)
    (rest : List Char) :
    Turns (memberTurn member) (first, state) (separated memberText first members ++ '\x7d' :: rest)
      result rest := by
  induction gathers generalizing first with
  | nil state => exact .done (memberTurn_end member first state rest)
  | @cons key v members _ _ _ one _ ih =>
    have ends := ends_separated memberText members (.object rest)
    rw [separated, List.append_assoc, List.append_assoc]
    refine .again (memberTurn_again first (one _ ends)) ?_ (ih false)
    rw [memberText_append]
    simp only [List.length_append, List.length_cons]
    omega

/-- An object is read back by gathering its members from left to right. -/
theorem object {member : σ → String → Reader σ} {members : List (String × Value)}
    {empty result : σ} (gathers : Gathers member members empty result) (rest : List Char) :
    Reader.object member empty ((Value.object members).compact.toList ++ rest) =
      .ok (result, rest) := by
  have read := repeated_of_turns (gathers.turns true rest)
  rw [toList_compact_object, List.cons_append, List.append_assoc, Reader.object,
    bind_apply (skip_cons '\x7b' _)]
  exact read

end Gathers

end CollectionTypes.Json
