import Mathlib.Data.List.Basic

/-!
# First failures

A computation that either fails or gives its result is described here by both at once: the failure,
if there is one, and the value that there is otherwise. Over a list the first failure in order wins,
and without one the values are those of the elements.
-/

namespace CollectionTypes

variable {α β ε : Type}

/-- Fails where a failure is given and has the value otherwise. -/
def settle (failure? : Option ε) (value : α) : Except ε α :=
  match failure? with
  | some failure => .error failure
  | none => .ok value

/-- There is a value where there is no failure. -/
theorem settle_eq_ok_iff (failure? : Option ε) (value result : α) :
    settle failure? value = .ok result ↔ failure? = none ∧ value = result := by
  cases failure? <;> simp [settle]

theorem settle_eq_error_iff (failure? : Option ε) (value : α) (failure : ε) :
    settle failure? value = .error failure ↔ failure? = some failure := by
  cases failure? <;> simp [settle]

/-- What is done with the value leaves the failure as it is. -/
theorem map_settle (f : α → β) (failure? : Option ε) (value : α) :
    f <$> settle failure? value = settle failure? (f value) := by
  cases failure? <;> rfl

theorem mapError_settle {δ : Type} (f : ε → δ) (failure? : Option ε) (value : α) :
    (settle failure? value).mapError f = settle (failure?.map f) value := by
  cases failure? <;> rfl

/-- The elements behind the first failure are not looked at, so their failures have no say. -/
theorem mapM_settle (step : α → Except ε β) (failure? : α → Option ε) (value : α → β)
    (elements : List α) (settled : ∀ a ∈ elements, step a = settle (failure? a) (value a)) :
    elements.mapM step = settle (elements.findSome? failure?) (elements.map value) := by
  induction elements with
  | nil => rfl
  | cons a rest ih =>
    rw [List.mapM_cons, settled a List.mem_cons_self,
      ih fun b member => settled b (List.mem_cons_of_mem a member), List.findSome?_cons,
      List.map_cons]
    cases failure? a with
    | some failure => rfl
    | none => cases rest.findSome? failure? <;> rfl

/-- A search through lists of lists goes through one after the other. -/
theorem findSome?_flatMap (inner : α → List β) (found : β → Option ε) (elements : List α) :
    (elements.flatMap inner).findSome? found =
      elements.findSome? fun a => (inner a).findSome? found := by
  induction elements with
  | nil => rfl
  | cons a rest ih =>
    rw [List.flatMap_cons, List.findSome?_append, ih, List.findSome?_cons]
    cases (inner a).findSome? found <;> rfl

end CollectionTypes
