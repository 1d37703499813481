import CollectionTypes.Proofs.NameCharacters

/-!
# Parameters read back

The name of a type parameter tells the field that it is for. `$` opens an escape and ends it, digits
stand between, and no digits stand for `$` itself; so one pass from left to right, which knows only
whether an escape was begun, undoes the escapes. Different fields have different parameters,
whatever their names hold.

Specification: section 4.2 (the escape of parameter names is injective).
-/

namespace CollectionTypes.TypeScript

/-- Each digit at the place of its value. -/
def hexDigits : List Char :=
  "0123456789abcdef".toList

def hexNumber (digits : List Char) : Nat :=
  digits.foldl (fun n digit => 16 * n + hexDigits.idxOf digit) 0

/-- The character that an escape with these digits stands for. -/
def escapedChar (digits : List Char) : Char :=
  if digits.isEmpty then '$' else Char.ofNat (hexNumber digits)

/-- Undoes the escapes of a text. The digits are those of an escape that was begun, if one was; the
end of the text must not come within one. -/
def unescape? : Option (List Char) → List Char → Option (List Char)
  | none, [] => some []
  | some _, [] => none
  | none, c :: rest =>
      if c = '$' then unescape? (some []) rest else (unescape? none rest).map (c :: ·)
  | some digits, c :: rest =>
      if c = '$' then (unescape? none rest).map (escapedChar digits :: ·)
      else unescape? (some (digits ++ [c])) rest

/-- The field that a parameter is for. -/
def fieldOfParameter? (parameter : String) : Option String :=
  match parameter.toList with
  | 'T' :: escaped => (unescape? none escaped).map String.ofList
  | _ => none

theorem hexNumber_toDigits (n : Nat) : hexNumber (Nat.toDigits 16 n) = n := by
  have one : ∀ d < 16, hexDigits.idxOf (Nat.digitChar d) = d := by decide
  induction n using Nat.base_induction 16 (by decide) with
  | single d small =>
    rw [Nat.toDigits_of_lt_base small, hexNumber, List.foldl_cons, List.foldl_nil, one d small]
    omega
  | digit m d small positive ih =>
    rw [hexNumber] at ih
    rw [← Nat.toDigits_append_toDigits (by decide) positive small, hexNumber, List.foldl_append, ih,
      Nat.toDigits_of_lt_base small, List.foldl_cons, List.foldl_nil, one d small]

theorem escapedChar_toDigits (c : Char) : escapedChar (Nat.toDigits 16 c.toNat) = c := by
  have some : (Nat.toDigits 16 c.toNat).isEmpty = false := by
    rw [List.isEmpty_eq_false_iff]
    exact Nat.toDigits_ne_nil
  rw [escapedChar, some, if_neg Bool.false_ne_true, hexNumber_toDigits, Char.ofNat_toNat]

/-- Up to the next `$` the characters are digits of the escape that was begun. -/
theorem unescape?_digits (read more rest : List Char) (within : '$' ∉ more) :
    unescape? (some read) (more ++ '$' :: rest) =
      (unescape? none rest).map (escapedChar (read ++ more) :: ·) := by
  induction more generalizing read with
  | nil => rw [List.nil_append, List.append_nil, unescape?, if_pos rfl]
  | cons digit more ih =>
    rw [List.mem_cons, not_or] at within
    rw [List.cons_append, unescape?, if_neg (Ne.symm within.1), ih _ within.2, List.append_assoc,
      List.singleton_append]

/-- The form of one character is read as this character, whatever stands behind it. -/
theorem unescape?_parameterChar (c : Char) (rest : List Char) :
    unescape? none (parameterChar c ++ rest) = (unescape? none rest).map (c :: ·) := by
  have notWord : isWordChar '$' = false := by decide
  rw [parameterChar]
  split
  next word =>
    have bare : c ≠ '$' := by
      rintro rfl
      rw [notWord] at word
      exact absurd word Bool.false_ne_true
    rw [List.singleton_append, unescape?, if_neg bare]
  · split
    next dollar =>
      subst dollar
      exact unescape?_digits [] [] rest List.not_mem_nil
    · have within : '$' ∉ Nat.toDigits 16 c.toNat := by
        intro member
        have word := isWordChar_of_mem_toDigits _ _ member
        rw [notWord] at word
        exact absurd word Bool.false_ne_true
      rw [List.cons_append, List.append_assoc, List.singleton_append, unescape?, if_pos rfl,
        unescape?_digits [] _ rest within, List.nil_append, escapedChar_toDigits]

theorem unescape?_escaped (text : List Char) :
    unescape? none (text.flatMap parameterChar) = some text := by
  induction text with
  | nil => rfl
  | cons c text ih => rw [List.flatMap_cons, unescape?_parameterChar, ih, Option.map_some]

theorem fieldOfParameter?_parameterName (field : String) :
    fieldOfParameter? (parameterName field) = some field := by
  rw [fieldOfParameter?, parameterName, String.toList_ofList]
  simp only [unescape?_escaped, Option.map_some, String.ofList_toList]

theorem isPlainIdentifier_parameterName (field : String) :
    isPlainIdentifier (parameterName field) = true := by
  have parts : ∀ c ∈ field.toList.flatMap parameterChar, isIdentifierPart c = true := by
    intro c member
    have inName : c ∈ (parameterName field).toList := by
      rw [parameterName, String.toList_ofList]
      exact List.mem_cons_of_mem _ member
    exact isIdentifierPart_of_mem_parameterName inName
  have start : isIdentifierStart 'T' = true := by decide
  rw [isPlainIdentifier, parameterName, String.toList_ofList]
  simp only [start, Bool.true_and]
  exact List.all_eq_true.mpr parts

/-- Reserved words begin in lower case. -/
theorem parameterName_not_reserved (field : String) : parameterName field ∉ reservedWords := by
  have lower : ∀ word ∈ reservedWords, word.toList.head? ≠ some 'T' := by decide
  intro member
  apply lower _ member
  rw [parameterName, String.toList_ofList, List.head?_cons]

/-- Parameters are identifiers, they tell the fields that they are for, and so no two fields share
one. -/
theorem parameterName_faithful :
    (∀ field, isPlainIdentifier (parameterName field) = true ∧
      parameterName field ∉ reservedWords ∧
      fieldOfParameter? (parameterName field) = some field) ∧
    Function.Injective parameterName := by
  refine ⟨fun field => ⟨isPlainIdentifier_parameterName field, parameterName_not_reserved field,
    fieldOfParameter?_parameterName field⟩, ?_⟩
  intro field other same
  have back := congrArg fieldOfParameter? same
  rw [fieldOfParameter?_parameterName, fieldOfParameter?_parameterName] at back
  exact Option.some.inj back

end CollectionTypes.TypeScript
