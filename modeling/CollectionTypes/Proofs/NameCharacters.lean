import CollectionTypes.TypeScript.PascalCase
import CollectionTypes.TypeScript.TypeParameter

/-!
# Characters of names

Which characters the declared names of a module can have, whatever stands in the names that they are
made from. Letters and digits lead to letters and digits of ASCII or to characters beyond it: this
is read off the case mappings themselves, so no blank, quote, bracket or line break comes up in a
name.

Specification: section 4.7.
-/

namespace CollectionTypes.Text

/-- Of ASCII only the letters and the digits. -/
def isNameChar (c : Char) : Bool :=
  c.isAlphanum || decide (0x80 ≤ c.toNat)

/-- Letters and digits can stand in a name. -/
theorem isNameChar_of_isAlphanumeric {c : Char} (letter : isAlphanumeric c = true) :
    isNameChar c = true := by
  by_cases ascii : c.toNat < 0x80
  · rw [isAlphanumeric_of_ascii ascii] at letter
    simp [isNameChar, letter]
  · have beyond : 0x80 ≤ c.toNat := Nat.le_of_not_lt ascii
    simp [isNameChar, beyond]

private theorem toNat_ofNat_of_isValidChar {n : Nat} (valid : n.isValidChar) :
    (Char.ofNat n).toNat = n := by
  rw [Char.ofNat, dif_pos valid]
  rfl

/-- Every code point of the range is mapped beyond ASCII and not into the surrogates, or the range
is one code point and its image a letter or digit of ASCII. -/
def CaseShift.leadsToNames (shift : CaseShift) : Bool :=
  let first := shift.first + shift.distance
  let last := shift.last + shift.distance
  (0x80 ≤ first && (last < 0xD800 || (0xE000 ≤ first && last < 0x110000))) ||
    (shift.first == shift.last && (Char.ofNat first.toNat).isAlphanum)

theorem CaseShift.isNameChar_apply (shift : CaseShift) (codePoint : Nat)
    (leads : shift.leadsToNames = true) (covered : shift.covers codePoint = true) :
    isNameChar (shift.apply codePoint) = true := by
  simp only [covers, Bool.and_eq_true, decide_eq_true_eq] at covered
  obtain ⟨⟨first, last⟩, _⟩ := covered
  simp only [leadsToNames, Bool.or_eq_true, Bool.and_eq_true, decide_eq_true_eq,
    beq_iff_eq] at leads
  rcases leads with ⟨beyond, bounds⟩ | ⟨single, letter⟩
  · have valid : (codePoint + shift.distance).toNat.isValidChar := by
      simp only [Nat.isValidChar]
      omega
    have image : 0x80 ≤ (shift.apply codePoint).toNat := by
      rw [apply, toNat_ofNat_of_isValidChar valid]
      omega
    simp [isNameChar, image]
  · have same : codePoint = shift.first := by omega
    simp [isNameChar, apply, same, letter]

/-- Checked range by range, not character by character. -/
private theorem upperShifts_leadToNames : upperShifts.all (·.leadsToNames) = true := by
  decide

private theorem lowerShifts_leadToNames : lowerShifts.all (·.leadsToNames) = true := by
  decide

private theorem upperSequences_leadToNames :
    ∀ entry ∈ upperSequences, ∀ n ∈ entry.2, isNameChar (Char.ofNat n) = true := by
  decide

private theorem lowerSequences_leadToNames :
    ∀ entry ∈ lowerSequences, ∀ n ∈ entry.2, isNameChar (Char.ofNat n) = true := by
  decide

private theorem mem_of_lookup_eq_some {entries : List (Nat × List Nat)} {key : Nat}
    {form : List Nat} (found : entries.lookup key = some form) : (key, form) ∈ entries := by
  obtain ⟨before, after, split, _⟩ := List.lookup_eq_some_iff.mp found
  simp [split]

/-- A character that no table lists stands for itself. -/
private theorem isNameChar_of_mem_mapCase {shifts : List CaseShift}
    {sequences : List (Nat × List Nat)}
    (shiftsLead : shifts.all (·.leadsToNames) = true)
    (sequencesLead : ∀ entry ∈ sequences, ∀ n ∈ entry.2, isNameChar (Char.ofNat n) = true)
    {c d : Char} (beyond : 0x80 ≤ c.toNat) (member : d ∈ mapCase shifts sequences c) :
    isNameChar d = true := by
  rw [mapCase] at member
  split at member
  next form found =>
    obtain ⟨n, inForm, rfl⟩ := List.mem_map.mp member
    exact sequencesLead _ (mem_of_lookup_eq_some found) n inForm
  · split at member
    next shift found =>
      have leads := List.all_eq_true.mp shiftsLead shift (List.mem_of_find?_eq_some found)
      have covered := List.find?_some found
      rw [List.mem_singleton.mp member]
      exact shift.isNameChar_apply c.toNat leads covered
    · rw [List.mem_singleton.mp member]
      simp [isNameChar, beyond]

/-- What holds of the first 128 characters one by one. -/
theorem forall_ascii {P : Char → Prop} (each : ∀ n : Fin 0x80, P (Char.ofNat n)) {c : Char}
    (ascii : c.toNat < 0x80) : P c := by
  have here := each ⟨c.toNat, ascii⟩
  rwa [Char.ofNat_toNat] at here

theorem isAlphanum_toUpper {c : Char} (ascii : c.toNat < 0x80) (letter : c.isAlphanum = true) :
    c.toUpper.isAlphanum = true :=
  forall_ascii (P := fun c => c.isAlphanum = true → c.toUpper.isAlphanum = true) (by decide)
    ascii letter

theorem isAlphanum_toLower {c : Char} (ascii : c.toNat < 0x80) (letter : c.isAlphanum = true) :
    c.toLower.isAlphanum = true :=
  forall_ascii (P := fun c => c.isAlphanum = true → c.toLower.isAlphanum = true) (by decide)
    ascii letter

/-- Upper case leads from letters and digits to characters of names. -/
theorem isNameChar_of_mem_toUpper {c d : Char} (letter : isAlphanumeric c = true)
    (member : d ∈ toUpper c) : isNameChar d = true := by
  rw [toUpper] at member
  split at member
  next ascii =>
    rw [isAlphanumeric_of_ascii ascii] at letter
    rw [List.mem_singleton.mp member]
    simp [isNameChar, isAlphanum_toUpper ascii letter]
  next beyond =>
    exact isNameChar_of_mem_mapCase upperShifts_leadToNames upperSequences_leadToNames
      (Nat.le_of_not_lt beyond) member

/-- Lower case does so as well. -/
theorem isNameChar_of_mem_toLower {c d : Char} (letter : isAlphanumeric c = true)
    (member : d ∈ toLower c) : isNameChar d = true := by
  rw [toLower] at member
  split at member
  next ascii =>
    rw [isAlphanumeric_of_ascii ascii] at letter
    rw [List.mem_singleton.mp member]
    simp [isNameChar, isAlphanum_toLower ascii letter]
  next beyond =>
    exact isNameChar_of_mem_mapCase lowerShifts_leadToNames lowerSequences_leadToNames
      (Nat.le_of_not_lt beyond) member

end CollectionTypes.Text

namespace CollectionTypes.TypeScript

open Text (isAlphanumeric isNameChar)

/-- The pieces between separators hold what the text held, and no separator. -/
private theorem splitOnP_pieces {α : Type} (p : α → Bool) (elements : List α) :
    ∀ piece ∈ elements.splitOnP p, ∀ a ∈ piece, a ∈ elements ∧ p a = false := by
  induction elements with
  | nil => simp
  | cons head rest ih =>
    intro piece member a inPiece
    rw [List.splitOnP_cons_eq_if_modifyHead] at member
    have behindHead {piece : List α} (member : piece ∈ rest.splitOnP p) (inPiece : a ∈ piece) :
        a ∈ head :: rest ∧ p a = false :=
      (ih piece member a inPiece).imp_left (List.mem_cons_of_mem head)
    split at member
    · rcases List.mem_cons.mp member with rfl | behind
      · simp at inPiece
      · exact behindHead behind inPiece
    next kept =>
      cases pieces : rest.splitOnP p with
      | nil => exact absurd pieces (List.splitOnP_ne_nil p rest)
      | cons first others =>
        rw [pieces] at member behindHead
        rcases List.mem_cons.mp member with rfl | behind
        · rcases List.mem_cons.mp inPiece with rfl | inFirst
          · exact ⟨List.mem_cons_self, by simpa using kept⟩
          · exact behindHead List.mem_cons_self inFirst
        · exact behindHead (List.mem_cons_of_mem first behind) inPiece

/-- The words of a text are made of the letters and digits that it has. -/
theorem mem_of_mem_words {text word : List Char} (member : word ∈ words text) :
    ∀ c ∈ word, c ∈ text ∧ isAlphanumeric c = true := by
  intro c inWord
  have piece := (List.mem_filter.mp member).1
  simpa using splitOnP_pieces _ text word piece c inWord

private theorem isNameChar_of_mem_capitalize {others : Char → List Char} {word : List Char}
    (letters : ∀ c ∈ word, isAlphanumeric c = true)
    (othersLead : ∀ c, isAlphanumeric c = true → ∀ d ∈ others c, isNameChar d = true) :
    ∀ d ∈ capitalize others word, isNameChar d = true := by
  intro d member
  cases word with
  | nil => simp [capitalize] at member
  | cons first rest =>
    rw [capitalize, List.mem_append, List.mem_flatMap] at member
    rcases member with inFirst | ⟨c, inRest, behind⟩
    · exact Text.isNameChar_of_mem_toUpper (letters first List.mem_cons_self) inFirst
    · exact othersLead c (letters c (List.mem_cons_of_mem first inRest)) d behind

/-- Separators are dropped and the case mappings do not lead back to them. -/
theorem isNameChar_of_mem_pascalCase {name : String} {c : Char}
    (member : c ∈ (pascalCase name).toList) : isNameChar c = true := by
  rw [pascalCase, String.toList_ofList, pascalChars] at member
  split at member
  next oneWord =>
    refine isNameChar_of_mem_capitalize (List.all_eq_true.mp oneWord) ?_ c member
    intro c letter d same
    rw [List.mem_singleton.mp same]
    exact Text.isNameChar_of_isAlphanumeric letter
  · obtain ⟨word, inWords, inWord⟩ := List.mem_flatMap.mp member
    exact isNameChar_of_mem_capitalize (fun c inWord => (mem_of_mem_words inWords c inWord).2)
      (fun c letter d => Text.isNameChar_of_mem_toLower letter) c inWord

private theorem isWordChar_digitChar : ∀ d < 16, isWordChar (Nat.digitChar d) = true := by
  decide

/-- Code points are written in digits that can stand in an identifier. -/
theorem isWordChar_of_mem_toDigits (n : Nat) : ∀ c ∈ Nat.toDigits 16 n, isWordChar c = true := by
  induction n using Nat.strongRecOn with
  | ind n ih =>
    intro c member
    by_cases small : n < 16
    · rw [Nat.toDigits_of_lt_base small, List.mem_singleton] at member
      rw [member]
      exact isWordChar_digitChar n small
    · rw [Nat.toDigits_of_base_le (by decide) (Nat.le_of_not_lt small), List.mem_append,
        List.mem_singleton] at member
      rcases member with front | rfl
      · exact ih (n / 16) (by omega) c front
      · exact isWordChar_digitChar (n % 16) (Nat.mod_lt n (by decide))

/-- A parameter is made of what identifiers are made of. -/
theorem isIdentifierPart_of_mem_parameterName {field : String} {c : Char}
    (member : c ∈ (parameterName field).toList) : isIdentifierPart c = true := by
  rw [parameterName, String.toList_ofList, List.mem_cons, List.mem_flatMap] at member
  rcases member with rfl | ⟨d, _, behind⟩
  · decide
  · rw [parameterChar] at behind
    split at behind
    next word =>
      rw [List.mem_singleton.mp behind, isIdentifierPart, word, Bool.true_or]
    · split at behind
      · simp only [List.mem_cons, List.not_mem_nil, or_false, or_self] at behind
        rw [behind]
        decide
      · rcases List.mem_cons.mp behind with rfl | inside
        · decide
        · rcases List.mem_append.mp inside with digit | last
          · rw [isIdentifierPart, isWordChar_of_mem_toDigits _ c digit, Bool.true_or]
          · rw [List.mem_singleton.mp last]
            decide

end CollectionTypes.TypeScript
