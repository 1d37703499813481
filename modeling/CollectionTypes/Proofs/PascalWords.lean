import CollectionTypes.Proofs.NameCharacters

/-!
# Words in pascal case

A text with a separator in it is put into pascal case word by word, so it comes to the same to do so
with the parts in front of a separator and behind it, and it does not matter which separators stand
between two words or how many. Of ASCII text the result is one word that begins with no lower-case
letter, and a word of this kind is in pascal case already.

Specification: section 4.7 (pascal case word by word).
-/

namespace CollectionTypes.TypeScript

open Text (isAlphanumeric)

section Words

variable {p : Char} {front run behind : List Char}

theorem words_append_separator (separates : isAlphanumeric p = false) (front behind : List Char) :
    words (front ++ p :: behind) = words front ++ words behind := by
  have isSeparator : (!isAlphanumeric p) = true := by rw [separates]; rfl
  rw [words, List.splitOnP_append_cons front behind isSeparator, List.filter_append, words, words]

theorem words_separators_append (separators : ∀ c ∈ run, isAlphanumeric c = false)
    (behind : List Char) : words (run ++ behind) = words behind := by
  induction run with
  | nil => rfl
  | cons p run ih =>
    have first := words_append_separator (separators p List.mem_cons_self) [] (run ++ behind)
    rw [List.nil_append] at first
    rw [List.cons_append, first, ih fun c member => separators c (List.mem_cons_of_mem p member)]
    rfl

/-- Separators come in runs, of any length. -/
theorem words_append_run (some : run ≠ []) (separators : ∀ c ∈ run, isAlphanumeric c = false)
    (front behind : List Char) :
    words (front ++ (run ++ behind)) = words front ++ words behind := by
  cases run with
  | nil => exact absurd rfl some
  | cons p run =>
    rw [List.cons_append, words_append_separator (separators p List.mem_cons_self),
      words_separators_append fun c member => separators c (List.mem_cons_of_mem p member)]

/-- A text that is not one word is told by its words alone. -/
theorem pascalChars_of_separator {text : List Char} (member : p ∈ text)
    (separates : isAlphanumeric p = false) :
    pascalChars text = (words text).flatMap (capitalize Text.toLower) := by
  have several : ¬text.all isAlphanumeric = true := by
    intro oneWord
    have letter := List.all_eq_true.mp oneWord p member
    rw [separates] at letter
    exact Bool.false_ne_true letter
  rw [pascalChars, if_neg several]

theorem pascalChars_append_run (some : run ≠ []) (separators : ∀ c ∈ run, isAlphanumeric c = false)
    (front behind : List Char) :
    pascalChars (front ++ (run ++ behind)) =
      (words front ++ words behind).flatMap (capitalize Text.toLower) := by
  obtain ⟨p, inRun⟩ := List.exists_mem_of_ne_nil run some
  have member : p ∈ front ++ (run ++ behind) :=
    List.mem_append_right _ (List.mem_append_left _ inRun)
  rw [pascalChars_of_separator member (separators p inRun), words_append_run some separators]

/-- The separator goes with both parts, which are told by their own words then. -/
theorem pascalChars_append_separator (separates : isAlphanumeric p = false)
    (front behind : List Char) :
    pascalChars (front ++ ([p] ++ behind)) =
      pascalChars (front ++ [p]) ++ pascalChars ([p] ++ behind) := by
  have separators : ∀ c ∈ [p], isAlphanumeric c = false := by
    intro c member
    rwa [List.mem_singleton.mp member]
  have whole := pascalChars_append_run (List.cons_ne_nil p []) separators front behind
  have left := pascalChars_append_run (List.cons_ne_nil p []) separators front []
  have right := pascalChars_append_run (List.cons_ne_nil p []) separators [] behind
  have none : words [] = [] := rfl
  rw [none, List.append_nil] at left
  rw [none, List.nil_append, List.nil_append] at right
  rw [List.append_nil] at left
  rw [whole, left, right, List.flatMap_append]

end Words

section Ascii

/-- Letters and digits of ASCII, the first of them in upper case if it has one. -/
structure IsPascal (text : List Char) : Prop where
  letters : ∀ c ∈ text, c.isAlphanum = true
  first : ∀ c ∈ text.head?, c.isLower = false

theorem toNat_lt_of_isAlphanum {c : Char} (letter : c.isAlphanum = true) : c.toNat < 0x80 := by
  have bounds : ((decide (c.val ≥ 'A'.val ∧ c.val ≤ 'Z'.val) ||
      decide (c.val ≥ 'a'.val) && decide (c.val ≤ 'z'.val)) ||
      decide (c.val ≥ '0'.val) && decide (c.val ≤ '9'.val)) = true := letter
  simp only [Bool.or_eq_true, Bool.and_eq_true, decide_eq_true_eq, ge_iff_le,
    UInt32.le_iff_toNat_le] at bounds
  change ((65 ≤ c.toNat ∧ c.toNat ≤ 90) ∨ 97 ≤ c.toNat ∧ c.toNat ≤ 122) ∨
    48 ≤ c.toNat ∧ c.toNat ≤ 57 at bounds
  omega

namespace IsPascal

variable {text : List Char}

theorem nil : IsPascal [] where
  letters _ member := absurd member List.not_mem_nil
  first _ isFirst := by contradiction

theorem append {more : List Char} (isPascal : IsPascal text) (isPascal' : IsPascal more) :
    IsPascal (text ++ more) where
  letters c member := (List.mem_append.mp member).elim (isPascal.letters c) (isPascal'.letters c)
  first c isFirst := by
    cases text with
    | nil => exact isPascal'.first c isFirst
    | cons head rest => exact isPascal.first c isFirst

theorem flatMap {α : Type} {elements : List α} {chars : α → List Char}
    (each : ∀ a ∈ elements, IsPascal (chars a)) : IsPascal (elements.flatMap chars) := by
  induction elements with
  | nil => exact .nil
  | cons a elements ih =>
    rw [List.flatMap_cons]
    exact (each a List.mem_cons_self).append
      (ih fun b member => each b (List.mem_cons_of_mem a member))

/-- A first letter in upper case is left as it is, and so are the others of a single word. -/
theorem pascalChars_eq (isPascal : IsPascal text) : pascalChars text = text := by
  have oneWord : text.all isAlphanumeric = true := by
    apply List.all_eq_true.mpr
    intro c member
    have letter := isPascal.letters c member
    rwa [Text.isAlphanumeric_of_ascii (toNat_lt_of_isAlphanum letter)]
  rw [pascalChars, if_pos oneWord]
  cases text with
  | nil => rfl
  | cons first rest =>
    have ascii := toNat_lt_of_isAlphanum (isPascal.letters first List.mem_cons_self)
    have upper : first.toUpper = first :=
      Text.forall_ascii (P := fun c => c.isLower = false → c.toUpper = c) (by decide) ascii
        (isPascal.first first rfl)
    rw [capitalize, Text.toUpper, if_pos ascii, upper]
    simp

end IsPascal

/-- The first letter of a word in upper case, the others as they are or in lower case. -/
theorem isPascal_capitalize {others : Char → List Char} {word : List Char}
    (letters : ∀ c ∈ word, c.toNat < 0x80 ∧ c.isAlphanum = true)
    (othersLead : ∀ c, c.toNat < 0x80 → c.isAlphanum = true → ∀ d ∈ others c, d.isAlphanum = true) :
    IsPascal (capitalize others word) := by
  cases word with
  | nil => exact .nil
  | cons first rest =>
    obtain ⟨ascii, letter⟩ := letters first List.mem_cons_self
    have upper : first.toUpper.isLower = false :=
      Text.forall_ascii (P := fun c => c.toUpper.isLower = false) (by decide) ascii
    rw [capitalize, Text.toUpper, if_pos ascii]
    constructor
    · intro d member
      rcases List.mem_cons.mp member with rfl | inOthers
      · exact Text.isAlphanum_toUpper ascii letter
      · obtain ⟨c, inRest, leads⟩ := List.mem_flatMap.mp inOthers
        obtain ⟨ascii, letter⟩ := letters c (List.mem_cons_of_mem first inRest)
        exact othersLead c ascii letter d leads
    · intro d isFirst
      rwa [← Option.some.inj isFirst]

theorem isPascal_pascalChars {text : List Char} (ascii : ∀ c ∈ text, c.toNat < 0x80) :
    IsPascal (pascalChars text) := by
  have letter {c : Char} (member : c ∈ text) (letter : isAlphanumeric c = true) :
      c.toNat < 0x80 ∧ c.isAlphanum = true := by
    rw [Text.isAlphanumeric_of_ascii (ascii c member)] at letter
    exact ⟨ascii c member, letter⟩
  rw [pascalChars]
  split
  next oneWord =>
    refine isPascal_capitalize (fun c member => letter member ?_) ?_
    · exact List.all_eq_true.mp oneWord c member
    · intro c _ letter d same
      rwa [List.mem_singleton.mp same]
  · refine .flatMap fun word inWords => isPascal_capitalize ?_ ?_
    · intro c inWord
      obtain ⟨member, isLetter⟩ := mem_of_mem_words inWords c inWord
      exact letter member isLetter
    · intro c ascii letter d leads
      rw [Text.toLower, if_pos ascii] at leads
      rw [List.mem_singleton.mp leads]
      exact Text.isAlphanum_toLower ascii letter

end Ascii

/-- Pascal case comes to the same in front of a separator and behind it as for the whole, and any
run of separators is as good as one. Of ASCII text it leads to letters and digits, beginning with no
lower-case letter, and to nothing new when it is done again. -/
theorem pascalCase_by_words :
    (∀ (front behind : String) (p : Char), isAlphanumeric p = false →
      pascalCase (front ++ String.singleton p ++ behind) =
        pascalCase (front ++ String.singleton p) ++ pascalCase (String.singleton p ++ behind)) ∧
    (∀ (front run behind : String) (p : Char), isAlphanumeric p = false →
      run ≠ "" → (∀ c ∈ run.toList, isAlphanumeric c = false) →
      pascalCase (front ++ run ++ behind) = pascalCase (front ++ String.singleton p ++ behind)) ∧
    ∀ s : String, (∀ c ∈ s.toList, c.toNat < 0x80) →
      (∀ c ∈ (pascalCase s).toList, c.isAlphanum = true) ∧
      (∀ c ∈ (pascalCase s).toList.head?, c.isLower = false) ∧
      pascalCase (pascalCase s) = pascalCase s := by
  refine ⟨?_, ?_, ?_⟩
  · intro front behind p separates
    have parts := pascalChars_append_separator separates front.toList behind.toList
    simp only [pascalCase, String.toList_append, String.toList_singleton, List.append_assoc,
      parts, String.ofList_append]
  · intro front run behind p separates some separators
    have nonempty : run.toList ≠ [] := by
      intro none
      exact some (String.toList_eq_nil_iff.mp none)
    have single : ∀ c ∈ [p], isAlphanumeric c = false := by
      intro c member
      rwa [List.mem_singleton.mp member]
    simp only [pascalCase, String.toList_append, String.toList_singleton, List.append_assoc,
      pascalChars_append_run nonempty separators,
      pascalChars_append_run (List.cons_ne_nil p []) single]
  · intro s ascii
    have isPascal := isPascal_pascalChars ascii
    simp only [pascalCase, String.toList_ofList]
    exact ⟨isPascal.letters, isPascal.first, by rw [isPascal.pascalChars_eq]⟩

/-- The text that is led to is one word, so it takes the other way when it is done again. -/
theorem pascalCase_by_words_menu :
    pascalCase "menu_OF-" ++ pascalCase "-the day" = pascalCase "menu_OF-the day" ∧
      pascalCase "menu_OF\n  --the day" = pascalCase "menu_OF-the day" ∧
      pascalCase (pascalCase "menu_OF-the day") = pascalCase "menu_OF-the day" ∧
      pascalCase "menu_OF-the day" = "MenuOfTheDay" := by
  obtain ⟨parts, runs, ascii⟩ := pascalCase_by_words
  have separates : isAlphanumeric '-' = false := by decide
  have separators : ("\n  --".toList.all fun c => !isAlphanumeric c) = true := by decide
  have inAscii : ("menu_OF-the day".toList.all fun c => decide (c.toNat < 0x80)) = true := by decide
  refine ⟨(parts "menu_OF" "the day" '-' separates).symm,
    runs "menu_OF" "\n  --" "the day" '-' separates (by decide) fun c member => ?_,
    (ascii "menu_OF-the day" fun c member => ?_).2.2, by decide⟩
  · exact Bool.not_eq_true' _ ▸ List.all_eq_true.mp separators c member
  · exact of_decide_eq_true (List.all_eq_true.mp inAscii c member)

end CollectionTypes.TypeScript
