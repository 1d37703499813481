import CollectionTypes.Proofs.LineReading

/-!
# Self-delimiting literals

What a double-quoted literal is, said without a reader: characters that stand for themselves and
escapes of one letter, between quotes. The reader of literals takes exactly the literals off a text,
so what it takes does not depend on the text behind, and of the literal of a string it takes all.
Hence no string can end its own literal, and no literal begins another one.

Specification: sections 4.3 and 4.7 (quotes and backslashes are escaped).
-/

namespace CollectionTypes.TypeScript

/-- What the characters between two quotes spell. Quotes, backslashes and line ends do not stand for
themselves. -/
inductive Spells : List Char → List Char → Prop
  | done : Spells [] []
  | plain {c : Char} {spelling text : List Char} (quote : c ≠ '"') (backslash : c ≠ '\\')
      (lineEnd : c ≠ '\n' ∧ c ≠ '\r') (more : Spells spelling text) :
      Spells (c :: spelling) (c :: text)
  | escape {letter c : Char} {spelling text : List Char} (means : unescaped? letter = some c)
      (more : Spells spelling text) :
      Spells ('\\' :: letter :: spelling) (c :: text)

/-- The spelling, quotes included, of a literal that stands for `s`. -/
def IsLiteralOf (spelling : List Char) (s : String) : Prop :=
  ∃ body, Spells body s.toList ∧ spelling = '"' :: (body ++ ['"'])

section Reader

variable {input text behind : List Char}

/-- A backslash that was read last belongs to the spelling. -/
theorem spells_of_readQuoted? {escaped : Bool}
    (read : readQuoted? escaped input = some (text, behind)) :
    ∃ spelling, Spells ((if escaped then ['\\'] else []) ++ spelling) text ∧
      input = spelling ++ '"' :: behind := by
  induction input generalizing escaped text with
  | nil => simp [readQuoted?] at read
  | cons c rest ih =>
    unfold readQuoted? at read
    split at read
    next isEscaped =>
      obtain ⟨meant, means, read⟩ := Option.bind_eq_some_iff.mp read
      obtain ⟨⟨more, left⟩, readMore, same⟩ := Option.map_eq_some_iff.mp read
      obtain ⟨rfl, rfl⟩ := Prod.mk.inj same
      obtain ⟨spelling, spells, rfl⟩ := ih readMore
      refine ⟨c :: spelling, ?_, rfl⟩
      simpa [isEscaped] using Spells.escape means spells
    next plain =>
      simp only [plain, Bool.false_eq_true, if_false, List.nil_append]
      split at read
      next isQuote =>
        obtain ⟨rfl, rfl⟩ := Prod.mk.inj (Option.some.inj read)
        exact ⟨[], .done, by simp [isQuote]⟩
      next notQuote =>
        split at read
        next isBackslash =>
          obtain ⟨spelling, spells, rfl⟩ := ih read
          exact ⟨c :: spelling, by simpa [isBackslash] using spells, rfl⟩
        next notBackslash =>
          split at read
          · contradiction
          next noLineEnd =>
            obtain ⟨⟨more, left⟩, readMore, same⟩ := Option.map_eq_some_iff.mp read
            obtain ⟨rfl, rfl⟩ := Prod.mk.inj same
            obtain ⟨spelling, spells, rfl⟩ := ih readMore
            exact ⟨c :: spelling,
              .plain notQuote notBackslash (not_or.mp noLineEnd) (by simpa using spells), rfl⟩

theorem readQuoted?_of_spells {spelling : List Char} (spells : Spells spelling text)
    (behind : List Char) : readQuoted? false (spelling ++ '"' :: behind) = some (text, behind) := by
  induction spells with
  | done => simp [readQuoted?]
  | plain quote backslash lineEnd _ ih => simp [readQuoted?, quote, backslash, lineEnd, ih]
  | escape means _ ih => simp [readQuoted?, means, ih]

/-- The reader takes the literal that a text begins with, and nothing else is taken for one. -/
theorem readLiteral?_eq_some_iff {s : String} :
    readLiteral? input = some (s, behind) ↔
      ∃ spelling, IsLiteralOf spelling s ∧ input = spelling ++ behind := by
  constructor
  · intro read
    unfold readLiteral? at read
    split at read
    · contradiction
    · split at read
      next isQuote =>
        obtain ⟨⟨text, left⟩, readMore, same⟩ := Option.map_eq_some_iff.mp read
        obtain ⟨rfl, rfl⟩ := Prod.mk.inj same
        obtain ⟨body, spells, rfl⟩ := spells_of_readQuoted? readMore
        refine ⟨_, ⟨body, ?_, rfl⟩, ?_⟩
        · simpa using spells
        · simp [isQuote]
      · contradiction
  · rintro ⟨_, ⟨body, spells, rfl⟩, rfl⟩
    have read := readQuoted?_of_spells spells behind
    simp [readLiteral?, read]

/-- More text behind a literal is left where it is. -/
theorem readLiteral?_append {s : String} (read : readLiteral? input = some (s, behind))
    (more : List Char) : readLiteral? (input ++ more) = some (s, behind ++ more) := by
  obtain ⟨spelling, isLiteral, rfl⟩ := readLiteral?_eq_some_iff.mp read
  exact readLiteral?_eq_some_iff.mpr ⟨spelling, isLiteral, List.append_assoc ..⟩

end Reader

section Writer

/-- Two texts that begin with literals are equal only where the literals and what stands behind them
are. -/
theorem literal_append_inj {s t : String} {rest behind : List Char}
    (same : (literal s).toList ++ rest = (literal t).toList ++ behind) :
    s = t ∧ rest = behind := by
  have read := readLiteral?_literal s rest
  rw [same, readLiteral?_literal t behind] at read
  obtain ⟨equal, left⟩ := Prod.mk.inj (Option.some.inj read)
  exact ⟨equal.symm, left.symm⟩

/-- A literal is not over before its last character. -/
theorem readLiteral?_front {s : String} {front back : List Char}
    (split : (literal s).toList = front ++ back) (short : back ≠ []) :
    readLiteral? front = none := by
  rw [Option.eq_none_iff_forall_ne_some]
  rintro ⟨t, behind⟩ read
  have whole := readLiteral?_literal s []
  rw [List.append_nil, split, readLiteral?_append read back] at whole
  have ended := (Prod.mk.inj (Option.some.inj whole)).2
  exact short (List.append_eq_nil_iff.mp ended).2

end Writer

/-- Whatever stands behind the literal of a string, a reader of literals takes the literal, gives
the string and leaves the rest. So strings have literals of their own, none of which begins another
or is over before its end. -/
theorem literal_self_delimiting :
    (∀ input s behind, readLiteral? input = some (s, behind) ↔
      ∃ spelling, IsLiteralOf spelling s ∧ input = spelling ++ behind) ∧
    (∀ s rest, readLiteral? ((literal s).toList ++ rest) = some (s, rest)) ∧
    Function.Injective literal ∧
    (∀ s front back, (literal s).toList = front ++ back → back ≠ [] → readLiteral? front = none) ∧
    ∀ s t, s ≠ t → ¬(literal s).toList <+: (literal t).toList := by
  refine ⟨fun _ _ _ => readLiteral?_eq_some_iff, readLiteral?_literal, ?_,
    fun _ _ _ => readLiteral?_front, ?_⟩
  · intro s t same
    have texts : (literal s).toList ++ [] = (literal t).toList ++ [] := by rw [same]
    exact (literal_append_inj texts).1
  · rintro s t other ⟨behind, same⟩
    have texts : (literal s).toList ++ behind = (literal t).toList ++ [] := by
      rw [same, List.append_nil]
    exact other (literal_append_inj texts).1

/-- A text with quotes in it that ends in a backslash is read to its end, and not only up to the
first quote, though the text up to there has a literal as well. -/
theorem literal_self_delimiting_backslash :
    let s := "\", \"\\"
    let front := "\"\\\"".toList
    let back := ", \\\"\\\\\"".toList
    ((literal s).toList = front ++ back ∧ readLiteral? front = none) ∧
      readLiteral? ((literal s).toList ++ ",".toList) = some (s, ",".toList) ∧
      "\"" ≠ s ∧ ¬(literal "\"").toList <+: (literal s).toList := by
  intro s front back
  obtain ⟨-, reads, -, ends, apart⟩ := literal_self_delimiting
  have split : (literal s).toList = front ++ back := by decide
  have other : "\"" ≠ s := by decide
  exact ⟨⟨split, ends s front back split (by decide)⟩, reads s _, other, apart _ s other⟩

end CollectionTypes.TypeScript
