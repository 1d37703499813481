import CollectionTypes.Proofs.TreeScanning
import Mathlib.Data.List.TakeWhile

/-!
# Parts taken off a text

Whatever the readers of blanks, keywords, texts and numerals take off a text is a part that a tree
may have.
-/

namespace CollectionTypes.Json.Reader

variable {α σ : Type} {unread rest : List Char}

/-- Looking for a solid character takes the blanks before it. -/
theorem taken_blank {next : Option Char → Reader α} {a : α}
    (read : run? (nextSolid? >>= next) unread = some (a, rest)) :
    ∃ (blank : Blank) (solid : List Char), unread = blank.chars ++ solid ∧
      run? (next solid.head?) solid = some (a, rest) :=
  ⟨⟨unread.takeWhile isBlank, fun _ => List.mem_takeWhile_imp⟩, unread.dropWhile isBlank,
    List.takeWhile_append_dropWhile.symm, read⟩

/-- What cannot go on without a character finds one behind the blanks. -/
theorem taken_solid {next : Option Char → Reader α} {a : α}
    (read : run? (nextSolid? >>= next) unread = some (a, rest))
    (needed : run? (next none) [] = none) :
    ∃ (blank : Blank) (c : Char) (more : List Char), unread = blank.chars ++ c :: more ∧
      run? (next (some c)) (c :: more) = some (a, rest) := by
  obtain ⟨blank, solid, shape, found⟩ := taken_blank read
  cases solid with
  | nil => exact absurd (needed.symm.trans found) nofun
  | cons c more => exact ⟨blank, c, more, shape, found⟩

/-- A reader that cannot do without a character found one. -/
theorem taken_next {next : Option Char → Reader α} {a : α}
    (read : run? (next? >>= next) unread = some (a, rest))
    (needed : run? (next none) [] = none) :
    ∃ (c : Char) (more : List Char), unread = c :: more ∧
      run? (next (some c)) (c :: more) = some (a, rest) := by
  cases unread with
  | nil => exact absurd (needed.symm.trans read) nofun
  | cons c more => exact ⟨c, more, rfl, read⟩

theorem taken_spelled {word : List Char} (read : run? (spelled word) unread = some ((), rest)) :
    unread = word ++ rest := by
  induction word generalizing unread with
  | nil =>
    cases read
    rfl
  | cons expected word ih =>
    obtain ⟨c, more, rfl, found⟩ := taken_next read rfl
    rw [run?_ite] at found
    split at found
    · rename_i same
      rw [run?_bind, run?_skip, Option.bind_some] at found
      exact congrArg₂ List.cons same (ih found)
    · contradiction

theorem taken_keyword {c : Char} {word : String}
    (read : run? (keyword word) (c :: unread) = some ((), rest)) :
    unread = word.toList ++ rest := by
  rw [keyword, run?_bind, run?_skip, Option.bind_some] at read
  exact taken_spelled read

/-- A colon may have blanks before it. -/
theorem taken_colon (read : run? colon unread = some ((), rest)) :
    ∃ blank : Blank, unread = blank.chars ++ ':' :: rest := by
  obtain ⟨blank, c, more, rfl, found⟩ := taken_solid read rfl
  rw [run?_ite] at found
  split at found
  · rename_i isColon
    cases found
    exact ⟨blank, by rw [isColon, List.tail_cons]⟩
  · contradiction

/-- Four digits that are read make an escape by their code. -/
theorem taken_hexFour {value : Nat} (read : run? hexFour unread = some (value, rest)) :
    ∃ glyph : Glyph, '\\' :: 'u' :: unread = glyph.chars ++ rest := by
  have stops : run? (stopAfterFour : Reader Nat) unread ≠ some (value, rest) := by simp
  unfold run? hexFour at read
  split at read
  · split at read
    · cases read
      exact ⟨.unit _ _ _ _ _ ‹_›, rfl⟩
    · exact absurd read stops
  · exact absurd read stops

theorem taken_pairSign {sign : Char} (read : run? (pairSign sign) unread = some ((), rest)) :
    unread = sign :: rest := by
  obtain ⟨c, more, rfl, found⟩ := taken_next read rfl
  rw [run?_ite] at found
  split at found
  · rename_i same
    cases found
    rw [same, List.tail_cons]
  · contradiction

/-- A character is escaped by one glyph, or by two that are surrogates. -/
theorem taken_unicodeEscape {c : Char} (read : run? unicodeEscape unread = some (c, rest)) :
    ∃ glyphs : List Glyph, '\\' :: 'u' :: unread = glyphs.flatMap Glyph.chars ++ rest := by
  obtain ⟨value, behind, first, read⟩ := run?_bind_eq_some_iff.mp read
  obtain ⟨glyph, shape⟩ := taken_hexFour first
  by_cases trailing : isTrailingSurrogate value
  · rw [if_pos trailing] at read
    contradiction
  rw [if_neg trailing] at read
  by_cases leading : isLeadingSurrogate value
  · rw [if_pos leading] at read
    obtain ⟨_, _, backslash, read⟩ := run?_bind_eq_some_iff.mp read
    obtain ⟨_, _, letter, read⟩ := run?_bind_eq_some_iff.mp read
    obtain ⟨value', _, second, read⟩ := run?_bind_eq_some_iff.mp read
    obtain ⟨glyph', shape'⟩ := taken_hexFour second
    refine ⟨[glyph, glyph'], ?_⟩
    rw [run?_ite] at read
    split at read
    · obtain ⟨-, rfl⟩ := Prod.mk.inj (Option.some.inj read)
      rw [shape, taken_pairSign backslash, taken_pairSign letter, shape']
      simp
    · contradiction
  · rw [if_neg leading] at read
    obtain ⟨-, rfl⟩ := Prod.mk.inj (Option.some.inj read)
    exact ⟨[glyph], by simpa using shape⟩

/-- An escape is a letter, or a code that may be half of a pair. -/
theorem taken_escape {plain : Char → α} {unicode : Reader α} {a : α}
    (read : run? (escape plain unicode) unread = some (a, rest))
    (unit : ∀ digits, run? unicode digits = some (a, rest) →
      ∃ glyphs : List Glyph, '\\' :: 'u' :: digits = glyphs.flatMap Glyph.chars ++ rest) :
    ∃ glyphs : List Glyph, '\\' :: unread = glyphs.flatMap Glyph.chars ++ rest := by
  obtain ⟨sign, more, rfl, found⟩ := taken_next read rfl
  dsimp only at found
  split at found
  · rename_i letter
    cases found
    exact ⟨[.letter sign _ letter], rfl⟩
  · rw [run?_ite] at found
    split at found
    · rename_i isU
      subst isU
      exact unit more found
    · contradiction

/-- What a turn takes off a text between quotes. -/
inductive TakesGlyphs : Turn σ α → List Char → List Char → Prop
  | quote (a : α) (rest : List Char) : TakesGlyphs (.done a) ('"' :: rest) rest
  | glyphs (next : σ) (glyphs : List Glyph) (rest : List Char) :
      TakesGlyphs (.again next) (glyphs.flatMap Glyph.chars ++ rest) rest

/-- Turn by turn, what is taken of a text is its glyphs and the closing quote. -/
theorem Ran.glyphs {turn : σ → Reader (Turn σ α)}
    (each : ∀ state unread result behind, run? (turn state) unread = some (result, behind) →
      TakesGlyphs result unread behind)
    {state : σ} {a : α} (ran : Ran turn state unread a rest) :
    ∃ glyphs : List Glyph, unread = glyphs.flatMap Glyph.chars ++ '"' :: rest := by
  induction ran with
  | done last =>
    cases each _ _ _ _ last
    exact ⟨[], rfl⟩
  | again one _ ih =>
    obtain ⟨more, rfl⟩ := ih
    cases each _ _ _ _ one with
    | glyphs _ glyphs => exact ⟨glyphs ++ more, by simp⟩

/-- The characters of a text are told apart in one way, whatever is made of them. -/
theorem takesGlyphs_of_first {c : Char} {ended : α} {next : σ} {escaped stops : Reader (Turn σ α)}
    {result : Turn σ α}
    (taken : run? (if c = '"' then do skip; pure (.done ended)
      else if c = '\\' then do skip; escaped
      else if c.toNat < 0x20 then stops
      else do skip; pure (.again next)) (c :: unread) = some (result, rest))
    (refused : run? stops (c :: unread) = none)
    (escape : run? escaped unread = some (result, rest) →
      TakesGlyphs result ('\\' :: unread) rest) :
    TakesGlyphs result (c :: unread) rest := by
  by_cases quote : c = '"'
  · rw [if_pos quote] at taken
    cases taken
    exact quote ▸ .quote ended unread
  rw [if_neg quote] at taken
  by_cases backslash : c = '\\'
  · rw [if_pos backslash, run?_bind, run?_skip, Option.bind_some] at taken
    exact backslash ▸ escape taken
  rw [if_neg backslash, run?_ite] at taken
  split at taken
  · rw [refused] at taken
    contradiction
  · rename_i shown
    cases taken
    exact .glyphs next [.plain c ⟨quote, backslash, shown⟩] unread

/-- One turn takes one glyph, or two that make a pair. -/
theorem taken_textTurn (read : List Char) (unread : List Char)
    (result : Turn (List Char) (List Char)) (behind : List Char)
    (taken : run? (textTurn read) unread = some (result, behind)) :
    TakesGlyphs result unread behind := by
  obtain ⟨c, more, rfl, found⟩ := taken_next taken rfl
  refine takesGlyphs_of_first found rfl fun behindBackslash => ?_
  obtain ⟨character, _, escaped, last⟩ := run?_bind_eq_some_iff.mp behindBackslash
  cases last
  obtain ⟨glyphs, shape⟩ := taken_escape escaped fun _ => taken_unicodeEscape
  exact shape ▸ .glyphs ..

theorem taken_skipTextTurn (_ : Unit) (unread : List Char) (result : Turn Unit Unit)
    (behind : List Char) (taken : run? (skipTextTurn ()) unread = some (result, behind)) :
    TakesGlyphs result unread behind := by
  obtain ⟨c, more, rfl, found⟩ := taken_next taken rfl
  refine takesGlyphs_of_first found rfl fun behindBackslash => ?_
  obtain ⟨_, _, escaped, last⟩ := run?_bind_eq_some_iff.mp behindBackslash
  cases last
  obtain ⟨glyphs, shape⟩ := taken_escape escaped fun digits read => by
    obtain ⟨value, _, unit, isRest⟩ := run?_bind_eq_some_iff.mp read
    cases isRest
    obtain ⟨glyph, shape⟩ := taken_hexFour unit
    exact ⟨[glyph], by simpa using shape⟩
  exact shape ▸ .glyphs ..

theorem taken_text {s : String} (read : run? text ('"' :: unread) = some (s, rest)) :
    ∃ glyphs, '"' :: unread = quotedGlyphs glyphs ++ rest := by
  rw [text, run?_bind, run?_skip, Option.bind_some] at read
  obtain ⟨characters, _, repeats, isRest⟩ := run?_bind_eq_some_iff.mp read
  cases isRest
  obtain ⟨glyphs, rfl⟩ := (Ran.of_repeated repeats).glyphs taken_textTurn
  exact ⟨glyphs, by simp [quotedGlyphs]⟩

theorem taken_skipText (read : run? skipText ('"' :: unread) = some ((), rest)) :
    ∃ glyphs, '"' :: unread = quotedGlyphs glyphs ++ rest := by
  rw [skipText, run?_bind, run?_skip, Option.bind_some] at read
  obtain ⟨glyphs, rfl⟩ := (Ran.of_repeated read).glyphs taken_skipTextTurn
  exact ⟨glyphs, by simp [quotedGlyphs]⟩

/-- The first digit was seen before, and those behind it are taken as far as they go. -/
theorem taken_digits {values : List Nat} {c : Char} (isDigit : c.isDigit = true)
    (read : run? Reader.digits (c :: unread) = some (values, rest)) :
    ∃ digits : Digits, digits.chars.head? = some c ∧ c :: unread = digits.chars ++ rest := by
  have taken : (c :: unread).dropWhile Char.isDigit = rest := by
    cases read
    rfl
  refine ⟨⟨(c :: unread).takeWhile Char.isDigit, ?_, fun _ => List.mem_takeWhile_imp⟩, ?_, ?_⟩
  · simp [isDigit]
  · simp [isDigit]
  · rw [← taken]
    exact List.takeWhile_append_dropWhile.symm

theorem taken_fractionDigits {cause : Cause} {values : List Nat}
    (read : run? (fractionDigits cause) unread = some (values, rest)) :
    ∃ digits : Digits, unread = digits.chars ++ rest := by
  obtain ⟨c, more, rfl, found⟩ := taken_next read rfl
  dsimp only at found
  split at found
  · rename_i isDigit
    obtain ⟨digits, -, shape⟩ := taken_digits isDigit found
    exact ⟨digits, shape⟩
  · contradiction

/-- Whole digits begin with a zero only where it stands alone. -/
theorem taken_wholeDigits {cause : Cause} {values : List Nat}
    (read : run? (wholeDigits cause) unread = some (values, rest)) :
    ∃ digits : Digits, (digits.chars.head? = some '0' → digits.chars = ['0']) ∧
      unread = digits.chars ++ rest := by
  obtain ⟨c, more, rfl, found⟩ := taken_next read rfl
  dsimp only at found
  by_cases zero : c = '0'
  · subst zero
    have behind : more = rest := by
      cases more with
      | nil =>
        cases found
        rfl
      | cons d more =>
        simp only [if_true, run?_bind, run?_skip, Option.bind_some, run?_next?, List.head?_cons,
          run?_ite] at found
        split at found
        · contradiction
        · cases found
          rfl
    exact ⟨⟨['0'], by simp, by simp⟩, fun _ => rfl, by rw [behind]; rfl⟩
  · rw [if_neg zero] at found
    split at found
    · rename_i isDigit
      obtain ⟨digits, first, shape⟩ := taken_digits isDigit found
      exact ⟨digits, fun isZero => absurd (Option.some.inj (first.symm.trans isZero)) zero, shape⟩
    · contradiction

theorem taken_exponent {cause : Cause} {value : Exponent}
    (read : run? (exponent cause) unread = some (value, rest)) :
    ∃ (sign : Option Char) (digits : Digits), (∀ c ∈ sign, c = '+' ∨ c = '-') ∧
      unread = sign.toList ++ (digits.chars ++ rest) := by
  rw [exponent, run?_bind, run?_next?, Option.bind_some] at read
  dsimp only at read
  split at read
  · rename_i signed
    cases unread with
    | nil => contradiction
    | cons c more =>
      rw [run?_bind, run?_skip, Option.bind_some] at read
      obtain ⟨values, _, read, isRest⟩ := run?_bind_eq_some_iff.mp read
      cases isRest
      obtain ⟨digits, rfl⟩ := taken_fractionDigits read
      exact ⟨some c, digits, by simpa using signed, rfl⟩
  · obtain ⟨values, _, read, isRest⟩ := run?_bind_eq_some_iff.mp read
    cases isRest
    obtain ⟨digits, rfl⟩ := taken_fractionDigits read
    exact ⟨none, digits, by simp, rfl⟩

/-- The fraction of a numeral, with what is read behind it. -/
theorem taken_fraction {cause : Cause} {next : Option (List Nat) → Reader α} {a : α}
    (read : run? (do
      let fraction ← match ← next? with
        | some '.' => do
            skip
            some <$> fractionDigits cause
        | _ => pure none
      next fraction) unread = some (a, rest)) :
    ∃ (fraction : Option Digits) (values : Option (List Nat)) (behind : List Char),
      unread = NumeralText.fractionChars fraction ++ behind ∧
        run? (next values) behind = some (a, rest) := by
  obtain ⟨_, _, first, read⟩ := run?_bind_eq_some_iff.mp read
  cases first
  split at read
  · rename_i point
    obtain ⟨more, rfl⟩ := List.head?_eq_some_iff.mp point
    rw [run?_bind, run?_skip, Option.bind_some] at read
    obtain ⟨values, behind, digits, read⟩ := run?_bind_eq_some_iff.mp read
    obtain ⟨_, taken, rfl⟩ := run?_map_eq_some_iff.mp digits
    obtain ⟨digits, shape⟩ := taken_fractionDigits taken
    exact ⟨some digits, _, behind, congrArg ('.' :: ·) shape, read⟩
  · exact ⟨none, none, unread, rfl, read⟩

theorem taken_exponentPart {cause : Cause} {next : Option Exponent → Reader α} {a : α}
    (read : run? (do
      let exponent ← match ← next? with
        | some 'e' | some 'E' => do
            skip
            some <$> Reader.exponent cause
        | _ => pure none
      next exponent) unread = some (a, rest)) :
    ∃ (exponent : Option ExponentText) (value : Option Exponent) (behind : List Char),
      unread = NumeralText.exponentChars exponent ++ behind ∧
        run? (next value) behind = some (a, rest) := by
  have behindLetter {letter : Char} {more : List Char} (isLetter : letter = 'e' ∨ letter = 'E')
      (read : run? (do skip; let exponent ← some <$> Reader.exponent cause; next exponent)
        (letter :: more) = some (a, rest)) :
      ∃ (exponent : Option ExponentText) (value : Option Exponent) (behind : List Char),
        letter :: more = NumeralText.exponentChars exponent ++ behind ∧
          run? (next value) behind = some (a, rest) := by
    rw [run?_bind, run?_skip, Option.bind_some] at read
    obtain ⟨_, behind, exponent, read⟩ := run?_bind_eq_some_iff.mp read
    obtain ⟨_, taken, rfl⟩ := run?_map_eq_some_iff.mp exponent
    obtain ⟨sign, digits, isSign, shape⟩ := taken_exponent taken
    refine ⟨some ⟨letter, sign, digits, isLetter, isSign⟩, _, behind, ?_, read⟩
    simpa [NumeralText.exponentChars, ExponentText.chars] using shape
  obtain ⟨_, _, first, read⟩ := run?_bind_eq_some_iff.mp read
  cases first
  split at read
  · rename_i isE
    obtain ⟨more, rfl⟩ := List.head?_eq_some_iff.mp isE
    exact behindLetter (.inl rfl) read
  · rename_i isE
    obtain ⟨more, rfl⟩ := List.head?_eq_some_iff.mp isE
    exact behindLetter (.inr rfl) read
  · exact ⟨none, none, unread, rfl, read⟩

theorem taken_minus {next : Reader α} {a : α}
    (read : run? (if unread.head? = some '-' then do skip; next else next) unread =
      some (a, rest)) :
    ∃ (negative : Bool) (behind : List Char),
      unread = (if negative then ['-'] else []) ++ behind ∧ run? next behind = some (a, rest) := by
  by_cases minus : unread.head? = some '-'
  · rw [if_pos minus] at read
    obtain ⟨more, shape⟩ := List.head?_eq_some_iff.mp minus
    rw [shape, run?_bind, run?_skip, Option.bind_some] at read
    exact ⟨true, more, shape, read⟩
  · rw [if_neg minus] at read
    exact ⟨false, unread, rfl, read⟩

/-- Sign, whole digits, fraction and exponent make up all that is taken. -/
theorem taken_numeral {cause : Cause} {value : Numeral}
    (read : run? (numeral cause) unread = some (value, rest)) :
    ∃ text : NumeralText, unread = text.chars ++ rest := by
  obtain ⟨_, _, first, signed⟩ := run?_bind_eq_some_iff.mp read
  cases first
  obtain ⟨negative, _, shape, behindSign⟩ := taken_minus signed
  obtain ⟨_, _, digits, behindWhole⟩ := run?_bind_eq_some_iff.mp behindSign
  obtain ⟨whole, zeroAlone, rfl⟩ := taken_wholeDigits digits
  obtain ⟨fraction, _, _, rfl, behindFraction⟩ := taken_fraction behindWhole
  obtain ⟨exponent, _, _, rfl, last⟩ := taken_exponentPart behindFraction
  cases last
  refine ⟨⟨negative, whole, fraction, exponent, zeroAlone⟩, ?_⟩
  rw [shape, NumeralText.chars, List.append_assoc, List.append_assoc, List.append_assoc]

theorem taken_number {value : Number} (read : run? number unread = some (value, rest)) :
    ∃ text : NumeralText, unread = text.chars ++ rest := by
  obtain ⟨numeral, behind, taken, ended⟩ := run?_bind_eq_some_iff.mp read
  cases known : numeral.value with
  | ok n =>
    rw [known] at ended
    cases ended
    exact taken_numeral taken
  | error count =>
    rw [known] at ended
    contradiction

/-- A number that is skipped has the same form. -/
theorem taken_skipNumber (read : run? skipNumber unread = some ((), rest)) :
    ∃ text : NumeralText, unread = text.chars ++ rest := by
  obtain ⟨numeral, behind, taken, ended⟩ := run?_bind_eq_some_iff.mp read
  cases ended
  exact taken_numeral taken

end CollectionTypes.Json.Reader
