import CollectionTypes.Proofs.DocumentTree
import CollectionTypes.Proofs.QuotedText
import CollectionTypes.Proofs.ReaderRuns

/-!
# Scanning the parts of a tree

What the readers of blanks, texts and numerals make of the parts of a tree, whatever stands behind
them in a document.
-/

namespace CollectionTypes.Json

variable {α β σ : Type}

namespace Blank

def none : Blank := ⟨[], fun _ member => nomatch member⟩

def append (a b : Blank) : Blank :=
  ⟨a.chars ++ b.chars, fun c member => (List.mem_append.mp member).elim (a.blank c) (b.blank c)⟩

end Blank

/-- What may stand behind a value: blanks, then what ends it. -/
def Follows (rest : List Char) : Prop :=
  ∃ (blank : Blank) (more : List Char), Ends more ∧ rest = blank.chars ++ more

namespace Follows

theorem of_ends {rest : List Char} (ends : Ends rest) : Follows rest :=
  ⟨.none, rest, ends, rfl⟩

theorem blank_append (blank : Blank) {rest : List Char} (follows : Follows rest) :
    Follows (blank.chars ++ rest) := by
  obtain ⟨inner, more, ends, rfl⟩ := follows
  exact ⟨blank.append inner, more, ends, (List.append_assoc ..).symm⟩

/-- Nothing that follows a value could go on with a numeral. -/
theorem head {rest : List Char} (follows : Follows rest) {c : Char} (first : rest.head? = some c) :
    c.isDigit = false ∧ c ≠ '.' ∧ c ≠ 'e' ∧ c ≠ 'E' := by
  obtain ⟨blank, more, ends, rfl⟩ := follows
  cases shape : blank.chars with
  | nil =>
    rw [shape] at first
    cases ends <;> cases first <;> decide
  | cons d chars =>
    rw [shape] at first
    obtain rfl := Option.some.inj first
    have isBlank := blank.blank d (shape ▸ List.mem_cons_self)
    simp only [Json.isBlank, Bool.or_eq_true, decide_eq_true_eq] at isBlank
    rcases isBlank with ((rfl | rfl) | rfl) | rfl <;> decide

end Follows

namespace Reader

theorem dropWhile_blank (blank : Blank) (rest : List Char) :
    (blank.chars ++ rest).dropWhile isBlank = rest.dropWhile isBlank := by
  rw [List.dropWhile_append_of_pos blank.blank]

theorem run?_nextSolid? (blank : Blank) {c : Char} (solid : isBlank c = false) (rest : List Char) :
    run? nextSolid? (blank.chars ++ c :: rest) = some (some c, c :: rest) := by
  refine run?_of_apply ?_
  rw [nextSolid?, dropWhile_blank, List.dropWhile_cons_of_neg (by simp [solid])]
  rfl

theorem run?_keyword (c : Char) (word : String) (rest : List Char) :
    run? (keyword word) (c :: (word.toList ++ rest)) = some ((), rest) :=
  run?_of_apply (keyword_cons c word rest)

theorem run?_word (c : Char) (word : String) (a : α) (rest : List Char) :
    run? (do keyword word; pure a) (c :: (word.toList ++ rest)) = some (a, rest) := by
  rw [run?_bind, run?_keyword]
  rfl

theorem run?_colon (blank : Blank) (rest : List Char) :
    run? colon (blank.chars ++ ':' :: rest) = some ((), rest) := by
  rw [colon, run?_bind, run?_nextSolid? blank (by decide)]
  rfl

/-- A value that does not fit is refused, whatever it is. -/
theorem run?_refuse (expected : String) (c : Char) (unread : List Char) :
    run? (refuse expected c : Reader α) unread = none := by
  unfold refuse
  simp

@[simp]
theorem run?_stopAfterFour (unread : List Char) :
    run? (stopAfterFour : Reader α) unread = none := by
  rw [run?, stopAfterFour]
  split <;> rfl

theorem run?_hexFour {a b c d : Char} {value : Nat} (digits : hexFour? a b c d = some value)
    (rest : List Char) : run? hexFour (a :: b :: c :: d :: rest) = some (value, rest) := by
  rw [run?, hexFour, digits]
  rfl

/-- The second half of a surrogate pair, from its backslash on. -/
def pairUnit : Reader Nat := do
  pairSign '\\'
  pairSign 'u'
  hexFour

theorem run?_pairSign (sign : Char) (unread : List Char) :
    run? (pairSign sign) unread =
      if unread.head? = some sign then some ((), unread.tail) else none := by
  cases unread with
  | nil => rfl
  | cons c rest => simp [pairSign]

theorem run?_pairUnit {a b c d : Char} {value : Nat} (digits : hexFour? a b c d = some value)
    (rest : List Char) :
    run? pairUnit ((Glyph.unit a b c d value digits).chars ++ rest) = some (value, rest) := by
  simp [pairUnit, Glyph.chars, run?_pairSign, run?_hexFour digits]

/-- Nothing but four hexadecimal digits makes a pair. -/
theorem run?_pairUnit_other {glyphs : List Glyph}
    (other : ∀ a b c d value digits more, glyphs ≠ .unit a b c d value digits :: more)
    (rest : List Char) : run? pairUnit (glyphs.flatMap Glyph.chars ++ '"' :: rest) = none := by
  match glyphs with
  | [] => simp [pairUnit, run?_pairSign]
  | .plain c shown :: _ => simp [pairUnit, Glyph.chars, run?_pairSign, shown.2.1]
  | .letter sign c escape :: _ =>
    have notU : sign ≠ 'u' := by rintro rfl; exact absurd escape (by simp [plainEscape?])
    simp [pairUnit, Glyph.chars, run?_pairSign, notU]
  | .unit a b c d value digits :: more => exact absurd rfl (other a b c d value digits more)

theorem run?_textTurn_unit (read : List Char) {a b c d : Char} {value : Nat}
    (digits : hexFour? a b c d = some value) (rest : List Char) :
    run? (textTurn read) ((Glyph.unit a b c d value digits).chars ++ rest) =
      if isTrailingSurrogate value then none
      else if isLeadingSurrogate value then
        (run? pairUnit rest).bind fun next =>
          if isTrailingSurrogate next.1 then
            some (.again (Char.ofNat (ofSurrogates value next.1) :: read), next.2)
          else none
      else some (.again (Char.ofNat value :: read), rest) := by
  have escape : run? (textTurn read) ((Glyph.unit a b c d value digits).chars ++ rest) =
      (run? unicodeEscape (a :: b :: c :: d :: rest)).map fun next =>
        (.again (next.1 :: read), next.2) := by
    simp [Glyph.chars, textTurn, Reader.escape, plainEscape?]
  rw [escape, unicodeEscape, run?_bind, run?_hexFour digits]
  by_cases trailing : isTrailingSurrogate value = true
  · simp [trailing]
  · by_cases leading : isLeadingSurrogate value = true
    · simp only [run?_ite, run?_stopHere, run?_bind, run?_pure, Option.bind_some, trailing,
        Bool.false_eq_true, if_false, if_true, leading, Option.map_bind, Function.comp_def,
        apply_ite (Option.map _), Option.map_some, Option.map_none, pairUnit, Option.bind_assoc]
    · simp [trailing, leading]

/-- A text is read one character a turn, a surrogate pair in one. -/
theorem repeats_textTurn (glyphs : List Glyph) (read rest : List Char) :
    Repeats textTurn read (glyphs.flatMap Glyph.chars ++ '"' :: rest)
      ((Glyph.decode? glyphs).map fun characters => (read.reverse ++ characters, rest)) := by
  -- One case for each way to decode: only a leading surrogate looks at the glyph behind it.
  induction glyphs using Glyph.decode?.induct generalizing read with
  | case1 =>
    simpa [Glyph.decode?] using Repeats.done (run?_of_apply (textTurn_quote read rest))
  | case2 c shown glyphs ih =>
    have one := run?_of_apply (textTurn_bare read shown.1 shown.2.1 shown.2.2
      (glyphs.flatMap Glyph.chars ++ '"' :: rest))
    simpa [Glyph.decode?, Glyph.chars, Function.comp_def] using
      Repeats.again one (by simp) (ih (c :: read))
  | case3 sign c escape glyphs ih =>
    have one := run?_of_apply (textTurn_escaped read (escape_plain escape id unicodeEscape
      (glyphs.flatMap Glyph.chars ++ '"' :: rest)))
    simpa [Glyph.decode?, Glyph.chars, Function.comp_def] using
      Repeats.again one (by simp only [List.length_append, List.length_cons]; omega)
        (ih (c :: read))
  | case4 a b c d value digits glyphs trailing =>
    rw [Glyph.decode?.eq_def]
    simp only [trailing, if_true, List.flatMap_cons, List.append_assoc]
    refine Repeats.stop ?_
    rw [run?_textTurn_unit, if_pos trailing]
  | case5 a b c d value digits single leading a' b' c' d' next digits' glyphs trailing ih =>
    have one := run?_textTurn_unit read digits
      ((Glyph.unit a' b' c' d' next digits').chars ++ (glyphs.flatMap Glyph.chars ++ '"' :: rest))
    rw [if_neg single, if_pos leading, run?_pairUnit digits', Option.bind_some, if_pos trailing]
      at one
    have more := ih (Char.ofNat (ofSurrogates value next) :: read)
    rw [Glyph.decode?, if_neg single, if_pos leading, List.flatMap_cons, List.flatMap_cons]
    simpa [trailing, Function.comp_def] using Repeats.again one (by simp [Glyph.chars]; omega) more
  | case6 a b c d value digits single leading a' b' c' d' next digits' glyphs unpaired =>
    rw [Glyph.decode?, if_neg single, if_pos leading, if_neg unpaired, List.flatMap_cons,
      List.flatMap_cons, List.append_assoc, List.append_assoc]
    refine Repeats.stop ?_
    rw [run?_textTurn_unit, if_neg single, if_pos leading, run?_pairUnit digits', Option.bind_some,
      if_neg unpaired]
  | case7 a b c d value digits glyphs single leading other =>
    have undecoded : Glyph.decode? (.unit a b c d value digits :: glyphs) = none := by
      rw [Glyph.decode?.eq_def]
      simp only [if_neg single, if_pos leading]
    rw [undecoded, List.flatMap_cons, List.append_assoc]
    refine Repeats.stop ?_
    rw [run?_textTurn_unit, if_neg single, if_pos leading, run?_pairUnit_other other,
      Option.bind_none]
  | case8 a b c d value digits glyphs single bare ih =>
    have one := run?_textTurn_unit read digits (glyphs.flatMap Glyph.chars ++ '"' :: rest)
    rw [if_neg single, if_neg bare] at one
    have more := ih (Char.ofNat value :: read)
    rw [Glyph.decode?.eq_def]
    simpa [single, bare, Function.comp_def] using
      Repeats.again one (by simp [Glyph.chars]; omega) more

theorem run?_text (glyphs : List Glyph) (rest : List Char) :
    run? text (quotedGlyphs glyphs ++ rest) =
      (Glyph.decode? glyphs).map fun characters => (String.ofList characters, rest) := by
  have read := (repeats_textTurn glyphs [] rest).repeated
  simp [text, quotedGlyphs, read, Function.comp_def]

/-- Skipping a text does not mind its surrogates. -/
theorem run?_skipTextTurn (glyph : Glyph) (rest : List Char) :
    run? (skipTextTurn ()) (glyph.chars ++ rest) = some (.again (), rest) := by
  cases glyph with
  | plain c shown => simp [skipTextTurn, Glyph.chars, shown.1, shown.2.1, shown.2.2]
  | letter sign c escape => simp [skipTextTurn, Glyph.chars, Reader.escape, escape]
  | unit a b c d value digits =>
    simp [skipTextTurn, Glyph.chars, Reader.escape, plainEscape?, run?_hexFour digits]

theorem repeats_skipTextTurn (glyphs : List Glyph) (rest : List Char) :
    Repeats skipTextTurn () (glyphs.flatMap Glyph.chars ++ '"' :: rest) (some ((), rest)) := by
  induction glyphs with
  | nil => exact .done (by simp [skipTextTurn])
  | cons glyph glyphs ih =>
    have one := run?_skipTextTurn glyph (glyphs.flatMap Glyph.chars ++ '"' :: rest)
    rw [List.flatMap_cons, List.append_assoc]
    have written := glyph.length_chars_pos
    exact .again one (by simp only [List.length_append]; omega) ih

theorem run?_skipText (glyphs : List Glyph) (rest : List Char) :
    run? skipText (quotedGlyphs glyphs ++ rest) = some ((), rest) := by
  have read := (repeats_skipTextTurn glyphs rest).repeated
  simp [skipText, quotedGlyphs, read]

/-- A text that does not go on with a digit. -/
def NoDigit (rest : List Char) : Prop :=
  ∀ c, rest.head? = some c → c.isDigit = false

theorem run?_digits (digits : Digits) {rest : List Char} (ends : NoDigit rest) :
    run? Reader.digits (digits.chars ++ rest) = some (digits.values, rest) := by
  have taken :
      run? (takeWhile Char.isDigit) (digits.chars ++ rest) = some (digits.chars, rest) := by
    refine run?_of_apply ?_
    rw [takeWhile, List.takeWhile_append_of_pos digits.digits,
      List.dropWhile_append_of_pos digits.digits]
    cases rest with
    | nil => simp
    | cons c rest => simp [ends c rfl]
  rw [Reader.digits, run?_bind, taken]
  rfl

theorem run?_fractionDigits (cause : Cause) (digits : Digits) {rest : List Char}
    (ends : NoDigit rest) :
    run? (fractionDigits cause) (digits.chars ++ rest) = some (digits.values, rest) := by
  have read := run?_digits digits ends
  obtain ⟨c, more, shape, isDigit⟩ := digits.first
  rw [shape, List.cons_append] at read ⊢
  simp [fractionDigits, isDigit, read]

theorem run?_wholeDigits (cause : Cause) (digits : Digits)
    (zeroAlone : digits.chars.head? = some '0' → digits.chars = ['0']) {rest : List Char}
    (ends : NoDigit rest) :
    run? (wholeDigits cause) (digits.chars ++ rest) = some (digits.values, rest) := by
  have read := run?_digits digits ends
  obtain ⟨c, more, shape, isDigit⟩ := digits.first
  by_cases zero : c = '0'
  · have alone := zeroAlone (by rw [shape, zero]; rfl)
    have values : digits.values = [0] := by rw [Digits.values, alone]; rfl
    rw [alone, values]
    cases rest with
    | nil => simp [wholeDigits]
    | cons d rest => simp [wholeDigits, ends d rfl]
  · rw [shape, List.cons_append] at read ⊢
    simp [wholeDigits, isDigit, zero, read]

theorem run?_exponent (cause : Cause) (text : ExponentText) {rest : List Char}
    (ends : NoDigit rest) :
    run? (exponent cause) (text.sign.toList ++ (text.digits.chars ++ rest)) =
      some (text.exponent, rest) := by
  have read := run?_fractionDigits cause text.digits ends
  obtain ⟨c, more, shape, isDigit⟩ := text.digits.first
  have plus : c ≠ '+' := by rintro rfl; exact absurd isDigit (by decide)
  have minus : c ≠ '-' := by rintro rfl; exact absurd isDigit (by decide)
  cases signed : text.sign with
  | none =>
    rw [shape, List.cons_append] at read ⊢
    simp [exponent, plus, minus, read, ExponentText.exponent, signed]
  | some sign =>
    rcases text.isSign sign signed with rfl | rfl <;>
      simp [exponent, read, ExponentText.exponent, signed]

/-- The fraction of a numeral is read before what comes next is. -/
theorem run?_fraction (cause : Cause) (fraction : Option Digits) {rest : List Char}
    (ends : NoDigit rest) (noPoint : rest.head? ≠ some '.')
    (next : Option (List Nat) → Reader β) :
    run? (do
      let fraction ← match ← next? with
        | some '.' => do
            skip
            some <$> fractionDigits cause
        | _ => pure none
      next fraction) (NumeralText.fractionChars fraction ++ rest) =
    run? (next (fraction.map Digits.values)) rest := by
  cases fraction with
  | none =>
    rw [NumeralText.fractionChars, List.nil_append, run?_bind, run?_next?, Option.bind_some]
    split
    · contradiction
    · rfl
  | some digits =>
    have read := run?_fractionDigits cause digits ends
    simp [NumeralText.fractionChars, read]

/-- The exponent of a numeral is read last; what follows the numeral does not look like one. -/
theorem run?_exponentPart (cause : Cause) (exponent : Option ExponentText) {rest : List Char}
    (follows : Follows rest) (next : Option Exponent → Reader β) :
    run? (do
      let exponent ← match ← next? with
        | some 'e' | some 'E' => do
            skip
            some <$> Reader.exponent cause
        | _ => pure none
      next exponent) (NumeralText.exponentChars exponent ++ rest) =
    run? (next (exponent.map ExponentText.exponent)) rest := by
  cases exponent with
  | none =>
    rw [NumeralText.exponentChars, List.nil_append, run?_bind, run?_next?, Option.bind_some]
    split
    · exact absurd rfl (follows.head ‹_›).2.2.1
    · exact absurd rfl (follows.head ‹_›).2.2.2
    · rfl
  | some text =>
    have read := run?_exponent cause text fun c first => (follows.head first).1
    rcases text.isLetter with letter | letter <;>
      simp [NumeralText.exponentChars, ExponentText.chars, letter, read]

/-- A numeral is read whole, whatever follows it. -/
theorem run?_numeral (cause : Cause) (text : NumeralText) {rest : List Char}
    (follows : Follows rest) :
    run? (numeral cause) (text.chars ++ rest) = some (text.numeral, rest) := by
  have ends : NoDigit rest := fun c first => (follows.head first).1
  have exponentEnds : NoDigit (NumeralText.exponentChars text.exponent ++ rest) ∧
      (NumeralText.exponentChars text.exponent ++ rest).head? ≠ some '.' := by
    cases text.exponent with
    | none => exact ⟨ends, fun first => (follows.head first).2.1 rfl⟩
    | some exponent =>
      simp only [NoDigit, NumeralText.exponentChars, ExponentText.chars]
      rcases exponent.isLetter with letter | letter <;> simp [letter]
  have fractionEnds : NoDigit (NumeralText.fractionChars text.fraction ++
      (NumeralText.exponentChars text.exponent ++ rest)) := by
    cases text.fraction with
    | none => exact exponentEnds.1
    | some digits => simp [NoDigit, NumeralText.fractionChars]
  have whole := run?_wholeDigits cause text.whole text.zeroAlone fractionEnds
  rw [NumeralText.chars, List.append_assoc, List.append_assoc, List.append_assoc, numeral,
    NumeralText.numeral]
  cases text.negative with
  | true =>
    simp only [run?_bind, run?_next?, if_true, List.cons_append, List.nil_append, List.head?_cons,
      Option.bind_some, run?_skip, whole]
    refine (run?_fraction cause text.fraction exponentEnds.1 exponentEnds.2 _).trans ?_
    exact run?_exponentPart cause text.exponent follows _
  | false =>
    obtain ⟨c, more, shape, isDigit⟩ := text.whole.first
    have noSign : some c ≠ some '-' := by
      rintro same
      rw [Option.some.inj same] at isDigit
      contradiction
    rw [shape, List.cons_append] at whole ⊢
    simp only [run?_bind, run?_next?, Bool.false_eq_true, if_false, List.nil_append,
      List.head?_cons, Option.bind_some, if_neg noSign, whole, decide_eq_false noSign]
    refine (run?_fraction cause text.fraction exponentEnds.1 exponentEnds.2 _).trans ?_
    exact run?_exponentPart cause text.exponent follows _

theorem run?_number (text : NumeralText) {rest : List Char} (follows : Follows rest) :
    run? number (text.chars ++ rest) = text.numeral.value.toOption.map fun n => (n, rest) := by
  rw [number, run?_bind, run?_numeral .missingValue text follows, Option.bind_some]
  cases text.numeral.value with
  | ok n => rfl
  | error count => rfl

theorem run?_skipNumber (text : NumeralText) {rest : List Char} (follows : Follows rest) :
    run? skipNumber (text.chars ++ rest) = some ((), rest) := by
  rw [skipNumber, run?_bind, run?_numeral .invalidNumber text follows]
  rfl

end Reader

end CollectionTypes.Json
