import CollectionTypes.Proofs.ReaderSteps
import Mathlib.Tactic.SplitIfs

/-!
# Quoted texts

A text between quotes is read back as it was, whatever characters it has.
-/

namespace CollectionTypes.Json

theorem hexValue?_hexDigit (n : Nat) : hexValue? (hexDigit n) = some (n % 16) := by
  have all : ∀ d : Fin 16, hexValue? (Nat.digitChar d) = some d.val := by decide
  exact all ⟨n % 16, Nat.mod_lt n (by decide)⟩

/-- A control character is below 32, so two of its four digits are zeros. -/
theorem hexFour?_control {c : Char} (control : c.toNat < 0x20) :
    hexFour? '0' '0' (hexDigit (c.toNat / 16)) (hexDigit c.toNat) = some c.toNat := by
  have zero : hexValue? '0' = some 0 := by decide
  simp only [hexFour?, zero, hexValue?_hexDigit]
  change some (((0 * 16 + 0) * 16 + c.toNat / 16 % 16) * 16 + c.toNat % 16) = _
  congr 1
  omega

/-- A character is written as a letter behind a backslash, as the number of a control character, or
as it is. -/
theorem escapeChar_forms (c : Char) :
    (∃ letter, plainEscape? letter = some c ∧ escapeChar c = ['\\', letter]) ∨
    (c.toNat < 0x20 ∧ escapeChar c =
      ['\\', 'u', '0', '0', hexDigit (c.toNat / 16), hexDigit c.toNat]) ∨
    (c ≠ '"' ∧ c ≠ '\\' ∧ ¬c.toNat < 0x20 ∧ escapeChar c = [c]) := by
  generalize written : escapeChar c = form
  unfold escapeChar at written
  split_ifs at written with quote backslash backspace formFeed newline carriage tab control <;>
    subst written
  · exact .inl ⟨'"', by rw [quote]; rfl, rfl⟩
  · exact .inl ⟨'\\', by rw [backslash]; rfl, rfl⟩
  · exact .inl ⟨'b', by rw [backspace]; rfl, rfl⟩
  · exact .inl ⟨'f', by rw [formFeed]; rfl, rfl⟩
  · exact .inl ⟨'n', by rw [newline]; rfl, rfl⟩
  · exact .inl ⟨'r', by rw [carriage]; rfl, rfl⟩
  · exact .inl ⟨'t', by rw [tab]; rfl, rfl⟩
  · exact .inr (.inl ⟨control, rfl⟩)
  · exact .inr (.inr ⟨quote, backslash, control, rfl⟩)

/-- No character vanishes in its escape. -/
theorem escapeChar_ne_nil (c : Char) : escapeChar c ≠ [] := by
  rcases escapeChar_forms c with ⟨letter, _, form⟩ | ⟨_, form⟩ | ⟨_, _, _, form⟩ <;> simp [form]

namespace Reader

/-- A control character is read from its four hexadecimal digits. -/
theorem unicodeEscape_control {c : Char} (control : c.toNat < 0x20) (rest : List Char) :
    unicodeEscape ('0' :: '0' :: hexDigit (c.toNat / 16) :: hexDigit c.toNat :: rest) =
      .ok (c, rest) := by
  have four : hexFour ('0' :: '0' :: hexDigit (c.toNat / 16) :: hexDigit c.toNat :: rest) =
      .ok (c.toNat, rest) := by
    simp only [hexFour, hexFour?_control control]
  have trailing : isTrailingSurrogate c.toNat = false := by
    simp only [isTrailingSurrogate, Bool.and_eq_false_iff, decide_eq_false_iff_not]
    omega
  have leading : isLeadingSurrogate c.toNat = false := by
    simp only [isLeadingSurrogate, Bool.and_eq_false_iff, decide_eq_false_iff_not]
    omega
  rw [unicodeEscape, bind_apply four]
  simp only [trailing, leading, Bool.false_eq_true, if_false, Char.ofNat_toNat, pure_apply]

theorem escape_plain {α : Type} {letter c : Char} (plain : plainEscape? letter = some c)
    (f : Char → α) (unicode : Reader α) (rest : List Char) :
    escape f unicode (letter :: rest) = .ok (f c, rest) := by
  rw [escape, bind_apply (next?_cons _ _)]
  simp only [plain]
  rw [bind_apply (skip_cons letter rest), pure_apply]

theorem escape_unicode {α : Type} (f : Char → α) (unicode : Reader α) (rest : List Char) :
    escape f unicode ('u' :: rest) = unicode rest := by
  have plain : plainEscape? 'u' = none := by decide
  rw [escape, bind_apply (next?_cons _ _)]
  simp only [plain, if_true]
  rw [bind_apply (skip_cons 'u' rest)]

/-- A backslash begins an escape, which stands for one character. -/
theorem textTurn_escaped (read : List Char) {c : Char} {escaped rest : List Char}
    (reads : escape id unicodeEscape escaped = .ok (c, rest)) :
    textTurn read ('\\' :: escaped) = .ok (.again (c :: read), rest) := by
  have solid : '\\' ≠ '"' := by decide
  rw [textTurn, bind_apply (next?_cons _ _)]
  simp only [if_neg solid, if_true]
  rw [bind_apply (skip_cons '\\' escaped), bind_apply reads, pure_apply]

/-- A quote ends the text. -/
theorem textTurn_quote (read rest : List Char) :
    textTurn read ('"' :: rest) = .ok (.done read.reverse, rest) := by
  rw [textTurn, bind_apply (next?_cons _ _)]
  simp only [if_true]
  rw [bind_apply (skip_cons '"' rest), pure_apply]

/-- All other visible characters stand for themselves. -/
theorem textTurn_bare (read : List Char) {c : Char} (noQuote : c ≠ '"') (noEscape : c ≠ '\\')
    (visible : ¬c.toNat < 0x20) (rest : List Char) :
    textTurn read (c :: rest) = .ok (.again (c :: read), rest) := by
  rw [textTurn, bind_apply (next?_cons _ _)]
  simp only [if_neg noQuote, if_neg noEscape, if_neg visible]
  rw [bind_apply (skip_cons c rest), pure_apply]

/-- One turn reads one character from its escape. -/
theorem textTurn_escapeChar (read : List Char) (c : Char) (rest : List Char) :
    textTurn read (escapeChar c ++ rest) = .ok (.again (c :: read), rest) := by
  rcases escapeChar_forms c with
    ⟨letter, plain, form⟩ | ⟨control, form⟩ | ⟨noQuote, noEscape, visible, form⟩
  · rw [form]
    exact textTurn_escaped read (escape_plain plain id unicodeEscape rest)
  · rw [form]
    refine textTurn_escaped read ?_
    exact (escape_unicode id unicodeEscape _).trans (unicodeEscape_control control rest)
  · rw [form]
    exact textTurn_bare read noQuote noEscape visible rest

/-- One turn reads one character of the text, however it was written. -/
theorem turns_text (characters read rest : List Char) :
    Turns textTurn read (characters.flatMap escapeChar ++ '"' :: rest) (read.reverse ++ characters)
      rest := by
  induction characters generalizing read with
  | nil => simpa using Turns.done (textTurn_quote read rest)
  | cons c characters ih =>
    have one := textTurn_escapeChar read c (characters.flatMap escapeChar ++ '"' :: rest)
    have nonempty := List.length_pos_iff.mpr (escapeChar_ne_nil c)
    have more := ih (c :: read)
    rw [List.reverse_cons, List.append_assoc, List.singleton_append] at more
    rw [List.flatMap_cons, List.append_assoc]
    exact .again one (by simp only [List.length_append]; omega) more

/-- A quoted text is read back whole, whatever stands behind it. -/
theorem text_quoted (s : String) (rest : List Char) :
    text ((quoted s).toList ++ rest) = .ok (s, rest) := by
  have read := repeated_of_turns (turns_text s.toList [] rest)
  rw [quoted, String.toList_ofList, List.cons_append, List.cons_append, List.append_assoc,
    List.singleton_append, text, bind_apply (skip_cons '"' _), bind_apply read, pure_apply]
  simp

end Reader

end CollectionTypes.Json
