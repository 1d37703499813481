import CollectionTypes.Json.Text
import CollectionTypes.Proofs.ValueTexts

/-!
# Trees of documents

A value as it stands in a document, with its blanks, its escapes and the digits of its numbers. The
parts of a tree are well formed by their types, so the text of any tree is a value.
-/

namespace CollectionTypes.Json

/-- What may stand between the parts of a document. -/
structure Blank where
  chars : List Char
  blank : ∀ c ∈ chars, isBlank c = true

/-- A part of a text: a character that stands for itself, an escape of one letter, or one of four
hexadecimal digits. -/
inductive Glyph where
  | plain (c : Char) (shown : c ≠ '"' ∧ c ≠ '\\' ∧ ¬c.toNat < 0x20)
  | letter (sign c : Char) (escape : plainEscape? sign = some c)
  | unit (a b c d : Char) (value : Nat) (digits : hexFour? a b c d = some value)

namespace Glyph

def chars : Glyph → List Char
  | .plain c _ => [c]
  | .letter sign _ _ => ['\\', sign]
  | .unit a b c d _ _ => ['\\', 'u', a, b, c, d]

theorem length_chars_pos (glyph : Glyph) : 0 < glyph.chars.length := by
  cases glyph <;> exact Nat.succ_pos _

/-- The characters of a text. There are none where a surrogate stands alone. -/
def decode? : List Glyph → Option (List Char)
  | [] => some []
  | .plain c _ :: glyphs => (decode? glyphs).map (c :: ·)
  | .letter _ c _ :: glyphs => (decode? glyphs).map (c :: ·)
  | .unit _ _ _ _ value _ :: glyphs =>
      if isTrailingSurrogate value then none
      else if isLeadingSurrogate value then
        match glyphs with
        | .unit _ _ _ _ trailing _ :: glyphs =>
            if isTrailingSurrogate trailing then
              (decode? glyphs).map (Char.ofNat (ofSurrogates value trailing) :: ·)
            else none
        | _ => none
      else (decode? glyphs).map (Char.ofNat value :: ·)

end Glyph

/-- A text between quotes. -/
def quotedGlyphs (glyphs : List Glyph) : List Char :=
  '"' :: (glyphs.flatMap Glyph.chars ++ ['"'])

structure Digits where
  chars : List Char
  nonempty : chars ≠ []
  digits : ∀ c ∈ chars, c.isDigit = true

def Digits.values (digits : Digits) : List Nat :=
  digits.chars.map digitValue

theorem Digits.first (digits : Digits) :
    ∃ c more, digits.chars = c :: more ∧ c.isDigit = true := by
  cases shape : digits.chars with
  | nil => exact absurd shape digits.nonempty
  | cons c more => exact ⟨c, more, rfl, digits.digits c (shape ▸ List.mem_cons_self)⟩

structure ExponentText where
  letter : Char
  sign : Option Char
  digits : Digits
  isLetter : letter = 'e' ∨ letter = 'E'
  isSign : ∀ c ∈ sign, c = '+' ∨ c = '-'

namespace ExponentText

def chars (exponent : ExponentText) : List Char :=
  exponent.letter :: (exponent.sign.toList ++ exponent.digits.chars)

def exponent (text : ExponentText) : Exponent :=
  ⟨text.sign = some '-', text.digits.values⟩

end ExponentText

/-- A numeral as it is written. -/
structure NumeralText where
  negative : Bool
  whole : Digits
  fraction : Option Digits
  exponent : Option ExponentText
  zeroAlone : whole.chars.head? = some '0' → whole.chars = ['0']

namespace NumeralText

def fractionChars : Option Digits → List Char
  | none => []
  | some digits => '.' :: digits.chars

def exponentChars : Option ExponentText → List Char
  | none => []
  | some exponent => exponent.chars

def chars (text : NumeralText) : List Char :=
  (if text.negative then ['-'] else []) ++
    (text.whole.chars ++ (fractionChars text.fraction ++ exponentChars text.exponent))

def numeral (text : NumeralText) : Numeral :=
  ⟨text.negative, text.whole.values, text.fraction.map Digits.values,
    text.exponent.map ExponentText.exponent⟩

end NumeralText

/-- An element of a list with the blanks around it. -/
structure Item (τ : Type) where
  before : Blank
  value : τ
  behind : Blank

/-- A member of an object with the blanks around its parts. -/
structure Entry (τ : Type) where
  before : Blank
  key : List Glyph
  afterKey : Blank
  beforeValue : Blank
  value : τ
  behind : Blank

/-- The key of a member, where it can be read. -/
def Entry.key? {τ : Type} (entry : Entry τ) : Option String :=
  (Glyph.decode? entry.key).map String.ofList

/-- A value of a document. `last` is the blank before the closing bracket. -/
inductive Tree where
  | null
  | bool (value : Bool)
  | number (numeral : NumeralText)
  | text (glyphs : List Glyph)
  | list (items : List (Item Tree)) (last : Blank)
  | object (entries : List (Entry Tree)) (last : Blank)

/-- Pieces with commas between them, from the first one on or behind it. -/
def joined {ι : Type} (piece : ι → List Char) : Bool → List ι → List Char
  | _, [] => []
  | first, item :: items => separator first ++ (piece item ++ joined piece false items)

namespace Tree

mutual

def chars : Tree → List Char
  | .null => 'n' :: "ull".toList
  | .bool true => 't' :: "rue".toList
  | .bool false => 'f' :: "alse".toList
  | .number numeral => numeral.chars
  | .text glyphs => quotedGlyphs glyphs
  | .list items last => '[' :: (itemsChars true items ++ (last.chars ++ [']']))
  | .object entries last => '\x7b' :: (entriesChars true entries ++ (last.chars ++ ['\x7d']))

def itemsChars : Bool → List (Item Tree) → List Char
  | _, [] => []
  | first, ⟨before, value, behind⟩ :: items =>
      separator first ++
        ((before.chars ++ value.chars) ++ behind.chars ++ itemsChars false items)

def entriesChars : Bool → List (Entry Tree) → List Char
  | _, [] => []
  | first, ⟨before, key, afterKey, beforeValue, value, behind⟩ :: entries =>
      separator first ++
        ((before.chars ++ (quotedGlyphs key ++ (afterKey.chars ++ ':' ::
          (beforeValue.chars ++ value.chars)))) ++ behind.chars ++ entriesChars false entries)

end

end Tree

/-- An element up to the end of its value. -/
def Item.lead (item : Item Tree) : List Char :=
  item.before.chars ++ item.value.chars

/-- A member up to the end of its value. -/
def Entry.lead (entry : Entry Tree) : List Char :=
  entry.before.chars ++ (quotedGlyphs entry.key ++ (entry.afterKey.chars ++ ':' ::
    (entry.beforeValue.chars ++ entry.value.chars)))

namespace Tree

theorem chars_list (items : List (Item Tree)) (last : Blank) :
    (Tree.list items last).chars =
      '[' :: (joined (fun item => item.lead ++ item.behind.chars) true items ++
        (last.chars ++ [']'])) := by
  have each : ∀ first items, itemsChars first items =
      joined (fun item => item.lead ++ item.behind.chars) first items := by
    intro first items
    induction items generalizing first with
    | nil => rfl
    | cons item items ih => rw [itemsChars, ih]; rfl
  rw [chars, each]

theorem chars_object (entries : List (Entry Tree)) (last : Blank) :
    (Tree.object entries last).chars =
      '\x7b' :: (joined (fun entry => entry.lead ++ entry.behind.chars) true entries ++
        (last.chars ++ ['\x7d'])) := by
  have each : ∀ first entries, entriesChars first entries =
      joined (fun entry => entry.lead ++ entry.behind.chars) first entries := by
    intro first entries
    induction entries generalizing first with
    | nil => rfl
    | cons entry entries ih => rw [entriesChars, ih]; rfl
  rw [chars, each]

/-- What holds of a list or an object when it holds of the values in it holds of every tree. -/
theorem induct {P : Tree → Prop} (null : P .null) (bool : ∀ value, P (.bool value))
    (number : ∀ numeral, P (.number numeral)) (text : ∀ glyphs, P (.text glyphs))
    (list : ∀ items last, (∀ item ∈ items, P item.value) → P (.list items last))
    (object : ∀ entries last, (∀ entry ∈ entries, P entry.value) → P (.object entries last))
    (tree : Tree) : P tree :=
  @Tree.rec P (fun items => ∀ item ∈ items, P item.value)
    (fun entries => ∀ entry ∈ entries, P entry.value)
    (fun item => P item.value) (fun entry => P entry.value)
    null bool number text list object
    (fun _ member => nomatch member) (fun _ _ one more => List.forall_mem_cons.mpr ⟨one, more⟩)
    (fun _ member => nomatch member) (fun _ _ one more => List.forall_mem_cons.mpr ⟨one, more⟩)
    (fun _ _ _ held => held) (fun _ _ _ _ _ _ held => held) tree

end Tree

end CollectionTypes.Json
