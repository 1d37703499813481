import CollectionTypes.TypeScript.Declaration

/-!
# Reading lines

What the lines of a declaration say to a reader who knows nothing of the database: a property has a
key, a mark where it is optional, and a type; an enum member has a key and a text. A literal is read
up to the first quote that is not escaped, so neither a key nor a text can end before it is over,
and each line gives back the property or the member that it was written for.
-/

namespace CollectionTypes.TypeScript

/-- What a letter behind a backslash stands for. -/
def unescaped? : Char → Option Char
  | '"' => some '"'
  | '\\' => some '\\'
  | 'n' => some '\n'
  | 'r' => some '\r'
  | 't' => some '\t'
  | _ => none

/-- The text up to the closing quote, and what stands behind the quote; `escaped` tells whether a
backslash was read last. A literal does not go on behind the end of a line. -/
def readQuoted? (escaped : Bool) : List Char → Option (List Char × List Char)
  | [] => none
  | c :: rest =>
      if escaped then
        (unescaped? c).bind fun c => (readQuoted? false rest).map fun (text, behind) =>
          (c :: text, behind)
      else if c = '"' then some ([], rest)
      else if c = '\\' then readQuoted? true rest
      else if c = '\n' ∨ c = '\r' then none
      else (readQuoted? false rest).map fun (text, behind) => (c :: text, behind)

def readLiteral? : List Char → Option (String × List Char)
  | [] => none
  | c :: rest =>
      if c = '"' then
        (readQuoted? false rest).map fun (text, behind) => (String.ofList text, behind)
      else none

/-- A key is a literal or an identifier. -/
def readKey? (text : List Char) : Option (String × List Char) :=
  if text.head? = some '"' then readLiteral? text
  else
    let name := String.ofList (text.takeWhile isIdentifierPart)
    if isPlainIdentifier name then some (name, text.dropWhile isIdentifierPart) else none

/-- What the line of a property says. -/
structure PropertyLine where
  key : String
  optional : Bool
  type : String
  deriving DecidableEq, Repr

/-- The type is all that stands behind the colon. -/
def readTyped? (key : String) : List Char → Option PropertyLine
  | '?' :: ':' :: ' ' :: type => some ⟨key, true, String.ofList type⟩
  | ':' :: ' ' :: type => some ⟨key, false, String.ofList type⟩
  | _ => none

def PropertyLine.read? (line : String) : Option PropertyLine :=
  match line.toList with
  | '\t' :: text => (readKey? text).bind fun (key, behind) => readTyped? key behind
  | _ => none

/-- The key of an enum member is a literal, or all up to the next blank. -/
def readEnumKey? (text : List Char) : Option (EnumKey × List Char) :=
  if text.head? = some '"' then
    (readLiteral? text).map fun (literal, behind) => (.quoted literal, behind)
  else some (.bare (String.ofList (text.takeWhile (· != ' '))), text.dropWhile (· != ' '))

/-- Behind the value there is a comma and nothing else. -/
def readValue? (key : EnumKey) : List Char → Option EnumMember
  | ' ' :: '=' :: ' ' :: text =>
      match readLiteral? text with
      | some (value, [',']) => some ⟨key, value⟩
      | _ => none
  | _ => none

def EnumMember.read? (line : String) : Option EnumMember :=
  match line.toList with
  | '\t' :: text => (readEnumKey? text).bind fun (key, behind) => readValue? key behind
  | _ => none

section Literals

/-- A turn of the reader takes all that one character of a text is written as. -/
theorem readQuoted?_literalChar (c : Char) (rest : List Char) :
    readQuoted? false (literalChar c ++ rest) =
      (readQuoted? false rest).map fun (text, behind) => (c :: text, behind) := by
  have escape : ∀ letter, unescaped? letter = some c →
      readQuoted? false ('\\' :: letter :: rest) =
        (readQuoted? false rest).map fun (text, behind) => (c :: text, behind) := by
    intro letter means
    have noQuote : '\\' ≠ '"' := by decide
    rw [readQuoted?, if_neg Bool.false_ne_true, if_neg noQuote, if_pos rfl, readQuoted?, if_pos rfl,
      means, Option.bind_some]
  rw [literalChar]
  split
  next quote => exact escape '"' (by rw [quote]; rfl)
  next noQuote =>
    split
    next backslash => exact escape '\\' (by rw [backslash]; rfl)
    next noEscape =>
      split
      next newline => exact escape 'n' (by rw [newline]; rfl)
      next noNewline =>
        split
        next carriage => exact escape 'r' (by rw [carriage]; rfl)
        next noCarriage =>
          split
          next tab => exact escape 't' (by rw [tab]; rfl)
          · rw [List.singleton_append, readQuoted?, if_neg Bool.false_ne_true, if_neg noQuote,
              if_neg noEscape, if_neg (not_or.mpr ⟨noNewline, noCarriage⟩)]

theorem readQuoted?_escaped (text rest : List Char) :
    readQuoted? false (text.flatMap literalChar ++ '"' :: rest) = some (text, rest) := by
  induction text with
  | nil =>
    rw [List.flatMap_nil, List.nil_append, readQuoted?, if_neg Bool.false_ne_true, if_pos rfl]
  | cons c text ih =>
    rw [List.flatMap_cons, List.append_assoc, readQuoted?_literalChar, ih, Option.map_some]

/-- A literal is read back, and nothing of what stands behind it. -/
theorem readLiteral?_literal (s : String) (rest : List Char) :
    readLiteral? ((literal s).toList ++ rest) = some (s, rest) := by
  rw [literal, String.toList_ofList, List.cons_append, List.append_assoc, List.singleton_append,
    readLiteral?, if_pos rfl, readQuoted?_escaped, Option.map_some]
  exact congrArg (fun text => some (text, rest)) String.ofList_toList

theorem head?_literal (s : String) (rest : List Char) :
    ((literal s).toList ++ rest).head? = some '"' := by
  rw [literal, String.toList_ofList, List.cons_append, List.head?_cons]

end Literals

section Keys

theorem all_isIdentifierPart {name : String} (plain : isPlainIdentifier name = true) :
    ∀ c ∈ name.toList, isIdentifierPart c = true := by
  rw [isPlainIdentifier] at plain
  split at plain
  · exact absurd plain Bool.false_ne_true
  next first rest shape =>
    obtain ⟨start, parts⟩ := Bool.and_eq_true_iff.mp plain
    intro c member
    rw [shape] at member
    rcases List.mem_cons.mp member with rfl | inRest
    · simp only [isIdentifierStart, Bool.or_eq_true] at start
      simp only [isIdentifierPart, isWordChar, Char.isAlphanum, Bool.or_eq_true]
      rcases start with (letter | underscore) | dollar
      · exact Or.inl (Or.inl (Or.inl letter))
      · exact Or.inl (Or.inr underscore)
      · exact Or.inr dollar
    · exact List.all_eq_true.mp parts c inRest

/-- An identifier is read up to what cannot belong to it. -/
theorem readKey?_identifier {name : String} (plain : isPlainIdentifier name = true)
    {c : Char} (ends : isIdentifierPart c = false) (rest : List Char) :
    readKey? (name.toList ++ c :: rest) = some (name, c :: rest) := by
  have parts := all_isIdentifierPart plain
  have noQuote : (name.toList ++ c :: rest).head? ≠ some '"' := by
    cases shape : name.toList with
    | nil => simp [isPlainIdentifier, shape] at plain
    | cons first more =>
      rw [List.cons_append, List.head?_cons]
      intro quote
      have part := parts first (by rw [shape]; exact List.mem_cons_self)
      rw [Option.some.inj quote] at part
      exact absurd part (by decide)
  have stop : ¬isIdentifierPart c = true := by rw [ends]; exact Bool.false_ne_true
  rw [readKey?, if_neg noQuote, List.takeWhile_append_of_pos parts,
    List.dropWhile_append_of_pos parts, List.takeWhile_cons_of_neg stop,
    List.dropWhile_cons_of_neg stop, List.append_nil, String.ofList_toList]
  exact if_pos plain

theorem readKey?_propertyKey (name : String) {c : Char} (ends : isIdentifierPart c = false)
    (rest : List Char) :
    readKey? ((propertyKey name).toList ++ c :: rest) = some (name, c :: rest) := by
  rw [propertyKey]
  split
  next bare => exact readKey?_identifier (Bool.and_eq_true_iff.mp bare).1 ends rest
  · rw [readKey?, if_pos (head?_literal name _), readLiteral?_literal]

/-- Behind the key stands what an identifier cannot go on with, and a reader finds the mark and the
type there. -/
theorem Property.text_split (p : Property) :
    ∃ c behind, p.text.toList = (propertyKey p.name).toList ++ c :: behind ∧
      isIdentifierPart c = false ∧
      ∀ key, readTyped? key (c :: behind) = some ⟨key, p.optional, p.type.text⟩ := by
  have text : p.text.toList =
      (propertyKey p.name).toList ++ (p.marker.toList ++ ':' :: ' ' :: p.type.text.toList) := by
    simp only [Property.text, String.append_assoc, String.toList_append]
    rfl
  rw [text, marker]
  cases p.optional with
  | true =>
    refine ⟨'?', _, rfl, by decide, fun key => ?_⟩
    change some (⟨key, true, String.ofList p.type.text.toList⟩ : PropertyLine) = _
    rw [String.ofList_toList]
  | false =>
    refine ⟨':', _, rfl, by decide, fun key => ?_⟩
    change some (⟨key, false, String.ofList p.type.text.toList⟩ : PropertyLine) = _
    rw [String.ofList_toList]

/-- The line of a property says what the property is, whatever its name holds. -/
theorem PropertyLine.read?_line (p : Property) :
    read? p.line = some ⟨p.name, p.optional, p.type.text⟩ := by
  obtain ⟨c, behind, split, ends, typed⟩ := p.text_split
  have text : p.line.toList = '\t' :: ((propertyKey p.name).toList ++ c :: behind) := by
    rw [Property.line, String.toList_append, split]
    rfl
  rw [read?, text]
  simp only [readKey?_propertyKey p.name ends behind, Option.bind_some, typed]

end Keys

section EnumMembers

variable {key : EnumKey}

/-- A bare key that a reader finds again. -/
def EnumKey.Readable : EnumKey → Prop
  | .bare name => ' ' ∉ name.toList ∧ '"' ∉ name.toList
  | .quoted _ => True

theorem readEnumKey?_text (readable : key.Readable) (rest : List Char) :
    readEnumKey? (key.text.toList ++ ' ' :: rest) = some (key, ' ' :: rest) := by
  cases key with
  | quoted text =>
    rw [EnumKey.text, readEnumKey?, if_pos (head?_literal text _), readLiteral?_literal,
      Option.map_some]
  | bare name =>
    obtain ⟨noBlank, noQuote⟩ := readable
    have start : (name.toList ++ ' ' :: rest).head? ≠ some '"' := by
      cases shape : name.toList with
      | nil => simp
      | cons first more =>
        rw [shape] at noQuote
        rw [List.cons_append, List.head?_cons]
        intro quote
        exact noQuote (by rw [Option.some.inj quote]; exact List.mem_cons_self)
    have within : ∀ c ∈ name.toList, (c != ' ') = true := by
      intro c member
      rw [bne_iff_ne]
      rintro rfl
      exact noBlank member
    have taken : (' ' :: rest).takeWhile (· != ' ') = [] := rfl
    have left : (' ' :: rest).dropWhile (· != ' ') = ' ' :: rest := rfl
    rw [EnumKey.text, readEnumKey?, if_neg start, List.takeWhile_append_of_pos within,
      List.dropWhile_append_of_pos within, taken, left, List.append_nil, String.ofList_toList]

/-- The line of an enum member says what the member is. -/
theorem EnumMember.read?_line {m : EnumMember} (readable : m.key.Readable) :
    read? m.line = some m := by
  have text : m.line.toList =
      '\t' :: (m.key.text.toList ++ ' ' :: '=' :: ' ' :: ((literal m.value).toList ++ [','])) := by
    simp only [line, String.append_assoc, String.toList_append]
    rfl
  rw [read?, text]
  simp only [readEnumKey?_text readable, Option.bind_some, readValue?, readLiteral?_literal]

end EnumMembers

end CollectionTypes.TypeScript
