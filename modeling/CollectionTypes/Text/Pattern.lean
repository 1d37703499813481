import CollectionTypes.Text.Alphanumeric
import CollectionTypes.Text.Pattern.CharacterClass

/-!
# Patterns

Whether a text can be read as a regular expression. It is made of atoms, classes in brackets, groups
in parentheses, alternatives and repetitions. Braces count repetitions, and no text in which they
close is ever read, so none can be read in which they open.
-/

namespace CollectionTypes.Text.Pattern

/-- Parts stand beside each other. Flags count as one that cannot be repeated. -/
inductive Part where
  | flags
  | repeatable (depth : Nat)
  deriving DecidableEq, Repr

def Part.depth : Part → Nat
  | .flags => 0
  | .repeatable depth => depth

/-- What was read of a group: how deep each alternative is nested, and the parts behind the last
mark between them, from the last one on. -/
structure Content where
  alternatives : List Nat
  parts : List Part
  deriving DecidableEq, Repr

namespace Content

def empty : Content := ⟨[], []⟩

def add (content : Content) (part : Part) : Content :=
  { content with parts := part :: content.parts }

def finishAlternative (content : Content) : Content :=
  ⟨depthOf (content.parts.map Part.depth) :: content.alternatives, []⟩

def depth (content : Content) : Nat :=
  depthOf content.finishAlternative.alternatives

/-- Repeats the last part, which makes it a part of another. -/
def repeatLast? (content : Content) : Option Content :=
  match content.parts with
  | .repeatable depth :: parts => some { content with parts := .repeatable (1 + depth) :: parts }
  | _ => none

end Content

/-- What an opening parenthesis begins. -/
inductive Opening where
  | group (flags : Flags) (name : Option (List Char))
  | flags (flags : Flags)
  deriving DecidableEq, Repr

def isGroupName : List Char → Bool
  | [] => false
  | first :: rest =>
      (first = '_' || isLetter first) &&
        rest.all fun c => isAlphanumeric c || c = '_' || c = '.' || c = '[' || c = ']'

/-- A name that ends in `>`, and the rest behind it. -/
def groupName? (text : List Char) : Option (List Char × List Char) :=
  let name := text.takeWhile (· ≠ '>')
  match text.drop name.length with
  | _ :: rest => if isGroupName name then some (name, rest) else none
  | [] => none

/-- Reads what stands between a parenthesis and the content of its group. Flags may also stand alone
in parentheses; they hold from there on. -/
def opening? (flags : Flags) (text : List Char) : Option (Opening × List Char) :=
  match flags.next text with
  | '?' :: 'P' :: '<' :: rest | '?' :: '<' :: rest =>
      (groupName? rest).map fun (name, rest) => (.group flags (some name), rest)
  | '?' :: rest =>
      let letters := rest.takeWhile fun c => c ≠ ':' && c ≠ ')'
      match rest.drop letters.length, flags.change? letters with
      | ':' :: rest, some changed => some (.group changed none, rest)
      | ')' :: rest, some changed => if letters.isEmpty then none else some (.flags changed, rest)
      | _, _ => none
  | rest => some (.group flags none, rest)

/-- The names of groups with one more, which no group before it has. -/
def addName? (names : List (List Char)) : Option (List Char) → Option (List (List Char))
  | none => some names
  | some name => if names.contains name then none else some (name :: names)

/-- A repetition may be followed by a sign that makes it as short as it can be. -/
def afterRepetition : List Char → List Char
  | '?' :: rest => rest
  | rest => rest

/-- How deep the content of a group is nested, the names of groups up to its end, and the rest from
its closing parenthesis on. -/
def readContent? : Nat → Flags → List (List Char) → Content → List Char →
    Option (Nat × List (List Char) × List Char)
  | 0, _, _, _, _ => none
  | steps + 1, flags, names, content, text =>
      match flags.next text with
      | [] => some (content.depth, names, [])
      | ')' :: rest => some (content.depth, names, ')' :: rest)
      | '(' :: rest => do
          match ← opening? flags rest with
          | (.flags changed, rest) => readContent? steps changed names (content.add .flags) rest
          | (.group inner name, rest) =>
              let names ← addName? names name
              match ← readContent? steps inner names .empty rest with
              | (depth, names, ')' :: rest) =>
                  readContent? steps flags names (content.add (.repeatable (1 + depth))) rest
              | _ => none
      | '|' :: rest => readContent? steps flags names content.finishAlternative rest
      | '*' :: rest | '+' :: rest | '?' :: rest => do
          readContent? steps flags names (← content.repeatLast?) (afterRepetition rest)
      | '{' :: _ => none
      | '[' :: rest => do
          let (start, rest) ← classStart? flags rest
          let (depth, rest) ← readClass? flags (rest.length + 1) start rest
          readContent? steps flags names (content.add (.repeatable (1 + depth))) rest
      | c :: rest => do
          let (atom, rest) ← match c with
            | '\\' => escape? flags rest
            | '.' => some (.any, rest)
            | '^' | '$' => some (.place, rest)
            | c => some (.character c.toNat false, rest)
          if atom.isReadable flags then
            readContent? steps flags names (content.add (.repeatable 0)) rest
          else none

/-- The deepest nesting with which a pattern can be read. -/
def depthLimit : Nat := 250

end Pattern

/-- Every step reads a character, so the length of the text bounds the steps. -/
def isPattern (text : List Char) : Bool :=
  match Pattern.readContent? (text.length + 1) .start [] .empty text with
  | some (depth, _, []) => depth ≤ Pattern.depthLimit
  | _ => false

end CollectionTypes.Text
