import CollectionTypes.Text.Pattern.Atom

/-!
# Classes of characters in patterns

A class stands in brackets. It is made of characters, ranges, sets and classes, and of operators
between these. A class is read for how deeply its parts are nested in each other.
-/

namespace CollectionTypes.Text.Pattern

/-- How deep parts are nested that stand beside each other: two or more of them make a part of their
own. -/
def depthOf : List Nat → Nat
  | [] => 0
  | [depth] => depth
  | depths => 1 + depths.foldl max 0

/-- What was read of a class: how deep that in front of the last operator is nested, if there is
one, and each item behind it. -/
structure ClassContent where
  operand : Option Nat
  items : List Nat
  deriving DecidableEq, Repr

namespace ClassContent

def empty : ClassContent := ⟨none, []⟩

def add (content : ClassContent) (depth : Nat) : ClassContent :=
  { content with items := depth :: content.items }

def depth (content : ClassContent) : Nat :=
  match content.operand with
  | none => depthOf content.items
  | some operand => 1 + max operand (depthOf content.items)

/-- An operator takes all that is in front of it. -/
def operator (content : ClassContent) : ClassContent :=
  ⟨some content.depth, []⟩

end ClassContent

def classNames : List String :=
  ["alnum", "alpha", "ascii", "blank", "cntrl", "digit", "graph", "lower", "print", "punct",
   "space", "upper", "word", "xdigit"]

/-- A name between colons behind a bracket in a class: whether it is negated, and the rest behind
its closing bracket. -/
def namedClass? : List Char → Option (Bool × List Char)
  | ':' :: text =>
      let (negated, text) := match text with
        | '^' :: rest => (true, rest)
        | text => (false, text)
      let name := text.takeWhile (· ≠ ':')
      match text.drop name.length with
      | ':' :: ']' :: rest =>
          if classNames.contains (String.ofList name) then some (negated, rest) else none
      | _ => none
  | _ => none

/-- Characters of ASCII by name are characters without Unicode, and others where it is negated. -/
def isReadableName (flags : Flags) (negated : Bool) : Bool :=
  if flags.unicode then !flags.ignoreCase else !negated

def classAtom? (flags : Flags) : List Char → Option (Atom × List Char)
  | [] => none
  | '\\' :: rest => escape? flags rest
  | c :: rest => some (.character c.toNat false, rest)

/-- The rest behind an item of a class, which is a single atom or a range of characters. A dash in
front of a bracket or of another dash joins nothing. -/
def afterItem? (flags : Flags) (text : List Char) : Option (List Char) := do
  let (low, rest) ← classAtom? flags text
  if !low.isReadableInClass flags then none
  else
    match flags.next rest with
    | '-' :: behind =>
        if [some ']', some '-'].contains (flags.ahead? behind) then some ('-' :: behind)
        else
          match low, ← classAtom? flags (flags.next behind) with
          | .character lowCode _, (.character highCode byte, rest) =>
              if lowCode ≤ highCode && (Atom.character highCode byte).isReadableInClass flags then
                some rest
              else none
          | _, _ => none
    | rest => some rest

/-- The dashes that stand first in a class, as items, and the rest behind them. -/
def leadingDashes (flags : Flags) : Nat → ClassContent → List Char → ClassContent × List Char
  | 0, content, text => (content, text)
  | steps + 1, content, text =>
      match flags.next text with
      | '-' :: rest => leadingDashes flags steps (content.add 0) rest
      | rest => (content, rest)

/-- The beginning of a class behind its bracket: a sign that negates it, and items that would mean
something else further on. A negated class goes beyond ASCII. -/
def classStart? (flags : Flags) (text : List Char) : Option (ClassContent × List Char) :=
  let (negated, text) := match flags.next text with
    | '^' :: rest => (true, rest)
    | text => (false, text)
  let (content, text) := match leadingDashes flags text.length .empty text with
    | (⟨none, []⟩, ']' :: rest) => (ClassContent.empty.add 0, rest)
    | start => start
  if negated && !flags.unicode then none
  else if !content.items.isEmpty && !(Atom.character '-'.toNat false).isReadableInClass flags then
    none
  else some (content, text)

/-- How deep a class is nested, and the rest behind its closing bracket. -/
def readClass? (flags : Flags) : Nat → ClassContent → List Char → Option (Nat × List Char)
  | 0, _, _ => none
  | steps + 1, content, text =>
      match flags.next text with
      | [] => none
      | ']' :: rest => some (content.depth, rest)
      | '[' :: rest =>
          match namedClass? rest with
          | some (negated, rest) =>
              if isReadableName flags negated then readClass? flags steps (content.add 0) rest
              else none
          | none => do
              let (start, rest) ← classStart? flags rest
              let (depth, rest) ← readClass? flags steps start rest
              readClass? flags steps (content.add (1 + depth)) rest
      | '&' :: '&' :: rest | '-' :: '-' :: rest | '~' :: '~' :: rest =>
          readClass? flags steps content.operator rest
      | text => do
          readClass? flags steps (content.add 0) (← afterItem? flags text)

end CollectionTypes.Text.Pattern
