import CollectionTypes.Proofs.DanglingRelations
import CollectionTypes.Proofs.ModuleLines

/-!
# One more collection

What a new collection changes in a module and in its text. Its own pieces come between those of the
others, at the place of its name; with an id of its own it is the target of no relation that was
there before, so the pieces of all other collections stay as they are, line by line.

Specification: section 4.6 (what is listed for each collection, sorted by name).
-/

namespace CollectionTypes

variable {α β : Type}

/-- The pieces in their old order, with one more behind the first `n` of them. -/
def InsertedAt (n : Nat) (piece : α) (pieces more : List α) : Prop :=
  ∃ front back, front.length = n ∧ pieces = front ++ back ∧ more = front ++ piece :: back

theorem InsertedAt.map (f : α → β) {n : Nat} {piece : α} {pieces more : List α}
    (inserted : InsertedAt n piece pieces more) :
    InsertedAt n (f piece) (pieces.map f) (more.map f) := by
  obtain ⟨front, back, place, rfl, rfl⟩ := inserted
  refine ⟨front.map f, back.map f, ?_, List.map_append, ?_⟩
  · rw [List.length_map, place]
  · rw [List.map_append, List.map_cons]

namespace Catalog

/-- How many of the collections have a name that stands before that of `c` or is the same. -/
def position (c : Collection) (collections : List Collection) : Nat :=
  collections.countP fun d => byName d c

variable {c : Collection} {front back placed : List Collection}

end Catalog

namespace TypeScript

open Catalog (position)

/-- Only a collection with a schema has a piece of its own among those of the others. -/
def DescribedInserted (collections : List Collection) (c : Collection) (piece : α)
    (pieces more : List α) : Prop :=
  if c.declaresSchema then
    InsertedAt (position c (collections.filter (·.declaresSchema))) piece pieces more
  else more = pieces

theorem DescribedInserted.map (f : α → β) {collections : List Collection}
    {c : Collection} {piece : α} {pieces more : List α}
    (inserted : DescribedInserted collections c piece pieces more) :
    DescribedInserted collections c (f piece) (pieces.map f) (more.map f) := by
  by_cases declares : c.declaresSchema = true
  · rw [DescribedInserted, if_pos declares] at inserted ⊢
    exact inserted.map f
  · rw [DescribedInserted, if_neg declares] at inserted ⊢
    rw [inserted]

def collectionMember (c : Collection) : EnumMember :=
  ⟨.bare (pascalCase c.name), c.name⟩

/-- Leads from the name of a collection to one of its types. -/
def lookupEntry (typeName : String → String) (c : Collection) : Property :=
  ⟨c.name, false, .one (.declared (typeName c.name))⟩

/-- The pieces of a text that are each about one collection, by the lines that they stand in. -/
structure Pieces where
  members : List String
  records : List (List String)
  responses : List (List String)
  recordEntries : List String
  responseEntries : List String

namespace Pieces

def ofModule (m : Module) : Pieces where
  members := m.collections.members.map (·.line)
  records := m.records.map (·.lines)
  responses := m.responses.map (·.lines)
  recordEntries := m.recordLookup.properties.map (·.line)
  responseEntries := m.responseLookup.properties.map (·.line)

/-- The lines of a text with these pieces. All others are the same in every text, but for the blank
line in a body without any piece. -/
def lines (p : Pieces) : List String :=
  separated ([
    generatedComment,
    "export enum Collections \x7b" :: (bodyLines p.members ++ ["\x7d"]),
    aliasLines,
    baseSystemFieldsLines,
    authSystemFieldsLines,
    recordComment] ++
  p.records ++ [
    responseComment ++ p.responses.flatten,
    "export type CollectionRecords = \x7b" :: (bodyLines p.recordEntries ++ ["\x7d"]),
    "export type CollectionResponses = \x7b" :: (bodyLines p.responseEntries ++ ["\x7d"])])

end Pieces

/-- What `c` adds to the lines of a text, piece by piece. -/
structure LinesInserted (collections : List Collection) (c : Collection)
    (response : ResponseDeclaration) (old new : Pieces) : Prop where
  members : InsertedAt (position c collections)
    ("\t" ++ pascalCase c.name ++ " = " ++ literal c.name ++ ",") old.members new.members
  records : DescribedInserted collections c (RecordBlock.ofCollection c).lines
    old.records new.records
  responses : DescribedInserted collections c response.lines old.responses new.responses
  recordEntries : DescribedInserted collections c
    ("\t" ++ propertyKey c.name ++ ": " ++ recordTypeName c.name)
    old.recordEntries new.recordEntries
  responseEntries : DescribedInserted collections c
    ("\t" ++ propertyKey c.name ++ ": " ++ responseTypeName c.name)
    old.responseEntries new.responseEntries

/-- What `c` adds to a module, sequence by sequence. -/
structure CollectionInserted (collections : List Collection) (c : Collection)
    (response : ResponseDeclaration) (m more : Module) : Prop where
  members : InsertedAt (position c collections) (collectionMember c)
    m.collections.members more.collections.members
  records : DescribedInserted collections c (.ofCollection c) m.records more.records
  responses : DescribedInserted collections c response m.responses more.responses
  recordEntries : DescribedInserted collections c (lookupEntry recordTypeName c)
    m.recordLookup.properties more.recordLookup.properties
  responseEntries : DescribedInserted collections c (lookupEntry responseTypeName c)
    m.responseLookup.properties more.responseLookup.properties
  /-- With the five sequences taken back, all is as it was. -/
  frame : m = {
    collections := { more.collections with members := m.collections.members }
    records := m.records
    responses := m.responses
    recordLookup := { more.recordLookup with properties := m.recordLookup.properties }
    responseLookup := { more.responseLookup with properties := m.responseLookup.properties } }

variable {collections : List Collection} {c : Collection}

section Texts

theorem line_lookupEntry (typeName : String → String) (c : Collection) :
    (lookupEntry typeName c).line = "\t" ++ propertyKey c.name ++ ": " ++ typeName c.name := by
  rw [lookupEntry, Property.line, Property.text, Property.marker, if_neg Bool.false_ne_true,
    String.append_empty, ← String.append_assoc, ← String.append_assoc]
  rfl

/-- Each line belongs to one piece, so the lines grow as the module does. -/
theorem CollectionInserted.lines {response : ResponseDeclaration} {m more : Module}
    (inserted : CollectionInserted collections c response m more) :
    LinesInserted collections c response (.ofModule m) (.ofModule more) where
  members := inserted.members.map EnumMember.line
  records := inserted.records.map RecordBlock.lines
  responses := inserted.responses.map ResponseDeclaration.lines
  recordEntries := line_lookupEntry recordTypeName c ▸ inserted.recordEntries.map Property.line
  responseEntries := line_lookupEntry responseTypeName c ▸ inserted.responseEntries.map Property.line

end Texts

/-- Its name stands between those of the guest book and of its visitors. -/
def polls : Collection :=
  { Collection.withoutFields "p" "polls" .auth with
    schema := some [.plain "book" (.relation "g" (some 1)), .plain "next" (.relation "p" none)] }

end TypeScript

end CollectionTypes
