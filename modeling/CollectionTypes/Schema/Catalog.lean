import CollectionTypes.Schema.Collection
import Std.Data.TreeMap

/-!
# Catalogs

The collections of a database in the byte order of their names. Collections of one name keep the
order in which they were given. An index leads from ids to places in this order.

Specification: section 4.0b (intermediate representation).
-/

namespace CollectionTypes

structure Catalog where
  collections : List Collection

/-- A relation to an id that no collection has. -/
structure UnresolvedTarget where
  id : String
  deriving DecidableEq, Repr

def UnresolvedTarget.message (error : UnresolvedTarget) : String :=
  "could not find collection with id '" ++ error.id ++ "'"

namespace Catalog

/-- Puts a collection behind all whose name stands before its own or is the same. -/
def place (c : Collection) : List Collection → List Collection
  | [] => [c]
  | d :: rest => if Text.atOrBefore d.name c.name then d :: place c rest else c :: d :: rest

def ofCollections (collections : List Collection) : Catalog :=
  ⟨collections.foldl (fun placed c => place c placed) []⟩

/-- Where the collection with each id stands. The collections are entered one after the other, so a
repeated id is left with the last of its places. -/
def places (collections : List Collection) : Std.TreeMap String Nat :=
  collections.zipIdx.foldl (fun places (c, place) => places.insert c.id place) ∅

def lookup? (catalog : Catalog) (id : String) : Option Collection :=
  (places catalog.collections)[id]?.bind fun place => catalog.collections[place]?

def resolve (catalog : Catalog) (id : String) : Except UnresolvedTarget Collection :=
  match catalog.lookup? id with
  | some c => .ok c
  | none => .error ⟨id⟩

/-- The collections that declare a schema. -/
def described (catalog : Catalog) : List Collection :=
  catalog.collections.filter (·.declaresSchema)

end Catalog

end CollectionTypes
