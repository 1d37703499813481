import CollectionTypes.Proofs.NameOrder
import Mathlib.Data.List.Induction

/-!
# The index of ids

A catalog is a sorted list with an index. The index is filled in the order of the list and later
entries take the place of earlier ones, so it leads from an id to the last collection that has it,
and never beyond the list.

Specification: section 4.0b (the index of ids).
-/

namespace CollectionTypes.Catalog

/-- One more collection enters its own place, over that of an earlier one with its id. -/
theorem places_concat (collections : List Collection) (c : Collection) :
    places (collections ++ [c]) = (places collections).insert c.id collections.length := by
  rw [places, List.zipIdx_append, List.foldl_append, Nat.zero_add]
  rfl

theorem getElem?_places_concat (collections : List Collection) (c : Collection) (id : String) :
    (places (collections ++ [c]))[id]? =
      if c.id = id then some collections.length else (places collections)[id]? := by
  rw [places_concat, Std.TreeMap.getElem?_insert]
  simp only [Std.LawfulEqCmp.compare_eq_iff_eq]

/-- Every entry leads to a collection of the list, and to one with the id of the entry. -/
theorem exists_of_place {collections : List Collection} {id : String} {place : Nat}
    (entered : (places collections)[id]? = some place) :
    ∃ c, collections[place]? = some c ∧ c.id = id := by
  induction collections using List.reverseRecOn with
  | nil => simp [places] at entered
  | append_singleton front c ih =>
    rw [getElem?_places_concat] at entered
    split at entered
    next own =>
      rw [← Option.some.inj entered]
      exact ⟨c, List.getElem?_concat_length, own⟩
    · obtain ⟨d, stands, same⟩ := ih entered
      have within : place < front.length := (List.getElem?_eq_some_iff.mp stands).1
      exact ⟨d, by rw [List.getElem?_append_left within, stands], same⟩

theorem lookup?_eq_findRev? (catalog : Catalog) (id : String) :
    catalog.lookup? id = catalog.collections.findRev? (·.id == id) := by
  obtain ⟨collections⟩ := catalog
  rw [lookup?, List.findRev?_eq_find?_reverse]
  induction collections using List.reverseRecOn with
  | nil => simp [places]
  | append_singleton front c ih =>
    rw [getElem?_places_concat, List.reverse_append, List.reverse_singleton,
      List.singleton_append, List.find?_cons]
    by_cases own : c.id = id
    · simp [own]
    · -- The entries for other ids lead into the front, where nothing has changed.
      have within : ((places front)[id]?.bind fun place => (front ++ [c])[place]?) =
          (places front)[id]?.bind fun place => front[place]? := by
        apply Option.bind_congr
        intro place entered
        obtain ⟨d, stands, _⟩ := exists_of_place entered
        exact List.getElem?_append_left (List.getElem?_eq_some_iff.mp stands).1
      rw [if_neg own, within, ih, beq_eq_false_iff_ne.mpr own]

theorem lookup?_eq_none_iff (catalog : Catalog) (id : String) :
    catalog.lookup? id = none ↔ ∀ c ∈ catalog.collections, c.id ≠ id := by
  simp [lookup?_eq_findRev?]

/-- The last collection of the catalog that has the id. -/
theorem lookup?_eq_some_iff (catalog : Catalog) (id : String) (c : Collection) :
    catalog.lookup? id = some c ↔ c.id = id ∧ ∃ before after,
      catalog.collections = before ++ c :: after ∧ ∀ d ∈ after, d.id ≠ id := by
  rw [lookup?_eq_findRev?, List.findRev?_eq_find?_reverse, List.find?_eq_some_iff_append]
  constructor
  · rintro ⟨same, after, before, split, others⟩
    refine ⟨beq_iff_eq.mp same, before.reverse, after.reverse, ?_, ?_⟩
    · rw [← List.reverse_reverse catalog.collections, split]
      simp
    · intro d member
      simpa using others d (List.mem_reverse.mp member)
  · rintro ⟨same, before, after, split, others⟩
    refine ⟨beq_iff_eq.mpr same, after.reverse, before.reverse, ?_, ?_⟩
    · rw [split]
      simp
    · intro d member
      simpa using others d (List.mem_reverse.mp member)

theorem mem_of_lookup? {catalog : Catalog} {id : String} {c : Collection}
    (found : catalog.lookup? id = some c) : c ∈ catalog.collections ∧ c.id = id := by
  obtain ⟨same, before, after, split, _⟩ := (lookup?_eq_some_iff catalog id c).mp found
  exact ⟨by rw [split]; simp, same⟩

/-- What can be relied on of the catalog that is made of some collections. -/
structure Faithful (collections : List Collection) (catalog : Catalog) : Prop where
  perm : catalog.collections.Perm collections
  sorted : catalog.collections.Pairwise fun c d => Text.bytes c.name ≤ Text.bytes d.name
  /-- The collections of one name are in the order in which they were given. -/
  stable : ∀ name, catalog.collections.filter (·.name == name) =
    collections.filter (·.name == name)
  /-- No entry of the index leads beyond the catalog or to a collection with another id. -/
  inRange : ∀ id place, (places catalog.collections)[id]? = some place →
    ∃ c : Collection, catalog.collections[place]? = some c ∧ c.id = id
  missing : ∀ id, catalog.lookup? id = none ↔ ∀ c ∈ collections, c.id ≠ id
  /-- Of the collections with one id the last one in the catalog is found. -/
  found : ∀ id c, catalog.lookup? id = some c ↔ c.id = id ∧ ∃ before after,
    catalog.collections = before ++ c :: after ∧ ∀ d ∈ after, d.id ≠ id
  resolved : ∀ id c, catalog.resolve id = .ok c ↔ catalog.lookup? id = some c
  unresolved : ∀ id failure, catalog.resolve id = .error failure ↔
    catalog.lookup? id = none ∧ failure = ⟨id⟩
  /-- Nothing but the collections with a schema, all of them and none of them twice. -/
  described : catalog.described.Perm (collections.filter (·.schema.isSome))
  inOrder : catalog.described.Sublist catalog.collections

theorem resolve_eq_ok_iff (catalog : Catalog) (id : String) (c : Collection) :
    catalog.resolve id = .ok c ↔ catalog.lookup? id = some c := by
  rw [resolve]
  cases catalog.lookup? id <;> simp

theorem resolve_eq_error_iff (catalog : Catalog) (id : String) (failure : UnresolvedTarget) :
    catalog.resolve id = .error failure ↔ catalog.lookup? id = none ∧ failure = ⟨id⟩ := by
  rw [resolve]
  cases catalog.lookup? id <;> simp [eq_comm]

theorem ofCollections_faithful (collections : List Collection) :
    Faithful collections (ofCollections collections) where
  perm := ofCollections_perm collections
  sorted := by
    apply (ofCollections_nameOrdered collections).imp
    intro c d ordered
    exact of_decide_eq_true ordered
  stable := named_ofCollections collections
  inRange := fun _ _ entered => exists_of_place entered
  missing := by
    intro id
    rw [lookup?_eq_none_iff]
    simp only [mem_ofCollections]
  found := lookup?_eq_some_iff (ofCollections collections)
  resolved := resolve_eq_ok_iff (ofCollections collections)
  unresolved := resolve_eq_error_iff (ofCollections collections)
  described := by
    rw [described]
    exact (ofCollections_perm collections).filter _
  inOrder := List.filter_sublist

end CollectionTypes.Catalog
