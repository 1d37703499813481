import CollectionTypes.Proofs.Resolution

/-!
# The order of the input

Collections are sorted before anything else is done with them, and the sort is stable. So a catalog
remembers of the order in which collections were given just the order among those of one name: this
is all that the id look-up, the choice of a failure and the text can depend on.

Specification: sections 4.0b and 11 (sorting, determinism).
-/

namespace CollectionTypes

open Catalog (named nameOrder)

/-- The same collections, with those of each name in the same order. -/
structure Rearranged (left right : List Collection) : Prop where
  perm : left.Perm right
  kept : ∀ name, named name left = named name right

/-- Where no name stands twice, there is no order among collections of one name to keep. -/
theorem Rearranged.of_distinct_names {left right : List Collection} (perm : left.Perm right)
    (distinct : (left.map (·.name)).Nodup) : Rearranged left right where
  perm := perm
  kept := by
    intro name
    have apart : left.Pairwise fun c d => c.name ≠ d.name := List.pairwise_map.mp distinct
    have apartRight : right.Pairwise fun c d => c.name ≠ d.name :=
      perm.pairwise apart fun different => different.symm
    have one : ∀ collections, ∀ c ∈ named name collections, c.name = name :=
      fun _ _ member => beq_iff_eq.mp (List.mem_filter.mp member).2
    have same : ∀ c d, c ∈ named name left → d ∈ named name right → c.name ≠ d.name →
        d.name ≠ c.name → c = d := by
      intro c d inLeft inRight different _
      exact absurd ((one left c inLeft).trans (one right d inRight).symm) different
    exact List.Perm.eq_of_pairwise same (apart.sublist List.filter_sublist)
      (apartRight.sublist List.filter_sublist) (perm.filter _)

/-- What a catalog remembers of the order of its collections. -/
theorem Catalog.ofCollections_eq_iff (left right : List Collection) :
    ofCollections left = ofCollections right ↔ Rearranged left right := by
  constructor
  · intro same
    have sorted : nameOrder left = nameOrder right := by
      rw [← ofCollections_eq_nameOrder, same, ofCollections_eq_nameOrder]
    refine ⟨?_, fun name => ?_⟩
    · exact (sorted ▸ nameOrder_perm left).symm.trans (nameOrder_perm right)
    · rw [← named_nameOrder left, sorted, named_nameOrder]
  · intro rearranged
    have sorted : (ofCollections left).collections = (ofCollections right).collections := by
      apply nameOrdered_unique
      · exact ofCollections_nameOrdered left
      · exact ofCollections_nameOrdered right
      · intro name
        rw [named_ofCollections, named_ofCollections, rearranged.kept]
    exact congrArg Catalog.mk sorted

/-- The order of the input has no influence on the result, be it a text or a failure, beyond the
order among collections of one name. Ids may repeat. -/
theorem generate_of_rearranged :
    (∀ left right, Rearranged left right → generate left = generate right) ∧
      ∀ left right : List Collection, left.Perm right → (left.map (·.name)).Nodup →
        generate left = generate right := by
  have rearranged : ∀ left right, Rearranged left right → generate left = generate right := by
    intro left right rearranged
    rw [generate, generate, (Catalog.ofCollections_eq_iff left right).mpr rearranged]
  refine ⟨rearranged, ?_⟩
  intro left right perm distinct
  exact rearranged left right (.of_distinct_names perm distinct)

namespace Forum

/-- A relation to an id that two collections have. -/
def topics : Collection :=
  { Collection.withoutFields "t" "topics" .base with
    schema := some [.plain "author" (.relation "m" (some 1))] }

def members : Collection :=
  .withoutSchema "m" "members" .auth

/-- Has the name of the topics and the id of the members. -/
def closedTopics : Collection :=
  .withoutFields "m" "topics" .auth

theorem generate_forum_rearranged :
    Rearranged [topics, members, closedTopics] [members, topics, closedTopics] ∧
      generate [topics, members, closedTopics] = generate [members, topics, closedTopics] ∧
      guestbook.Perm guestbook.reverse ∧ (guestbook.map (·.name)).Nodup ∧
      generate guestbook = generate guestbook.reverse := by
  have rearranged : Rearranged [topics, members, closedTopics] [members, topics, closedTopics] := by
    refine ⟨.swap members topics [closedTopics], fun name => ?_⟩
    have apart : ¬ (topics.name = name ∧ members.name = name) := by
      rintro ⟨rfl, same⟩
      exact absurd same (by decide)
    simp only [named, List.filter_cons, beq_iff_eq]
    split <;> split <;> simp_all
  have perm : guestbook.Perm guestbook.reverse := (List.reverse_perm guestbook).symm
  have distinct : (guestbook.map (·.name)).Nodup := by decide
  exact ⟨rearranged, generate_of_rearranged.1 _ _ rearranged, perm, distinct,
    generate_of_rearranged.2 _ _ perm distinct⟩

end Forum

end CollectionTypes
