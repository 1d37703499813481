import CollectionTypes.Proofs.Resolution

/-!
# Dangling relations

Generation fails for dangling relations only, and of several it reports the one that comes first:
collections are taken in stable name order and the fields of each in the order of its schema.
Neither kinds of fields, limits nor repeated ids have any other influence on the failure.

Specification: sections 4.5 and 4.6 (an unknown target aborts the whole run).
-/

namespace CollectionTypes

/-- The field is a relation, and none of the collections has the id it refers to. -/
def Dangling (collections : List Collection) (field : Field) (target : String) : Prop :=
  (∃ limit, field.kind = .relation target limit) ∧ ∀ c ∈ collections, c.id ≠ target

/-- All fields in the order of generation: collections by name, fields as declared. -/
def fieldsByName (collections : List Collection) : List Field :=
  (Catalog.nameOrder collections).flatMap (·.fields)

/-- In the order of generation, a dangling relation that no other one stands before. -/
def FirstDangling (collections : List Collection) (target : String) : Prop :=
  ∃ before field after, fieldsByName collections = before ++ field :: after ∧
    Dangling collections field target ∧ ∀ earlier ∈ before, ∀ other,
      ¬ Dangling collections earlier other

private theorem dangling?_ofCollections (collections : List Collection) (field : Field)
    (target : String) :
    (Catalog.ofCollections collections).dangling? field = some target ↔
      Dangling collections field target := by
  simp only [Catalog.dangling?_eq_some_iff, Catalog.mem_ofCollections, Dangling]

/-- The search stops at the first dangling relation. -/
theorem firstDangling?_eq_some_iff (collections : List Collection) (target : String) :
    (Catalog.ofCollections collections).firstDangling? = some target ↔
      FirstDangling collections target := by
  rw [Catalog.firstDangling?, Catalog.ofCollections_eq_nameOrder, List.findSome?_eq_some_iff]
  simp only [FirstDangling, fieldsByName, Option.eq_none_iff_forall_ne_some, ne_eq,
    dangling?_ofCollections]

/-- The search goes through where no relation dangles, in any order. -/
theorem firstDangling?_eq_none_iff (collections : List Collection) :
    (Catalog.ofCollections collections).firstDangling? = none ↔
      ∀ c ∈ collections, ∀ field ∈ c.fields, ∀ target, ¬ Dangling collections field target := by
  rw [Catalog.firstDangling?, List.findSome?_eq_none_iff]
  simp only [List.mem_flatMap, Catalog.mem_ofCollections, Option.eq_none_iff_forall_ne_some, ne_eq,
    dangling?_ofCollections]
  constructor
  · intro resolved c member field declared
    exact resolved field ⟨c, member, declared⟩
  · rintro resolved field ⟨c, member, declared⟩
    exact resolved c member field declared

/-- Success for resolved relations only, and for all of them; otherwise the failure carries the
target of the first dangling relation. -/
theorem generate_stops_at_first_dangling (collections : List Collection) :
    ((∃ text, generate collections = .ok text) ↔
      ∀ c ∈ collections, ∀ field ∈ c.fields, ∀ target limit,
        field.kind = .relation target limit → ∃ d ∈ collections, d.id = target) ∧
    ∀ failure, generate collections = .error failure ↔
      ∃ target, failure = .unresolved ⟨target⟩ ∧ FirstDangling collections target := by
  constructor
  · have settled : (∃ text, generate collections = .ok text) ↔
        (Catalog.ofCollections collections).firstDangling? = none := by
      simp [generate_settle, settle_eq_ok_iff]
    rw [settled, firstDangling?_eq_none_iff]
    constructor
    · intro none c member field declared target limit kind
      by_contra missing
      refine none c member field declared target ⟨⟨limit, kind⟩, ?_⟩
      intro d dMember same
      exact missing ⟨d, dMember, same⟩
    · rintro resolved c member field declared target ⟨⟨limit, kind⟩, missing⟩
      obtain ⟨d, dMember, same⟩ := resolved c member field declared target limit kind
      exact missing d dMember same
  · intro failure
    rw [generate_settle, settle_eq_error_iff, Option.map_eq_some_iff]
    simp only [firstDangling?_eq_some_iff]
    constructor
    · rintro ⟨target, first, rfl⟩
      exact ⟨target, rfl, first⟩
    · rintro ⟨target, rfl, first⟩
      exact ⟨target, first, rfl⟩

end CollectionTypes
