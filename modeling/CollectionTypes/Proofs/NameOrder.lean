import CollectionTypes.Schema.Catalog

/-!
# Name order

A catalog is built by placing one collection after the other. The order that results is the stable
sort by the bytes of the names: sorting and the order of equal names fix a list, so the catalog and
the sorted list are the same, and nothing else about the way it was built can be seen.

Specification: section 4.0b (the stable sort by name).
-/

namespace CollectionTypes.Catalog

/-- The name of `c` stands before that of `d`, or they have the same name. -/
def byName (c d : Collection) : Bool :=
  Text.atOrBefore c.name d.name

/-- The stable sort by name, said without the catalog. -/
def nameOrder (collections : List Collection) : List Collection :=
  collections.mergeSort byName

/-- The collections of one name, in their order. -/
def named (name : String) (collections : List Collection) : List Collection :=
  collections.filter (·.name == name)

/-- No collection stands behind one of a later name. -/
def NameOrdered (collections : List Collection) : Prop :=
  collections.Pairwise fun c d => byName c d = true

private theorem byName_of_same_name {c d : Collection} (same : c.name = d.name) :
    byName c d = true := by
  rw [byName, same]
  exact Text.atOrBefore_refl d.name

private theorem byName_total (c d : Collection) : (byName c d || byName d c) = true := by
  rw [Bool.or_eq_true]
  exact Text.atOrBefore_total c.name d.name

private theorem byName_flip {c d : Collection} (behind : ¬ byName d c = true) :
    byName c d = true := by
  rcases Bool.or_eq_true_iff.mp (byName_total c d) with before | after
  · exact before
  · exact absurd after behind

private theorem byName_trans (c d e : Collection) (left : byName c d = true)
    (right : byName d e = true) : byName c e = true :=
  Text.atOrBefore_trans left right

private theorem named_append (name : String) (front back : List Collection) :
    named name (front ++ back) = named name front ++ named name back :=
  List.filter_append front back

/-- Placing adds the one collection and loses none. -/
theorem mem_place (c d : Collection) (placed : List Collection) :
    d ∈ place c placed ↔ d = c ∨ d ∈ placed := by
  induction placed with
  | nil => simp [place]
  | cons head rest ih =>
    rw [place]
    split
    · simp only [List.mem_cons, ih]
      exact or_left_comm
    · simp only [List.mem_cons]

/-- A collection is placed where the order stays. -/
theorem place_nameOrdered (c : Collection) (placed : List Collection)
    (ordered : NameOrdered placed) : NameOrdered (place c placed) := by
  induction placed with
  | nil => exact List.pairwise_singleton _ c
  | cons head rest ih =>
    obtain ⟨least, restOrdered⟩ := List.pairwise_cons.mp ordered
    rw [place]
    split
    next headFirst =>
      refine List.pairwise_cons.mpr ⟨?_, ih restOrdered⟩
      intro d member
      rcases (mem_place c d rest).mp member with rfl | old
      · exact headFirst
      · exact least d old
    next headBehind =>
      have cFirst : byName c head = true := byName_flip headBehind
      refine List.pairwise_cons.mpr ⟨?_, ordered⟩
      intro d member
      rcases List.mem_cons.mp member with rfl | old
      · exact cFirst
      · exact byName_trans c head d cFirst (least d old)

/-- A collection comes to stand behind all others of its name. -/
theorem named_place (c : Collection) (placed : List Collection) (name : String)
    (ordered : NameOrdered placed) :
    named name (place c placed) = named name placed ++ named name [c] := by
  induction placed with
  | nil => rfl
  | cons head rest ih =>
    obtain ⟨least, restOrdered⟩ := List.pairwise_cons.mp ordered
    rw [place]
    split
    · simp only [named, List.filter_cons] at ih ⊢
      rw [ih restOrdered]
      split <;> rfl
    next headBehind =>
      by_cases mine : c.name = name
      · -- Everything from `head` on stands strictly behind `c`, so none of it has the name of `c`.
        have others : named name (head :: rest) = [] := by
          apply List.filter_eq_nil_iff.mpr
          intro d member same
          have dSame : d.name = c.name := (beq_iff_eq.mp same).trans mine.symm
          have headD : byName head d = true := by
            rcases List.mem_cons.mp member with rfl | old
            · exact byName_of_same_name rfl
            · exact least d old
          exact headBehind (byName_trans head d c headD (byName_of_same_name dSame))
        rw [← List.singleton_append, named_append, others, List.append_nil, List.nil_append]
      · simp [named, mine]

theorem mem_ofCollections (collections : List Collection) (d : Collection) :
    d ∈ (ofCollections collections).collections ↔ d ∈ collections := by
  have general : ∀ placed : List Collection,
      d ∈ collections.foldl (fun placed c => place c placed) placed ↔
        d ∈ placed ∨ d ∈ collections := by
    induction collections with
    | nil => simp
    | cons c rest ih =>
      intro placed
      rw [List.foldl_cons, ih, mem_place, List.mem_cons]
      simp only [or_assoc, or_left_comm]
  simpa [ofCollections] using general []

/-- One step places one collection; names already in order stay so, and within a name the new one
comes last. -/
private theorem foldl_place (collections placed : List Collection) (ordered : NameOrdered placed) :
    NameOrdered (collections.foldl (fun placed c => place c placed) placed) ∧
      ∀ name, named name (collections.foldl (fun placed c => place c placed) placed) =
        named name placed ++ named name collections := by
  induction collections generalizing placed with
  | nil => exact ⟨ordered, fun name => by simp [named]⟩
  | cons c rest ih =>
    obtain ⟨sorted, kept⟩ := ih (place c placed) (place_nameOrdered c placed ordered)
    refine ⟨sorted, fun name => ?_⟩
    rw [List.foldl_cons, kept, named_place c placed name ordered, List.append_assoc,
      ← named_append, List.singleton_append]

theorem ofCollections_nameOrdered (collections : List Collection) :
    NameOrdered (ofCollections collections).collections :=
  (foldl_place collections [] List.Pairwise.nil).1

/-- Collections of one name keep the order in which they were given. -/
theorem named_ofCollections (collections : List Collection) (name : String) :
    named name (ofCollections collections).collections = named name collections :=
  (foldl_place collections [] List.Pairwise.nil).2 name

theorem nameOrder_nameOrdered (collections : List Collection) :
    NameOrdered (nameOrder collections) :=
  List.pairwise_mergeSort byName_trans byName_total collections

/-- Sorting by name only moves collections. -/
theorem nameOrder_perm (collections : List Collection) :
    (nameOrder collections).Perm collections :=
  List.mergeSort_perm collections byName

/-- Stability: collections of one name are already in order, and such a part of the list survives
the sort as it is. -/
theorem named_nameOrder (collections : List Collection) (name : String) :
    named name (nameOrder collections) = named name collections := by
  have inOrder : (named name collections).Pairwise fun c d => byName c d = true := by
    apply List.Pairwise.imp_of_mem (R := fun _ _ => True)
    · intro c d cMember dMember _
      apply byName_of_same_name
      rw [beq_iff_eq.mp (List.mem_filter.mp cMember).2,
        beq_iff_eq.mp (List.mem_filter.mp dMember).2]
    · exact List.pairwise_of_forall fun _ _ => trivial
  have survives : (named name collections).Sublist (nameOrder collections) :=
    List.sublist_mergeSort byName_trans byName_total inOrder List.filter_sublist
  have kept : (named name collections).Sublist (named name (nameOrder collections)) := by
    have again := survives.filter (·.name == name)
    simpa only [named, List.filter_filter, Bool.and_self] using again
  have sameLength : (named name collections).length = (named name (nameOrder collections)).length :=
    ((List.mergeSort_perm collections byName).filter _).length_eq.symm
  exact (kept.eq_of_length sameLength).symm

/-- Two sorted lists that agree on the collections of every name are the same. -/
theorem nameOrdered_unique (left right : List Collection) (leftOrdered : NameOrdered left)
    (rightOrdered : NameOrdered right) (agree : ∀ name, named name left = named name right) :
    left = right := by
  induction left generalizing right with
  | nil =>
    cases right with
    | nil => rfl
    | cons d rest => simpa [named] using agree d.name
  | cons c rest ih =>
    cases right with
    | nil => simpa [named] using agree c.name
    | cons d others =>
      obtain ⟨cLeast, restOrdered⟩ := List.pairwise_cons.mp leftOrdered
      obtain ⟨dLeast, othersOrdered⟩ := List.pairwise_cons.mp rightOrdered
      have cBefore : byName c d = true := by
        have member : d ∈ named d.name (c :: rest) := by
          rw [agree]
          simp [named]
        rcases List.mem_cons.mp (List.mem_filter.mp member).1 with rfl | old
        · exact byName_of_same_name rfl
        · exact cLeast d old
      have dBefore : byName d c = true := by
        have member : c ∈ named c.name (d :: others) := by
          rw [← agree]
          simp [named]
        rcases List.mem_cons.mp (List.mem_filter.mp member).1 with rfl | old
        · exact byName_of_same_name rfl
        · exact dLeast c old
      have sameName : c.name = d.name := Text.atOrBefore_antisymm cBefore dBefore
      have heads := agree c.name
      simp only [named, List.filter_cons, beq_self_eq_true, if_true, sameName,
        List.cons.injEq] at heads
      obtain ⟨rfl, _⟩ := heads
      refine congrArg (c :: ·) (ih others restOrdered othersOrdered fun name => ?_)
      have both := agree name
      simp only [named, List.filter_cons] at both ⊢
      split at both
      · exact (List.cons.inj both).2
      · exact both

/-- The order of a catalog is the stable sort by name. -/
theorem ofCollections_eq_nameOrder (collections : List Collection) :
    (ofCollections collections).collections = nameOrder collections := by
  apply nameOrdered_unique
  · exact ofCollections_nameOrdered collections
  · exact nameOrder_nameOrdered collections
  · intro name
    rw [named_ofCollections, named_nameOrder]

/-- A catalog holds the collections that were given, each as often. -/
theorem ofCollections_perm (collections : List Collection) :
    (ofCollections collections).collections.Perm collections := by
  rw [ofCollections_eq_nameOrder]
  exact nameOrder_perm collections

end CollectionTypes.Catalog
