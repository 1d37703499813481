import CollectionTypes.Proofs.DanglingRelations
import CollectionTypes.Proofs.DocumentOutcomes

/-!
# Relations without a target

What comes of a document in which the options of a relation name no collection: the options are
missing, or they have no `collectionId`, or it is `null`. Such a relation is read as one to the empty
id, and nothing tells it from a relation that names this id. So it dangles, and generation fails, as
long as no collection has the empty id; a collection that has it is taken for the target.

Specification: section 4.0 (a relation without `collectionId`).
-/

namespace CollectionTypes

open Json

namespace Json.Tree

/-- A record has the member, and its value is as described. -/
def HasMember (keys : List String) (key : String) (P : Tree → Prop) (tree : Tree) : Prop :=
  ∃ pairs value, tree.pairs? keys = some pairs ∧ (some key, value) ∈ pairs ∧ P value

/-- The value of the member is as described, unless the record does not have the member. -/
def LacksOrHas (keys : List String) (key : String) (P : Tree → Prop) (tree : Tree) : Prop :=
  ∃ pairs, tree.pairs? keys = some pairs ∧ ∀ value, (some key, value) ∈ pairs → P value

/-- A list in which an element is as described. -/
def HasElement (P : Tree → Prop) (tree : Tree) : Prop :=
  ∃ items last, tree = .list items last ∧ ∃ item ∈ items, P item.value

end Json.Tree

/-- The options name no collection. -/
def FieldOptions.NameNoTarget (tree : Tree) : Prop :=
  tree.LacksOrHas shape.keys "collectionId" (· = .null)

/-- A relation whose options, where there are any, name no collection. -/
def FieldEntry.NamesNoTarget (tree : Tree) : Prop :=
  tree.States shape.keys "type" "relation" ∧
    tree.LacksOrHas shape.keys "options" FieldOptions.NameNoTarget

/-- Some relation of the document names no collection. -/
def Document.HasUnaimedRelation (document : String) : Prop :=
  ∃ before tree behind, document = text before tree behind ∧
    tree.HasElement (Tree.HasMember CollectionEntry.shape.keys "schema"
      (Tree.HasElement FieldEntry.NamesNoTarget))

/-- Every relation to another id than the empty one finds its target. -/
def NamedTargetsExist (collections : List Collection) : Prop :=
  ∀ c ∈ collections, ∀ field ∈ c.fields, ∀ target, Dangling collections field target → target = ""

section Reading

theorem Json.Tree.HasElement.exists_made {α : Type} {P : Tree → Prop} {tree : Tree}
    (has : tree.HasElement P) {reader : Reader α} (makes : Makes reader (made? reader))
    {elements : List α} (read : made? (Reader.listValue reader) tree = some elements) :
    ∃ v a, P v ∧ made? reader v = some a ∧ a ∈ elements := by
  obtain ⟨items, last, rfl, item, member, holds⟩ := has
  obtain ⟨before, behind, rfl⟩ := List.append_of_mem member
  rw [makes.listValue.made?_eq, Tree.asList?, mapM_at] at read
  obtain ⟨first, -, read⟩ := Option.bind_eq_some_iff.mp read
  obtain ⟨a, isMade, read⟩ := Option.bind_eq_some_iff.mp read
  obtain ⟨more, -, rfl⟩ := Option.map_eq_some_iff.mp read
  exact ⟨item.value, a, holds, isMade, List.mem_append_right _ List.mem_cons_self⟩

theorem FieldOptions.keeps_target :
    ∀ m ∈ shape.members, m.key = "collectionId" ∨ m.Keeps FieldOptions.target := by
  simp only [shape, List.forall_mem_cons, List.not_mem_nil, false_implies, implies_true, and_true]
  exact ⟨.inr (.of_set fun _ _ => rfl), .inr (.of_set fun _ _ => rfl), .inl rfl⟩

theorem FieldEntry.keeps_options :
    ∀ m ∈ shape.members, m.key = "options" ∨ m.Keeps FieldEntry.options := by
  simp only [shape, List.forall_mem_cons, List.not_mem_nil, false_implies, implies_true, and_true]
  exact ⟨.inr (.of_set fun _ _ => rfl), .inr (.of_set fun _ _ => rfl),
    .inr (.of_set fun _ _ => rfl), .inr (.of_set fun _ _ => rfl), .inr (.of_set fun _ _ => rfl),
    .inr (.of_set fun _ _ => rfl), .inl rfl⟩

/-- What holds of the part that a member sets, and of this part of the empty record, holds of the
record, whether it has the member or not. -/
theorem Json.Tree.LacksOrHas.part {ρ α β : Type} {shape : Shape ρ} (regular : shape.Regular)
    (localReads : shape.Local) {key : String} {required : Bool} {value : Reader α}
    {set : α → ρ → ρ} (member : ⟨key, required, set <$> value⟩ ∈ shape.members) {part : ρ → β}
    (keeps : ∀ m ∈ shape.members, m.key = key ∨ m.Keeps part) {P : Tree → Prop} {Q : β → Prop}
    {tree : Tree} (lacksOrHas : tree.LacksOrHas shape.keys key P)
    (present : ∀ v a others, P v → made? value v = some a → Q (part (set a others)))
    (absent : Q (part shape.empty)) {record : ρ}
    (read : made? (Reader.record shape) tree = some record) : Q (part record) := by
  obtain ⟨pairs, written, holds⟩ := lacksOrHas
  by_cases stands : ∃ v, (some key, v) ∈ pairs
  · obtain ⟨v, inPairs⟩ := stands
    obtain ⟨a, others, isMade, rfl⟩ := localReads.exists_made regular member written inPairs read
    exact present v a others (holds v inPairs) isMade
  · rw [(Makes.record regular localReads).made?_eq] at read
    dsimp only at read
    rw [written] at read
    rwa [Shape.gather?_absent keeps (not_exists.mp stands) read]

/-- A missing `collectionId` and one that is `null` come to the same. -/
theorem FieldOptions.target_eq_none {tree : Tree} (noTarget : NameNoTarget tree)
    {o : FieldOptions} (read : made? (Reader.record shape) tree = some o) : o.target = none := by
  refine noTarget.part regular localReads (List.mem_of_getElem? (i := 2) rfl) keeps_target
    (Q := (· = none)) (fun v target _ isNull isTarget => ?_) rfl read
  rw [isNull, Makes.textValue.optional.made?_eq] at isTarget
  exact (Option.some.inj isTarget).symm

theorem FieldEntry.target_eq_none {tree : Tree} (noTarget : NamesNoTarget tree) {f : FieldEntry}
    (read : made? (Reader.record shape) tree = some f) :
    f.type = "relation" ∧ f.options.target = none := by
  obtain ⟨isRelation, noTarget⟩ := noTarget
  constructor
  · obtain ⟨others, isType⟩ :=
      isRelation.text regular localReads (List.mem_of_getElem? (i := 2) rfl) read
    exact congrArg FieldEntry.type isType
  · exact noTarget.part regular localReads (List.mem_of_getElem? (i := 6) rfl) keeps_options
      (Q := fun options => options.target = none)
      (fun _ _ _ noTarget isOptions => FieldOptions.target_eq_none noTarget isOptions) rfl read

theorem CollectionEntry.exists_unaimed {tree : Tree}
    (has : tree.HasMember shape.keys "schema" (Tree.HasElement FieldEntry.NamesNoTarget))
    {e : CollectionEntry} (read : made? (Reader.record shape) tree = some e) :
    ∃ f ∈ e.fields, f.type = "relation" ∧ f.options.target = none := by
  obtain ⟨pairs, v, written, inPairs, hasField⟩ := has
  obtain ⟨schema, others, isSchema, rfl⟩ := localReads.exists_made regular
    (List.mem_of_getElem? (i := 9) rfl) written inPairs read
  have present : v ≠ .null := by
    rintro rfl
    obtain ⟨_, _, other, _⟩ := hasField
    contradiction
  rw [FieldEntry.makes.listValue.self.optional.made?_eq, Tree.asOptional?_of_ne present] at isSchema
  obtain ⟨fields, isList, rfl⟩ := Option.map_eq_some_iff.mp isSchema
  obtain ⟨v, f, noTarget, isField, inFields⟩ := hasField.exists_made FieldEntry.makes isList
  exact ⟨f, inFields, FieldEntry.target_eq_none noTarget isField⟩

theorem CollectionEntry.fields_collection (e : CollectionEntry) :
    e.collection.fields = e.fields.map FieldEntry.field := by
  unfold Collection.fields CollectionEntry.collection CollectionEntry.fields
  cases e.schema <;> rfl

/-- A relation that names no collection has the empty id for its target. -/
theorem Document.HasUnaimedRelation.exists_relation {document : String}
    (unaimed : HasUnaimedRelation document) {cs : List Collection}
    (accepted : collections document = .ok cs) :
    ∃ c ∈ cs, ∃ field ∈ c.fields, ∃ limit, field.kind = .relation "" limit := by
  obtain ⟨es, holds, -, rfl⟩ := collections_eq_ok_iff_holds.mp accepted
  obtain ⟨before, tree, behind, rfl, hasElement⟩ := unaimed
  rw [holds_text_iff, ← makes_entries.made?_eq] at holds
  obtain ⟨_, e, hasSchema, isEntry, inEntries⟩ := hasElement.exists_made CollectionEntry.makes holds
  obtain ⟨f, declared, isRelation, noTarget⟩ := CollectionEntry.exists_unaimed hasSchema isEntry
  refine ⟨e.collection, List.mem_map_of_mem inEntries, f.field, ?_, f.options.limit, ?_⟩
  · rw [e.fields_collection]
    exact List.mem_map_of_mem declared
  · simp only [FieldEntry.field, isRelation, FieldKind.ofType?, noTarget, Option.getD_some,
      Option.getD_none]

end Reading

section Generation

variable {collections : List Collection}

theorem generateFromDocument_of_accepted {document : String}
    (accepted : Document.collections document = .ok collections) :
    generateFromDocument document = generate collections := by
  rw [generateFromDocument, accepted, generateFrom]

/-- A relation to the empty id is like any other: it dangles unless a collection has this id. -/
theorem firstDangling?_eq_none_iff_of_empty
    (toEmpty : ∃ c ∈ collections, ∃ field ∈ c.fields, ∃ limit, field.kind = .relation "" limit) :
    (Catalog.ofCollections collections).firstDangling? = none ↔
      (∃ c ∈ collections, c.id = "") ∧ NamedTargetsExist collections := by
  rw [firstDangling?_eq_none_iff]
  constructor
  · intro resolved
    refine ⟨?_, fun c member field declared target dangling =>
      absurd dangling (resolved c member field declared target)⟩
    obtain ⟨c, member, field, declared, kind⟩ := toEmpty
    by_contra noEmpty
    refine resolved c member field declared "" ⟨kind, ?_⟩
    exact fun d inList isEmpty => noEmpty ⟨d, inList, isEmpty⟩
  · rintro ⟨⟨d, inList, isEmpty⟩, named⟩ c member field declared target dangling
    obtain rfl := named c member field declared target dangling
    exact dangling.2 d inList isEmpty

/-- Where only the empty id can dangle, it is what the failure is about. -/
theorem FirstDangling.eq_empty {target : String} (first : FirstDangling collections target)
    (named : NamedTargetsExist collections) : target = "" := by
  obtain ⟨before, field, after, split, dangling, -⟩ := first
  have declared : field ∈ fieldsByName collections := by
    rw [split]
    exact List.mem_append_right _ List.mem_cons_self
  obtain ⟨c, sorted, inFields⟩ := List.mem_flatMap.mp declared
  have member := (Catalog.nameOrder_perm collections).mem_iff.mp sorted
  exact named c member field inFields target dangling

end Generation

/-- From a document in which a relation names no collection there is a text just where some
collection has the empty id and all relations that name a collection find it. Without a collection
of the empty id generation fails for the first dangling relation, and where the named targets exist
the failure is about the empty id. -/
theorem generateFromDocument_of_unaimed {document : String} {cs : List Collection}
    (accepted : Document.collections document = .ok cs)
    (unaimed : Document.HasUnaimedRelation document) :
    ((∃ text, generateFromDocument document = .ok text) ↔
      (∃ c ∈ cs, c.id = "") ∧ NamedTargetsExist cs) ∧
    (∀ failure, generateFromDocument document = .error failure ↔
      ∃ target, failure = .unresolved ⟨target⟩ ∧ FirstDangling cs target) ∧
    ((∀ c ∈ cs, c.id ≠ "") → ∃ target,
      generateFromDocument document = .error (.unresolved ⟨target⟩) ∧
        (NamedTargetsExist cs → target = "")) := by
  have resolved := firstDangling?_eq_none_iff_of_empty (unaimed.exists_relation accepted)
  rw [generateFromDocument_of_accepted accepted, generate_settle]
  refine ⟨?_, fun failure => ?_, fun noEmpty => ?_⟩
  · rw [← resolved]
    simp [settle_eq_ok_iff]
  · rw [settle_eq_error_iff, Option.map_eq_some_iff]
    simp only [firstDangling?_eq_some_iff]
    exact exists_congr fun target => and_comm.trans (and_congr_left' eq_comm)
  · cases dangling : (Catalog.ofCollections cs).firstDangling? with
    | none =>
      obtain ⟨⟨c, member, isEmpty⟩, -⟩ := resolved.mp dangling
      exact absurd isEmpty (noEmpty c member)
    | some target =>
      have first := (firstDangling?_eq_some_iff cs target).mp dangling
      exact ⟨target, rfl, first.eq_empty⟩

section Objects

variable {keys : List String} {key : String} {P : Tree → Prop} {entries : List (Entry Tree)}
  {last : Blank}

theorem Json.Tree.HasMember.object {entry : Entry Tree} (member : entry ∈ entries)
    (isKey : entry.key? = some key) (holds : P entry.value) :
    (Tree.object entries last).HasMember keys key P := by
  have inPairs : (some key, entry.value) ∈ entries.map Entry.pair :=
    isKey ▸ List.mem_map_of_mem (f := Entry.pair) member
  exact ⟨_, _, rfl, inPairs, holds⟩

theorem Json.Tree.LacksOrHas.object
    (each : ∀ entry ∈ entries, entry.key? = some key → P entry.value) :
    (Tree.object entries last).LacksOrHas keys key P := by
  refine ⟨_, rfl, fun value inPairs => ?_⟩
  obtain ⟨entry, member, same⟩ := List.mem_map.mp inPairs
  obtain ⟨isKey, rfl⟩ := Prod.mk.inj same
  exact each entry member isKey

end Objects

namespace Document

/-- A document of one collection with the given id and one relation, whose target is `null`. -/
def unaimed (id : String) (bare : Bare id) : String :=
  notes [entry "id" bare_id (bareText id bare), nameEntry]
    [nameEntry, entry "type" bare_type (bareText "relation" (by decide)),
     entry "options" bare_options (.object [entry "collectionId" (by decide) .null] .none)]

theorem hasUnaimedRelation_unaimed (id : String) (bare : Bare id) :
    HasUnaimedRelation (unaimed id bare) := by
  have noTarget : FieldOptions.NameNoTarget
      (.object [entry "collectionId" (by decide) .null] .none) :=
    .object fun _ member _ => by rw [List.mem_singleton.mp member]; rfl
  have field : FieldEntry.NamesNoTarget
      (.object [nameEntry, entry "type" bare_type (bareText "relation" (by decide)),
        entry "options" bare_options
          (.object [entry "collectionId" (by decide) .null] .none)] .none) := by
    refine ⟨⟨_, _, rfl, .tail _ (.head _), rfl⟩, .object ?_⟩
    simp only [List.forall_mem_cons, List.not_mem_nil, false_implies, implies_true, and_true,
      nameEntry, key?_entry]
    exact ⟨fun other => absurd other (by decide), fun other => absurd other (by decide),
      fun _ => noTarget⟩
  refine ⟨_, _, _, rfl, _, _, rfl, _, List.mem_cons_self, ?_⟩
  refine .object (List.mem_append_right _ List.mem_cons_self) (key?_entry ..) ?_
  exact ⟨_, _, rfl, _, List.mem_cons_self, field⟩

example : unaimed "" (by decide) = "[\x7b\"id\":\"\",\"name\":\"notes\",\"schema\":[\x7b" ++
    "\"name\":\"notes\",\"type\":\"relation\",\"options\":\x7b\"collectionId\":null\x7d\x7d]\x7d]" := by
  decide +kernel

private theorem exists_ok_of_any {ε α : Type} {result : Except ε α} {p : α → Bool}
    (isOk : result.toOption.any p = true) : ∃ a, result = .ok a ∧ p a = true := by
  cases result with
  | error failure => contradiction
  | ok a => exact ⟨a, rfl, isOk⟩

/-- No collection has the empty id, so the relation dangles. -/
theorem unaimed_n1_dangles :
    let document := unaimed "n1" (by decide)
    ∃ cs, collections document = .ok cs ∧ HasUnaimedRelation document ∧ (∀ c ∈ cs, c.id ≠ "") ∧
      NamedTargetsExist cs ∧ generateFromDocument document = .error (.unresolved ⟨""⟩) := by
  intro document
  have declared : (collections document).toOption.any (fun cs => cs.all fun c =>
      c.id = "n1" && c.fields.all fun field => field.kind = .relation "" none) = true := by
    decide +kernel
  obtain ⟨cs, accepted, declared⟩ := exists_ok_of_any declared
  simp only [List.all_eq_true, Bool.and_eq_true, decide_eq_true_eq] at declared
  have noEmpty : ∀ c ∈ cs, c.id ≠ "" := by
    intro c member
    rw [(declared c member).1]
    decide
  have named : NamedTargetsExist cs := by
    rintro c member field inFields target ⟨⟨limit, kind⟩, -⟩
    have isKind := (declared c member).2 field inFields
    rw [kind] at isKind
    exact (FieldKind.relation.inj isKind).1
  have unaimed := hasUnaimedRelation_unaimed "n1" (by decide)
  obtain ⟨-, -, fails⟩ := generateFromDocument_of_unaimed accepted unaimed
  obtain ⟨target, failure, isEmpty⟩ := fails noEmpty
  exact ⟨cs, accepted, unaimed, noEmpty, named, isEmpty named ▸ failure⟩

/-- The collection has the empty id, and the relation that names none is expanded to it. -/
theorem unaimed_empty_generates :
    let document := unaimed "" (by decide)
    HasUnaimedRelation document ∧ ∃ cs m, collections document = .ok cs ∧
      TypeScript.Module.ofCatalog (.ofCollections cs) = .ok m ∧
      m.responses.map (·.expand) = [[⟨"notes", true, .many (.declared "NotesResponse")⟩]] ∧
      generateFromDocument document = .ok m.text := by
  intro document
  have expanded : (collections document).toOption.any (fun cs =>
      (TypeScript.Module.ofCatalog (.ofCollections cs)).toOption.any fun m =>
        m.responses.map (·.expand) = [[⟨"notes", true, .many (.declared "NotesResponse")⟩]]) =
      true := by
    decide +kernel
  obtain ⟨cs, accepted, expanded⟩ := exists_ok_of_any expanded
  obtain ⟨m, isModule, expanded⟩ := exists_ok_of_any expanded
  refine ⟨hasUnaimedRelation_unaimed "" (by decide), cs, m, accepted, isModule,
    of_decide_eq_true expanded, ?_⟩
  rw [generateFromDocument_of_accepted accepted, generate, TypeScript.generate, isModule]
  rfl

end Document

end CollectionTypes
