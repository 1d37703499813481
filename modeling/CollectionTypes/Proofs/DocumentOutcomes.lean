import CollectionTypes.Proofs.DocumentVariants
import CollectionTypes.Proofs.FirstFailure
import CollectionTypes.Proofs.WireFormat

/-!
# Outcomes of documents

What comes of a document, told from what it holds. A document that is not a list of entries as a
whole is malformed, whatever its fields are. Of any other the first field with an unknown type is
reported, in the order of the collections and of the fields in each, and where all types are known
every entry becomes a collection. The type of a collection has to be a text, and no text is wrong.

Specification: section 4.0 (which documents are accepted, which error comes first).
-/

namespace CollectionTypes

open Json

/-- The types that a field can have. -/
def fieldTypes : List String :=
  ["text", "number", "bool", "email", "url", "date", "json", "select", "file", "relation", "user"]

/-- What a tree says where a record is expected. -/
def Json.Shape.ofTree? {ρ : Type} (shape : Shape ρ) (tree : Tree) : Option ρ :=
  (tree.pairs? shape.keys).bind shape.gather?

/-- The fields that are declared; without a schema there are none. -/
def CollectionEntry.fields (e : CollectionEntry) : List FieldEntry :=
  e.schema.getD []

structure FieldEntry.Becomes (e : FieldEntry) (f : Field) : Prop where
  id : f.id = e.id
  name : f.name = e.name
  type : f.kind.typeName = e.type
  kind : FieldKind.ofType? e.type e.options = some f.kind
  system : f.system = e.system
  required : f.required = e.required
  unique : f.unique = e.unique

/-- A collection has a field for each entry of a field, in the same order. -/
structure CollectionEntry.Becomes (e : CollectionEntry) (c : Collection) : Prop where
  id : c.id = e.id
  name : c.name = e.name
  kind : c.kind = .ofType e.type
  system : c.system = e.system
  rules : c.rules = e.rules
  schema : Option.Rel (List.Forall₂ FieldEntry.Becomes) e.schema c.schema
  options : c.options = e.options

namespace Document

/-- The document is the text of a list of entries, with nothing but blanks around it. -/
def Holds (document : String) (es : List CollectionEntry) : Prop :=
  ∃ before tree behind, document = text before tree behind ∧
    tree.asList? CollectionEntry.shape.ofTree? = some es

def Malformed (document : String) : Prop :=
  ∃ cause position, collections document = .error (.malformed cause position)

/-- What comes of a document, by what it holds. -/
structure Outcome (document : String) : Prop where
  malformed : Malformed document ↔ ¬∃ es, Holds document es
  unknownType : ∀ type field, collections document = .error (.unknownType type field) ↔
    ∃ es before f behind, Holds document es ∧
      es.flatMap CollectionEntry.fields = before ++ f :: behind ∧
      (∀ known ∈ before, known.type ∈ fieldTypes) ∧
      f.type ∉ fieldTypes ∧ f.type = type ∧ f.name = field
  ok : (∃ cs, collections document = .ok cs) ↔
    ∃ es, Holds document es ∧
      ∀ f ∈ es.flatMap CollectionEntry.fields, f.type ∈ fieldTypes
  becomes : ∀ cs, collections document = .ok cs →
    ∃ es, Holds document es ∧ List.Forall₂ CollectionEntry.Becomes es cs

/-- The type that a collection states is another value. -/
inductive Retyped (Changed : Tree → Tree → Prop) : String → String → Prop
  | collection {before behind : Blank} {tree tree' : Tree}
      (changed : AtElement (AtMember CollectionEntry.shape.keys "type" Changed) tree tree') :
      Retyped Changed (text before tree behind) (text before tree' behind)

/-- The same outcome, but for the kinds of collections and for where and why a document is
malformed. -/
inductive AlikeButKinds :
    Except DocumentError (List Collection) → Except DocumentError (List Collection) → Prop
  | malformed {cause cause' : Cause} {position position' : Position} :
      AlikeButKinds (.error (.malformed cause position)) (.error (.malformed cause' position'))
  | unknownType (type field : String) :
      AlikeButKinds (.error (.unknownType type field)) (.error (.unknownType type field))
  | ok {cs cs' : List Collection}
      (same : List.Forall₂ (fun c c' => c' = { c with kind := c'.kind }) cs cs') :
      AlikeButKinds (.ok cs) (.ok cs')

end Document

section Types

theorem FieldKind.ofType?_eq_none_iff (type : String) (options : FieldOptions) :
    ofType? type options = none ↔ type ∉ fieldTypes := by
  constructor
  · intro unknown member
    simp only [fieldTypes, List.mem_cons, List.not_mem_nil, or_false] at member
    rcases member with rfl | rfl | rfl | rfl | rfl | rfl | rfl | rfl | rfl | rfl | rfl
    all_goals contradiction
  · intro unknown
    unfold ofType?
    split
    all_goals first | rfl | exact absurd (by decide) unknown

theorem FieldKind.typeName_of_ofType? {type : String} {options : FieldOptions} {kind : FieldKind}
    (known : ofType? type options = some kind) : kind.typeName = type := by
  unfold ofType? at known
  split at known
  all_goals first | (obtain rfl := Option.some.inj known; rfl) | contradiction

end Types

section Entries

/-- The error that a field with an unknown type leads to. -/
def FieldEntry.unknownType? (e : FieldEntry) : Option DocumentError :=
  if e.type ∈ fieldTypes then none else some (.unknownType e.type e.name)

/-- The field of an entry whose type is known. -/
def FieldEntry.field (e : FieldEntry) : Field :=
  ⟨e.id, e.name, (FieldKind.ofType? e.type e.options).getD .text, e.system, e.required, e.unique⟩

/-- The collection of an entry whose field types are known. -/
def CollectionEntry.collection (e : CollectionEntry) : Collection :=
  ⟨e.id, e.name, .ofType e.type, e.system, e.rules, e.schema.map (·.map FieldEntry.field),
    e.options⟩

theorem Field.ofEntry_settle (e : FieldEntry) :
    ofEntry e = settle e.unknownType? e.field := by
  unfold ofEntry FieldEntry.unknownType? FieldEntry.field
  cases found : FieldKind.ofType? e.type e.options with
  | none => rw [if_neg ((FieldKind.ofType?_eq_none_iff _ _).mp found)]; rfl
  | some kind =>
    have known : e.type ∈ fieldTypes := by
      by_contra unknown
      rw [(FieldKind.ofType?_eq_none_iff _ _).mpr unknown] at found
      contradiction
    rw [if_pos known]
    rfl

/-- The first unknown type in a schema is what keeps an entry from being a collection. -/
theorem Collection.ofEntry_settle (e : CollectionEntry) :
    ofEntry e = settle (e.fields.findSome? FieldEntry.unknownType?) e.collection := by
  unfold ofEntry schemaOfEntry CollectionEntry.fields CollectionEntry.collection
  cases e.schema with
  | none => rfl
  | some fields =>
    simp only [Option.getD_some, Option.map_some]
    rw [mapM_settle Field.ofEntry FieldEntry.unknownType? FieldEntry.field fields
      fun f _ => Field.ofEntry_settle f]
    cases fields.findSome? FieldEntry.unknownType? <;> rfl

theorem mapM_ofEntry_settle (es : List CollectionEntry) :
    es.mapM Collection.ofEntry =
      settle ((es.flatMap CollectionEntry.fields).findSome? FieldEntry.unknownType?)
        (es.map CollectionEntry.collection) := by
  rw [findSome?_flatMap]
  exact mapM_settle _ _ _ es fun e _ => Collection.ofEntry_settle e

end Entries

namespace Document

variable {document : String} {es : List CollectionEntry}

/-- Reading one entry after the other comes to what the tree says. -/
theorem makes_entries : Makes (Reader.listValue (Reader.record CollectionEntry.shape))
    (Tree.asList? CollectionEntry.shape.ofTree?) :=
  (Makes.record CollectionEntry.regular CollectionEntry.localReads).listValue

theorem entries_text_eq_ok_iff (before : Blank) (tree : Tree) (behind : Blank) :
    entries (text before tree behind) = .ok es ↔
      tree.asList? CollectionEntry.shape.ofTree? = some es := by
  rw [← makes_entries.made?_eq, ← entries_text before tree behind]
  cases entries (text before tree behind) <;> simp [Except.toOption]

/-- What a document holds is what is read from it. -/
theorem entries_eq_ok_iff : entries document = .ok es ↔ Holds document es := by
  constructor
  · intro read
    obtain ⟨before, tree, behind, rfl⟩ := exists_text_of_entries read
    exact ⟨before, tree, behind, rfl, (entries_text_eq_ok_iff before tree behind).mp read⟩
  · rintro ⟨before, tree, behind, rfl, isList⟩
    exact (entries_text_eq_ok_iff before tree behind).mpr isList

theorem holds_text_iff (before : Blank) (tree : Tree) (behind : Blank) :
    Holds (text before tree behind) es ↔
      tree.asList? CollectionEntry.shape.ofTree? = some es :=
  entries_eq_ok_iff.symm.trans (entries_text_eq_ok_iff before tree behind)

theorem collections_of_holds (holds : Holds document es) :
    collections document =
      settle ((es.flatMap CollectionEntry.fields).findSome? FieldEntry.unknownType?)
        (es.map CollectionEntry.collection) := by
  rw [collections, entries_eq_ok_iff.mpr holds]
  exact mapM_ofEntry_settle es

end Document

section Fields

theorem findSome?_unknownType?_eq_none_iff (fields : List FieldEntry) :
    fields.findSome? FieldEntry.unknownType? = none ↔ ∀ f ∈ fields, f.type ∈ fieldTypes := by
  simp [List.findSome?_eq_none_iff, FieldEntry.unknownType?]

theorem findSome?_unknownType?_eq_some_iff (fields : List FieldEntry) (error : DocumentError) :
    fields.findSome? FieldEntry.unknownType? = some error ↔
      ∃ before f behind, fields = before ++ f :: behind ∧
        (∀ known ∈ before, known.type ∈ fieldTypes) ∧
        f.type ∉ fieldTypes ∧ .unknownType f.type f.name = error := by
  rw [List.findSome?_eq_some_iff]
  constructor
  · rintro ⟨before, f, behind, split, isFirst, known⟩
    rw [FieldEntry.unknownType?] at isFirst
    split at isFirst
    · contradiction
    next unknown =>
      refine ⟨before, f, behind, split, ?_, unknown, Option.some.inj isFirst⟩
      rw [← findSome?_unknownType?_eq_none_iff, List.findSome?_eq_none_iff]
      exact known
  · rintro ⟨before, f, behind, split, known, unknown, rfl⟩
    refine ⟨before, f, behind, split, if_neg unknown, ?_⟩
    rwa [← findSome?_unknownType?_eq_none_iff, List.findSome?_eq_none_iff] at known

theorem FieldEntry.becomes_field {e : FieldEntry} (known : e.type ∈ fieldTypes) :
    e.Becomes e.field := by
  obtain ⟨kind, found⟩ : ∃ kind, FieldKind.ofType? e.type e.options = some kind := by
    rw [← Option.ne_none_iff_exists']
    intro none
    exact (FieldKind.ofType?_eq_none_iff _ _).mp none known
  have isKind : e.field.kind = kind := by
    rw [FieldEntry.field, found, Option.getD_some]
  refine ⟨rfl, rfl, ?_, ?_, rfl, rfl, rfl⟩
  · rw [isKind]
    exact FieldKind.typeName_of_ofType? found
  · rw [isKind, found]

theorem CollectionEntry.becomes_collection {e : CollectionEntry}
    (known : ∀ f ∈ e.fields, f.type ∈ fieldTypes) : e.Becomes e.collection := by
  refine ⟨rfl, rfl, rfl, rfl, rfl, ?_, rfl⟩
  unfold CollectionEntry.fields at known
  unfold CollectionEntry.collection
  cases schema : e.schema with
  | none => exact .none
  | some fields =>
    rw [schema, Option.getD_some] at known
    refine .some (List.forall₂_map_right_iff.mpr (List.forall₂_same.mpr fun f member => ?_))
    exact FieldEntry.becomes_field (known f member)

end Fields

namespace Document

variable {document : String}

/-- Nothing is said of field types where the document is malformed anywhere. -/
theorem malformed_iff : Malformed document ↔ ¬∃ es, Holds document es := by
  constructor
  · rintro ⟨cause, position, failed⟩ ⟨es, holds⟩
    rw [collections_of_holds holds, settle_eq_error_iff,
      findSome?_unknownType?_eq_some_iff] at failed
    obtain ⟨_, _, _, _, _, _, other⟩ := failed
    contradiction
  · intro none
    unfold Malformed collections
    cases read : entries document with
    | error fault => exact ⟨_, _, rfl⟩
    | ok es => exact absurd ⟨es, entries_eq_ok_iff.mp read⟩ none

theorem exists_holds {result : Except DocumentError (List Collection)}
    (gives : collections document = result)
    (wellFormed : ∀ cause position, result ≠ .error (.malformed cause position)) :
    ∃ es, Holds document es := by
  by_contra none
  obtain ⟨cause, position, malformed⟩ := malformed_iff.mpr none
  exact wellFormed cause position (gives.symm.trans malformed)

theorem unknownType_iff (type field : String) :
    collections document = .error (.unknownType type field) ↔
      ∃ es before f behind, Holds document es ∧
        es.flatMap CollectionEntry.fields = before ++ f :: behind ∧
        (∀ known ∈ before, known.type ∈ fieldTypes) ∧
        f.type ∉ fieldTypes ∧ f.type = type ∧ f.name = field := by
  constructor
  · intro failed
    obtain ⟨es, holds⟩ := exists_holds failed (by simp)
    rw [collections_of_holds holds, settle_eq_error_iff,
      findSome?_unknownType?_eq_some_iff] at failed
    obtain ⟨before, f, behind, split, known, unknown, same⟩ := failed
    obtain ⟨isType, isName⟩ := DocumentError.unknownType.inj same
    exact ⟨es, before, f, behind, holds, split, known, unknown, isType, isName⟩
  · rintro ⟨es, before, f, behind, holds, split, known, unknown, rfl, rfl⟩
    rw [collections_of_holds holds, settle_eq_error_iff, findSome?_unknownType?_eq_some_iff]
    exact ⟨before, f, behind, split, known, unknown, rfl⟩

theorem collections_eq_ok_iff_holds {cs : List Collection} :
    collections document = .ok cs ↔ ∃ es, Holds document es ∧
      (∀ f ∈ es.flatMap CollectionEntry.fields, f.type ∈ fieldTypes) ∧
      es.map CollectionEntry.collection = cs := by
  constructor
  · intro success
    obtain ⟨es, holds⟩ := exists_holds success (by simp)
    rw [collections_of_holds holds, settle_eq_ok_iff,
      findSome?_unknownType?_eq_none_iff] at success
    exact ⟨es, holds, success⟩
  · rintro ⟨es, holds, known, same⟩
    rw [collections_of_holds holds, settle_eq_ok_iff, findSome?_unknownType?_eq_none_iff]
    exact ⟨known, same⟩

theorem outcome (document : String) : Outcome document where
  malformed := malformed_iff
  unknownType := unknownType_iff
  ok := by
    simp only [collections_eq_ok_iff_holds]
    constructor
    · rintro ⟨_, es, holds, known, _⟩
      exact ⟨es, holds, known⟩
    · rintro ⟨es, holds, known⟩
      exact ⟨_, es, holds, known, rfl⟩
  becomes := by
    intro cs success
    obtain ⟨es, holds, known, rfl⟩ := collections_eq_ok_iff_holds.mp success
    refine ⟨es, holds, List.forall₂_map_right_iff.mpr (List.forall₂_same.mpr fun e member => ?_)⟩
    exact e.becomes_collection fun f declared => known f (List.mem_flatMap_of_mem member declared)

end Document

/-- A change of a member, seen from behind. -/
theorem Json.AtMember.flip {Changed : Tree → Tree → Prop} {keys : List String} {key : String}
    {tree tree' : Tree} (changed : AtMember keys key Changed tree tree') :
    AtMember keys key (fun v v' => Changed v' v) tree' tree := by
  cases changed with
  | object isKey changed =>
    rename_i before behind last entry value
    exact @AtMember.object keys key (fun v v' => Changed v' v) before behind last
      { entry with value } entry.value isKey changed
  | list isKey changed =>
    rename_i before behind last item value
    exact @AtMember.list keys key (fun v v' => Changed v' v) before behind last
      { item with value } item.value isKey changed

namespace Document

variable {Changed : Tree → Tree → Prop} {document document' : String}
  {Alike : String → String → Prop}

theorem Retyped.flip (retyped : Retyped Changed document document') :
    Retyped (fun v v' => Changed v' v) document' document := by
  cases retyped with
  | collection changed =>
    cases changed with
    | list changed =>
      rename_i before behind front back last item value
      exact .collection (@AtElement.list _ front back last { item with value } item.value
        changed.flip)

/-- What a document holds changes only in the type that is stated otherwise. -/
theorem Retyped.holds (carries : Carries Reader.textValue Changed Alike)
    (retyped : Retyped Changed document document') {es : List CollectionEntry}
    (held : Holds document es) :
    ∃ (front back : List CollectionEntry) (e : CollectionEntry) (type type' : String),
      Alike type type' ∧ es = front ++ { e with type } :: back ∧
      Holds document' (front ++ { e with type := type' } :: back) := by
  -- The type is the third member of an entry.
  have inRecord := carries.record CollectionEntry.regular CollectionEntry.localReads
    (List.mem_of_getElem? (i := 2) rfl)
  have inList := inRecord.listValue CollectionEntry.makes
  cases retyped with
  | collection changed =>
    rename_i before behind tree tree'
    rw [holds_text_iff, ← makes_entries.made?_eq] at held
    obtain ⟨_, isList, front, back, _, _, ⟨e, type, type', alike, rfl, rfl⟩, rfl, rfl⟩ :=
      inList tree tree' es changed held
    rw [makes_entries.made?_eq] at isList
    exact ⟨front, back, e, type, type', alike, rfl, (holds_text_iff ..).mpr isList⟩

theorem carries_text (isText : ∀ v v', Changed v v' → ∃ text, v'.asText? = some text) :
    Carries Reader.textValue Changed fun _ _ => True := by
  intro v v' _ changed _
  obtain ⟨text, isText'⟩ := isText v v' changed
  exact ⟨text, by rw [Makes.textValue.made?_eq, isText'], trivial⟩

/-- Of what is no text, nothing is carried on. -/
theorem carries_notText (notText : ∀ v v', Changed v v' → v.asText? = none) :
    Carries Reader.textValue Changed fun _ _ => False := by
  intro v v' text changed read
  rw [Makes.textValue.made?_eq, notText v v' changed] at read
  contradiction

theorem malformed_of_notText
    (retyped : Retyped (fun _ v' => v'.asText? = none) document document') :
    Malformed document' := by
  rw [malformed_iff]
  rintro ⟨es, holds⟩
  -- Seen from the changed document, the text takes the place of what could not be read.
  have carries := carries_notText fun v v' (notText : v.asText? = none) => notText
  obtain ⟨_, _, _, _, _, wrong, _⟩ := retyped.flip.holds carries holds
  exact wrong

theorem Retyped.malformed (retyped : Retyped Changed document document')
    (texts : ∀ v v', Changed v v' → ∃ text, v.asText? = some text)
    (malformed : Malformed document) : Malformed document' := by
  rw [malformed_iff] at malformed ⊢
  rintro ⟨es, holds⟩
  obtain ⟨_, _, _, _, _, -, -, holds'⟩ :=
    retyped.flip.holds (carries_text fun v v' changed => texts v' v changed) holds
  exact malformed ⟨_, holds'⟩

/-- Field types are looked at alike, since the fields of the entry are the same. -/
theorem alikeButKinds_retyped (front back : List CollectionEntry) (e : CollectionEntry)
    (type : String) :
    let es := front ++ e :: back
    let es' := front ++ { e with type } :: back
    AlikeButKinds
      (settle ((es.flatMap CollectionEntry.fields).findSome? FieldEntry.unknownType?)
        (es.map CollectionEntry.collection))
      (settle ((es'.flatMap CollectionEntry.fields).findSome? FieldEntry.unknownType?)
        (es'.map CollectionEntry.collection)) := by
  intro es es'
  have fields : es'.flatMap CollectionEntry.fields = es.flatMap CollectionEntry.fields := by
    simp only [es, es', List.flatMap_append, List.flatMap_cons]
    rfl
  rw [fields]
  cases first : (es.flatMap CollectionEntry.fields).findSome? FieldEntry.unknownType? with
  | some error =>
    obtain ⟨_, f, _, _, _, _, rfl⟩ := (findSome?_unknownType?_eq_some_iff _ _).mp first
    exact .unknownType f.type f.name
  | none =>
    refine .ok ?_
    have unchanged (cs : List Collection) :
        List.Forall₂ (fun c c' => c' = { c with kind := c'.kind }) cs cs :=
      List.forall₂_same.mpr fun c _ => rfl
    simp only [es, es', List.map_append, List.map_cons]
    exact List.rel_append (unchanged _) (.cons rfl (unchanged _))

theorem alikeButKinds_of_texts (retyped : Retyped Changed document document')
    (texts : ∀ v v', Changed v v' →
      (∃ text, v.asText? = some text) ∧ ∃ text, v'.asText? = some text) :
    AlikeButKinds (collections document) (collections document') := by
  by_cases malformed : Malformed document
  · obtain ⟨_, _, failed⟩ := malformed
    obtain ⟨_, _, failed'⟩ :=
      retyped.malformed (fun v v' changed => (texts v v' changed).1) ⟨_, _, failed⟩
    rw [failed, failed']
    exact .malformed
  · obtain ⟨es, holds⟩ := exists_holds rfl fun cause position failed =>
      malformed ⟨cause, position, failed⟩
    obtain ⟨front, back, e, type, type', -, rfl, holds'⟩ :=
      retyped.holds (carries_text fun v v' changed => (texts v v' changed).2) holds
    rw [collections_of_holds holds, collections_of_holds holds']
    exact alikeButKinds_retyped front back { e with type } type'

/-- A document that does not hold a list of entries is malformed, whatever field types it mentions;
of any other the first field with an unknown type is reported. The type that a collection states is
wrong only where it is no text. -/
theorem collections_outcome (document : String) :
    Outcome document ∧
      (∀ document', Retyped (fun v v' => (∃ text, v.asText? = some text) ∧
        ∃ text, v'.asText? = some text) document document' →
          AlikeButKinds (collections document) (collections document')) ∧
      ∀ document', Retyped (fun _ v' => v'.asText? = none) document document' →
        Malformed document' :=
  ⟨outcome document, fun _ retyped => alikeButKinds_of_texts retyped fun _ _ texts => texts,
    fun _ retyped => malformed_of_notText retyped⟩

/-- A document of one collection of a type, whose field has a type that fields cannot have. -/
def memos (type : Tree) : String :=
  notes [idEntry, nameEntry, entry "type" bare_type type]
    [nameEntry, entry "type" bare_type (bareText "memo" (by decide))]

theorem retyped_memos {Changed : Tree → Tree → Prop} {v v' : Tree} (changed : Changed v v') :
    Retyped Changed (memos v) (memos v') := by
  refine .collection (@AtElement.list _ [] [] .none ⟨.none, _, .none⟩ _ ?_)
  exact @AtMember.object _ _ _ [idEntry, nameEntry] [entry "schema" _ _] .none (entry ..) _
    (key?_entry ..) changed

/-- The field is reported whether or not anyone has heard of the type of the collection, but not
where the document is malformed as well. -/
theorem collections_outcome_memos :
    let base := bareText "base" (by decide)
    let view := bareText "view" (by decide)
    collections (memos base) = .error (.unknownType "memo" "notes") ∧
      (∃ es f, Holds (memos base) es ∧ f ∈ es.flatMap CollectionEntry.fields ∧
        f.name = "notes" ∧ f.type ∉ fieldTypes) ∧
      AlikeButKinds (collections (memos base)) (collections (memos view)) ∧
      Malformed (memos .null) := by
  intro base view
  obtain ⟨outcome, texts, notText⟩ := collections_outcome (memos base)
  have failed : collections (memos base) = .error (.unknownType "memo" "notes") := by
    have evaluated : (match collections (memos base) with
        | .error error => decide (error = .unknownType "memo" "notes")
        | .ok _ => false) = true := by decide +kernel
    split at evaluated
    next error read => rw [read, of_decide_eq_true evaluated]
    · exact absurd evaluated Bool.false_ne_true
  refine ⟨failed, ?_, texts _ (retyped_memos ⟨⟨"base", rfl⟩, "view", rfl⟩),
    notText _ (retyped_memos rfl)⟩
  obtain ⟨es, before, f, behind, holds, split, -, unknown, -, isName⟩ :=
    (outcome.unknownType "memo" "notes").mp failed
  have declared : f ∈ es.flatMap CollectionEntry.fields := by
    rw [split]
    exact List.mem_append_right _ List.mem_cons_self
  exact ⟨es, f, holds, declared, isName, unknown⟩

end Document

end CollectionTypes
