import CollectionTypes.Proofs.DocumentTexts
import CollectionTypes.Proofs.TreeChanges
import Mathlib.Logic.Relation

/-!
# Variants of documents

Documents that say the same in other words: members stand in another order, members are added that
nobody asks for, and options are changed that the type of their field does not use. The collections
of such documents are the same.

Specification: section 4.0 (unknown keys are ignored).
-/

namespace CollectionTypes

open Json

namespace FieldOptions

/-- The options that fields of a type use. -/
def used (type : String) : List String :=
  match type with
  | "select" => ["maxSelect", "values"]
  | "file" | "user" => ["maxSelect"]
  | "relation" => ["maxSelect", "collectionId"]
  | _ => []

/-- What an option may be, whether a field uses it or not. -/
def Accepts (key : String) (tree : Tree) : Prop :=
  tree = .null ∨ match key with
    | "maxSelect" => ∃ numeral n, tree = .number numeral ∧ numeral.numeral.value = .ok n
    | "values" => ∃ items last, tree = .list items last ∧
        ∀ item ∈ items, ∃ text, item.value.asText? = some text
    | "collectionId" => ∃ text, tree.asText? = some text
    | _ => False

/-- Options that say the same to fields of a type. -/
inductive Variant (type : String) : Tree → Tree → Prop
  | rearranged {tree tree' : Tree} (rearranged : Rearranged shape.keys tree tree') :
      Variant type tree tree'
  | unused {key : String} {tree tree' : Tree} (known : key ∈ shape.keys) (unused : key ∉ used type)
      (changed : AtMember shape.keys key (fun _ => Accepts key) tree tree') :
      Variant type tree tree'

end FieldOptions

namespace FieldEntry

inductive Variant : Tree → Tree → Prop
  | rearranged {tree tree' : Tree} (rearranged : Rearranged shape.keys tree tree') :
      Variant tree tree'
  | options {type : String} {tree tree' : Tree} (isType : tree.States shape.keys "type" type)
      (changed : AtMember shape.keys "options" (FieldOptions.Variant type) tree tree') :
      Variant tree tree'

end FieldEntry

namespace CollectionEntry

inductive Variant : Tree → Tree → Prop
  | rearranged {tree tree' : Tree} (rearranged : Rearranged shape.keys tree tree') :
      Variant tree tree'
  | field {tree tree' : Tree}
      (changed : AtMember shape.keys "schema" (AtElement FieldEntry.Variant) tree tree') :
      Variant tree tree'

end CollectionEntry

namespace FieldOptions

/-- Options that agree where the given keys are concerned. -/
structure AgreeOn (keys : List String) (o o' : FieldOptions) : Prop where
  limit : "maxSelect" ∈ keys → o.limit = o'.limit
  values : "values" ∈ keys → o.values = o'.values
  target : "collectionId" ∈ keys → o.target = o'.target

/-- A type looks at the options only that its fields use. -/
theorem ofType?_congr {type : String} {o o' : FieldOptions} (agree : AgreeOn (used type) o o') :
    FieldKind.ofType? type o = FieldKind.ofType? type o' := by
  unfold FieldKind.ofType?
  split
  case h_8 => rw [agree.limit (by decide), agree.values (by decide)]
  case h_9 => rw [agree.limit (by decide)]
  case h_10 => rw [agree.limit (by decide), agree.target (by decide)]
  case h_11 => rw [agree.limit (by decide)]
  all_goals rfl

theorem carries_accepted {α : Type} {reader : Reader α} {value? : Tree → Option α}
    (makes : Makes reader value?) {Accepted : Tree → Prop}
    (accepted : ∀ tree, Accepted tree → tree = .null ∨ ∃ a, value? tree = some a) :
    Carries (Reader.optional reader) (fun _ => Accepted) fun _ _ => True := by
  intro _ tree _ accepts _
  rw [makes.optional.made?_eq]
  by_cases null : tree = .null
  · subst null
    exact ⟨none, rfl, trivial⟩
  · obtain ⟨a, isValue⟩ := (accepted tree accepts).resolve_left null
    exact ⟨some a, by rw [Tree.asOptional?_of_ne null, isValue]; rfl, trivial⟩

theorem carries_limit :
    Carries (Reader.optional Reader.doubleValue) (fun _ => Accepts "maxSelect")
      fun _ _ => True := by
  refine carries_accepted .doubleValue fun tree accepts => accepts.imp_right ?_
  rintro ⟨numeral, n, rfl, inRange⟩
  exact ⟨n.toBinary64, by rw [Tree.asDouble?, inRange]; rfl⟩

theorem exists_mapM {τ α : Type} {f : τ → Option α} {items : List τ}
    (each : ∀ item ∈ items, ∃ a, f item = some a) : ∃ made, items.mapM f = some made := by
  induction items with
  | nil => exact ⟨[], rfl⟩
  | cons item items ih =>
    obtain ⟨a, isValue⟩ := each item List.mem_cons_self
    obtain ⟨made, isMade⟩ := ih fun item member => each item (List.mem_cons_of_mem _ member)
    exact ⟨a :: made, by rw [List.mapM_cons, isValue, isMade]; rfl⟩

theorem carries_values :
    Carries (Reader.optional (Reader.listValue Reader.textValue)) (fun _ => Accepts "values")
      fun _ _ => True := by
  refine carries_accepted (.listValue .textValue) fun tree accepts => accepts.imp_right ?_
  rintro ⟨items, last, rfl, texts⟩
  exact exists_mapM texts

theorem carries_target :
    Carries (Reader.optional Reader.textValue) (fun _ => Accepts "collectionId")
      fun _ _ => True :=
  carries_accepted .textValue fun _ accepts => accepts

/-- Whatever its type makes of the options of a field, it makes of a variant of them. -/
theorem Variant.carries (type : String) :
    Carries (Reader.record shape) (Variant type) fun o o' =>
      FieldKind.ofType? type o = FieldKind.ofType? type o' := by
  intro tree tree' o variant read
  cases variant with
  | rearranged rearranged =>
    obtain ⟨o', read', rfl⟩ := Rearranged.carries regular localReads tree tree' o rearranged read
    exact ⟨o, read', rfl⟩
  | unused known unused changed =>
    simp only [Shape.keys, shape, List.map_cons, List.map_nil, Member.free, List.mem_cons,
      List.not_mem_nil, or_false] at known
    rcases known with rfl | rfl | rfl
    · obtain ⟨o', read', others, a, a', -, rfl, rfl⟩ := Carries.record regular localReads
        (List.mem_of_getElem? (i := 0) rfl) carries_limit tree tree' o changed read
      exact ⟨_, read', ofType?_congr
        ⟨fun isUsed => absurd isUsed unused, fun _ => rfl, fun _ => rfl⟩⟩
    · obtain ⟨o', read', others, a, a', -, rfl, rfl⟩ := Carries.record regular localReads
        (List.mem_of_getElem? (i := 1) rfl) carries_values tree tree' o changed read
      exact ⟨_, read', ofType?_congr
        ⟨fun _ => rfl, fun isUsed => absurd isUsed unused, fun _ => rfl⟩⟩
    · obtain ⟨o', read', others, a, a', -, rfl, rfl⟩ := Carries.record regular localReads
        (List.mem_of_getElem? (i := 2) rfl) carries_target tree tree' o changed read
      exact ⟨_, read', ofType?_congr
        ⟨fun _ => rfl, fun _ => rfl, fun isUsed => absurd isUsed unused⟩⟩

end FieldOptions

/-- What is done with each element comes to the same when one element gives way to one like it. -/
theorem mapM_congr_at {ε α β : Type} {f : α → Except ε β} {a a' : α} (alike : f a = f a')
    (before behind : List α) :
    (before ++ a :: behind).mapM f = (before ++ a' :: behind).mapM f := by
  rw [List.mapM_append, List.mapM_append, List.mapM_cons, List.mapM_cons, alike]

/-- The field of an entry is the field of a variant of the entry. -/
theorem FieldEntry.Variant.carries :
    Carries (Reader.record shape) Variant fun f f' => Field.ofEntry f = Field.ofEntry f' := by
  intro tree tree' f variant read
  cases variant with
  | rearranged rearranged =>
    obtain ⟨f', read', rfl⟩ := Rearranged.carries regular localReads tree tree' f rearranged read
    exact ⟨f, read', rfl⟩
  | options isType changed =>
    rename_i type
    obtain ⟨_, isText⟩ := isType.text regular localReads (List.mem_of_getElem? (i := 2) rfl) read
    obtain ⟨f', read', others, o, o', alike, rfl, rfl⟩ := Carries.record regular localReads
      (List.mem_of_getElem? (i := 6) rfl)
      (FieldOptions.Variant.carries type) tree tree' f changed read
    have sameType : others.type = type := congrArg FieldEntry.type isText
    refine ⟨_, read', ?_⟩
    rw [← sameType] at alike
    simp only [Field.ofEntry, alike]

/-- The collection of an entry is the collection of a variant of the entry. -/
theorem CollectionEntry.Variant.carries :
    Carries (Reader.record shape) Variant fun c c' =>
      Collection.ofEntry c = Collection.ofEntry c' := by
  intro tree tree' c variant read
  cases variant with
  | rearranged rearranged =>
    obtain ⟨c', read', rfl⟩ := Rearranged.carries regular localReads tree tree' c rearranged read
    exact ⟨c, read', rfl⟩
  | field changed =>
    have fields := FieldEntry.Variant.carries.listValue FieldEntry.makes
    have schema := fields.optional FieldEntry.makes.listValue.self (by
      rintro tree tree' ⟨⟩
      exact ⟨Tree.noConfusion, Tree.noConfusion⟩)
    obtain ⟨c', read', others, _, _, ⟨_, _, oneField, rfl, rfl⟩, rfl, rfl⟩ :=
      Carries.record regular localReads (List.mem_of_getElem? (i := 9) rfl) schema tree tree' c
        changed read
    obtain ⟨before, behind, f, f', alike, rfl, rfl⟩ := oneField
    refine ⟨_, read', ?_⟩
    simp only [Collection.ofEntry, Collection.schemaOfEntry, mapM_congr_at alike]

namespace Document

/-- Documents that say the same of their collections. -/
inductive Variant : String → String → Prop
  | collection {before behind : Blank} {tree tree' : Tree}
      (changed : AtElement CollectionEntry.Variant tree tree') :
      Variant (text before tree behind) (text before tree' behind)

theorem collections_eq_ok_iff {document : String} {cs : List Collection} :
    collections document = .ok cs ↔
      ∃ es, (entries document).toOption = some es ∧ es.mapM Collection.ofEntry = .ok cs := by
  rw [collections]
  cases entries document with
  | error fault => simp [Except.toOption]
  | ok es => simp [Except.toOption]

theorem Variant.collections {document document' : String} (variant : Variant document document')
    {cs : List Collection} (read : Document.collections document = .ok cs) :
    Document.collections document' = .ok cs := by
  cases variant with
  | collection changed =>
    rename_i before behind tree tree'
    rw [collections_eq_ok_iff, entries_text] at read ⊢
    obtain ⟨es, isRead, isMade⟩ := read
    have elements := CollectionEntry.Variant.carries.listValue CollectionEntry.makes
    obtain ⟨_, read', first, more, c, c', alike, rfl, rfl⟩ :=
      elements tree tree' es changed isRead
    exact ⟨_, read', mapM_congr_at alike first more ▸ isMade⟩

/-- A document that is read is the text of a tree, and any number of changes leave its collections
as they are. -/
theorem collections_of_variants {document : String} {cs : List Collection}
    (read : collections document = .ok cs) :
    (∃ (before : Blank) (tree : Tree) (behind : Blank), document = text before tree behind) ∧
      ∀ document', Relation.ReflTransGen Variant document document' →
        collections document' = .ok cs := by
  constructor
  · rw [collections] at read
    split at read
    · exact exists_text_of_entries ‹_›
    · contradiction
  · intro document' variants
    induction variants with
    | refl => exact read
    | tail _ variant ih => exact variant.collections ih

/-- The characters that need no escape. -/
def Bare (s : String) : Prop :=
  ∀ c ∈ s.toList, c ≠ '"' ∧ c ≠ '\\' ∧ ¬c.toNat < 0x20

instance (s : String) : Decidable (Bare s) :=
  List.decidableBAll _ s.toList

theorem bare_id : Bare "id" := by
  decide

theorem bare_type : Bare "type" := by
  decide

theorem bare_options : Bare "options" := by
  decide

def bareText (s : String) (bare : Bare s) : Tree :=
  .text (s.toList.pmap Glyph.plain bare)

def entry (key : String) (bare : Bare key) (value : Tree) : Entry Tree :=
  ⟨.none, key.toList.pmap Glyph.plain bare, .none, .none, value, .none⟩

theorem key?_entry (key : String) (bare : Bare key) (value : Tree) :
    (entry key bare value).key? = some key := by
  have decoded : ∀ (characters : List Char) (bare),
      Glyph.decode? (characters.pmap Glyph.plain bare) = some characters := by
    intro characters bare
    induction characters with
    | nil => rfl
    | cons c characters ih =>
      rw [List.pmap_cons, Glyph.decode?, ih]
      rfl
  exact (congrArg (Option.map String.ofList) (decoded key.toList bare)).trans
    (congrArg some String.ofList_toList)

def list (value : Tree) : Tree :=
  .list [⟨.none, value, .none⟩] .none

def idEntry : Entry Tree :=
  entry "id" (by decide) (bareText "n1" (by decide))

def nameEntry : Entry Tree :=
  entry "name" (by decide) (bareText "notes" (by decide))

def typeEntry : Entry Tree :=
  entry "type" bare_type (bareText "text" (by decide))

/-- Options with values, which a field of type `text` does not use. -/
def optionsEntry (values : Tree) : Entry Tree :=
  entry "options" bare_options (.object [entry "values" (by decide) values] .none)

def helpEntry : Entry Tree :=
  entry "help" (by decide) (list .null)

/-- A document of one collection with one field. -/
def notes (front fieldEntries : List (Entry Tree)) : String :=
  let schema := list (.object fieldEntries .none)
  let tree := list (.object (front ++ [entry "schema" (by decide) schema]) .none)
  text .none tree .none

theorem variant_notes {fieldEntries fieldEntries' : List (Entry Tree)} (front : List (Entry Tree))
    (variant : FieldEntry.Variant (.object fieldEntries .none) (.object fieldEntries' .none)) :
    Variant (notes front fieldEntries) (notes front fieldEntries') := by
  refine .collection (@AtElement.list _ [] [] .none ⟨.none, _, .none⟩ _ (.field ?_))
  refine @AtMember.object _ _ _ front [] .none (entry _ _ _) _ (key?_entry ..) ?_
  exact @AtElement.list _ [] [] .none ⟨.none, _, .none⟩ _ variant

/-- Members change places, a member is added, and values that are not used become `null`. -/
theorem collections_of_variants_notes :
    let before := notes [idEntry, nameEntry] [nameEntry, typeEntry, optionsEntry (list (.text []))]
    let behind := notes [nameEntry, idEntry] [nameEntry, typeEntry, optionsEntry .null, helpEntry]
    Relation.ReflTransGen Variant before behind ∧
      ∃ cs, collections before = .ok cs ∧ collections behind = .ok cs := by
  intro before behind
  have reordered : Variant before
      (notes [nameEntry, idEntry] [nameEntry, typeEntry, optionsEntry (list (.text []))]) :=
    .collection (@AtElement.list _ [] [] .none ⟨.none, _, .none⟩ _
      (.rearranged (.reordered (.swap ..))))
  have inserted := variant_notes [nameEntry, idEntry] (.rearranged
    (@Rearranged.inserted _ [nameEntry, typeEntry, optionsEntry (list (.text []))] [] .none
      helpEntry "help" (key?_entry ..) (by decide)))
  have unused : FieldOptions.Variant "text"
      (.object [entry "values" (by decide) (list (.text []))] .none)
      (.object [entry "values" (by decide) .null] .none) :=
    .unused (by decide) (by decide)
      (@AtMember.object _ "values" _ [] [] .none (entry ..) .null (key?_entry ..) (.inl rfl))
  have replaced : Variant _ behind := variant_notes [nameEntry, idEntry] (.options
    ⟨_, _, rfl, .tail _ (.head _), rfl⟩
    (@AtMember.object _ _ _ [nameEntry, typeEntry] [helpEntry] .none (optionsEntry _) _
      (key?_entry ..) unused))
  have variants := ((Relation.ReflTransGen.single reordered).tail inserted).tail replaced
  refine ⟨variants, ?_⟩
  cases read : collections before with
  | error e =>
    have fails : (collections before).toOption.isSome := by decide +kernel
    rw [read] at fails
    contradiction
  | ok cs => exact ⟨cs, rfl, (collections_of_variants read).2 behind variants⟩

end Document

end CollectionTypes
