import CollectionTypes.Proofs.Insertion

/-!
# Edited fields

What the fields of one collection have a say in. Other collections see of it the id, the name, the
kind and whether it has a schema; they never look at its fields, also where they expand to it. So an
edit of the fields can show in the record block and in the response type of that collection only,
and all other lines of the text stay as they are.

Specification: sections 4.5 and 4.6 (expansion is one level deep).
-/

namespace CollectionTypes

variable {α β : Type}

/-- The same pieces, but for the one that `n` others stand before. -/
def ReplacedAt (n : Nat) (piece other : α) (pieces others : List α) : Prop :=
  ∃ front back, front.length = n ∧ pieces = front ++ piece :: back ∧
    others = front ++ other :: back

/-- Two collections that may differ in all that other collections do not see. -/
structure Collection.SeenAlike (c d : Collection) : Prop where
  id : d.id = c.id
  name : d.name = c.name
  kind : d.kind = c.kind
  schema : c.declaresSchema = true ∧ d.declaresSchema = true

namespace Catalog

variable {c d : Collection}

theorem place_seenAlike (alike : c.SeenAlike d) (placed : List Collection) :
    ∃ front back, place c placed = front ++ c :: back ∧ place d placed = front ++ d :: back := by
  induction placed with
  | nil => exact ⟨[], [], rfl, rfl⟩
  | cons e rest ih =>
    rw [place, place, alike.name]
    split
    · obtain ⟨front, back, left, right⟩ := ih
      exact ⟨e :: front, back, by rw [left, List.cons_append], by rw [right, List.cons_append]⟩
    · exact ⟨[], e :: rest, rfl, rfl⟩

/-- One more collection goes to the same place among either of the two lists. -/
theorem place_among (alike : c.SeenAlike d) (e : Collection) (front back : List Collection) :
    ∃ front' back', place e (front ++ c :: back) = front' ++ c :: back' ∧
      place e (front ++ d :: back) = front' ++ d :: back' := by
  induction front with
  | nil =>
    rw [List.nil_append, List.nil_append, place, place, alike.name]
    split
    · exact ⟨[], place e back, rfl, rfl⟩
    · exact ⟨[e], back, rfl, rfl⟩
  | cons head rest ih =>
    rw [List.cons_append, List.cons_append, place, place]
    split
    · obtain ⟨front', back', left, right⟩ := ih
      exact ⟨head :: front', back', by rw [left, List.cons_append], by rw [right, List.cons_append]⟩
    · exact ⟨e :: head :: rest, back, rfl, rfl⟩

theorem ofCollections_seenAlike (alike : c.SeenAlike d) (before after : List Collection) :
    ∃ front back, ofCollections (before ++ c :: after) = ⟨front ++ c :: back⟩ ∧
      ofCollections (before ++ d :: after) = ⟨front ++ d :: back⟩ := by
  have placed : ∀ front back, ∃ front' back',
      after.foldl (fun placed e => place e placed) (front ++ c :: back) = front' ++ c :: back' ∧
      after.foldl (fun placed e => place e placed) (front ++ d :: back) = front' ++ d :: back' := by
    induction after with
    | nil => exact fun front back => ⟨front, back, rfl, rfl⟩
    | cons e after ih =>
      intro front back
      obtain ⟨front', back', left, right⟩ := place_among alike e front back
      rw [List.foldl_cons, List.foldl_cons, left, right]
      exact ih front' back'
  obtain ⟨front, back, left, right⟩ :=
    place_seenAlike alike (before.foldl (fun placed e => place e placed) [])
  obtain ⟨front', back', left', right'⟩ := placed front back
  refine ⟨front', back', ?_, ?_⟩
  · rw [ofCollections, List.foldl_append, List.foldl_cons, left, left']
  · rw [ofCollections, List.foldl_append, List.foldl_cons, right, right']

variable {front back : List Collection}

/-- Every id leads to the same collection, or to the edited one from before and after the edit. -/
theorem map_lookup?_seenAlike {f : Collection → β} (alike : c.SeenAlike d) (same : f c = f d)
    (id : String) :
    (lookup? ⟨front ++ c :: back⟩ id).map f = (lookup? ⟨front ++ d :: back⟩ id).map f := by
  simp only [lookup?_eq_findRev?, List.findRev?_eq_find?_reverse, List.reverse_append,
    List.reverse_cons, List.append_assoc, List.find?_append, List.singleton_append,
    List.find?_cons, alike.id]
  cases back.reverse.find? (·.id == id) with
  | some e => rfl
  | none => cases c.id == id <;> simp [same]

theorem described_parts (declares : c.declaresSchema = true) :
    described ⟨front ++ c :: back⟩ =
      front.filter (·.declaresSchema) ++ c :: back.filter (·.declaresSchema) := by
  rw [described, List.filter_append, List.filter_cons_of_pos declares]

end Catalog

namespace TypeScript

open Catalog (described_parts map_lookup?_seenAlike)

/-- What an edit of the fields of a collection leaves of a module. -/
structure OwnPiecesEdited (c d : Collection) (response edited : ResponseDeclaration)
    (m more : Module) : Prop where
  /-- The two pieces stand behind the same number of those of other collections. -/
  own : ∃ n, ReplacedAt n (.ofCollection c) (.ofCollection d) m.records more.records ∧
    ReplacedAt n response edited m.responses more.responses
  collections : more.collections = m.collections
  recordLookup : more.recordLookup = m.recordLookup
  responseLookup : more.responseLookup = m.responseLookup
  /-- All lines but those of the two pieces are the same, one by one. -/
  lines : ∃ top middle bottom,
    m.lines = top ++ ((RecordBlock.ofCollection c).lines ++
      (middle ++ (response.lines ++ bottom))) ∧
    more.lines = top ++ ((RecordBlock.ofCollection d).lines ++
      (middle ++ (edited.lines ++ bottom)))

section Edited

variable {c d : Collection} {front back : List Collection}

theorem resolvedResponse_seenAlike (alike : c.SeenAlike d) :
    resolvedResponse ⟨front ++ c :: back⟩ = resolvedResponse ⟨front ++ d :: back⟩ := by
  funext e
  have expand : expandedProperty? ⟨front ++ c :: back⟩ =
      expandedProperty? ⟨front ++ d :: back⟩ := by
    funext field
    rw [expandedProperty?, expandedProperty?]
    split
    next target limit _ =>
      refine map_lookup?_seenAlike alike ?_ target
      rw [expandedProperty, expandedProperty, expandedType, expandedType, alike.name, alike.kind,
        alike.schema.1, alike.schema.2]
    · rfl
  rw [resolvedResponse, resolvedResponse, expand]

theorem collectionsEnum_seenAlike (alike : c.SeenAlike d) :
    collectionsEnum ⟨front ++ d :: back⟩ = collectionsEnum ⟨front ++ c :: back⟩ := by
  simp only [collectionsEnum, List.map_append, List.map_cons, alike.name]

theorem lookupType_seenAlike (alike : c.SeenAlike d) (name : String) (typeName : String → String) :
    lookupType name typeName ⟨front ++ d :: back⟩ =
      lookupType name typeName ⟨front ++ c :: back⟩ := by
  simp only [lookupType, described_parts alike.schema.1, described_parts alike.schema.2,
    List.map_append, List.map_cons, alike.name]

/-- The lines of a module around one record block and one response type. -/
theorem lines_around {m : Module} {blocks blocks' : List RecordBlock} {block : RecordBlock}
    {responses responses' : List ResponseDeclaration} {response : ResponseDeclaration}
    (records : m.records = blocks ++ block :: blocks')
    (declarations : m.responses = responses ++ response :: responses') :
    m.lines =
      (generatedComment ++
        ([m.collections.lines, aliasLines, baseSystemFieldsLines, authSystemFieldsLines,
          recordComment] ++ blocks.map (·.lines)).flatMap ("" :: ·) ++ [""]) ++
      (block.lines ++
      (((blocks'.map (·.lines)).flatMap ("" :: ·) ++
        ("" :: (responseComment ++ responses.flatMap (·.lines)))) ++
      (response.lines ++
      (responses'.flatMap (·.lines) ++
        [m.recordLookup.lines, m.responseLookup.lines].flatMap ("" :: ·))))) := by
  rw [Module.lines, Module.parts, List.append_assoc, List.cons_append, separated_cons, records,
    responseLines, declarations]
  simp only [List.map_append, List.map_cons, List.flatMap_append, List.flatMap_cons,
    List.flatMap_nil, List.append_assoc, List.cons_append, List.nil_append, List.append_nil]

theorem records_parts (front back : List Collection) (declares : c.declaresSchema = true) :
    (resolvedModule ⟨front ++ c :: back⟩).records =
      (front.filter (·.declaresSchema)).map .ofCollection ++
        .ofCollection c :: (back.filter (·.declaresSchema)).map .ofCollection := by
  rw [resolvedModule, recordBlocks, described_parts declares, List.map_append, List.map_cons]

theorem responses_parts (front back : List Collection) (declares : c.declaresSchema = true) :
    (resolvedModule ⟨front ++ c :: back⟩).responses =
      (front.filter (·.declaresSchema)).map (resolvedResponse ⟨front ++ c :: back⟩) ++
        resolvedResponse ⟨front ++ c :: back⟩ c ::
          (back.filter (·.declaresSchema)).map (resolvedResponse ⟨front ++ c :: back⟩) := by
  rw [resolvedModule, described_parts declares, List.map_append, List.map_cons]

theorem ownPiecesEdited_resolved (alike : c.SeenAlike d) :
    OwnPiecesEdited c d (resolvedResponse ⟨front ++ c :: back⟩ c)
      (resolvedResponse ⟨front ++ d :: back⟩ d)
      (resolvedModule ⟨front ++ c :: back⟩) (resolvedModule ⟨front ++ d :: back⟩) := by
  have records := records_parts front back alike.schema.1
  have responses := responses_parts front back alike.schema.1
  have editedRecords := records_parts front back alike.schema.2
  have editedResponses := responses_parts front back alike.schema.2
  rw [← resolvedResponse_seenAlike alike] at editedResponses ⊢
  have collections : (resolvedModule ⟨front ++ d :: back⟩).collections =
      (resolvedModule ⟨front ++ c :: back⟩).collections := collectionsEnum_seenAlike alike
  have recordLookup : (resolvedModule ⟨front ++ d :: back⟩).recordLookup =
      (resolvedModule ⟨front ++ c :: back⟩).recordLookup := lookupType_seenAlike alike _ _
  have responseLookup : (resolvedModule ⟨front ++ d :: back⟩).responseLookup =
      (resolvedModule ⟨front ++ c :: back⟩).responseLookup := lookupType_seenAlike alike _ _
  refine ⟨⟨(front.filter (·.declaresSchema)).length, ?_, ?_⟩, collections, recordLookup,
    responseLookup, _, _, _, lines_around records responses, ?_⟩
  · exact ⟨_, _, List.length_map _, records, editedRecords⟩
  · exact ⟨_, _, List.length_map _, responses, editedResponses⟩
  · rw [lines_around editedRecords editedResponses, collections, recordLookup, responseLookup]

end Edited

/-- Whatever the fields of a collection are, the module looks the same outside its own record block
and its own response type. Ids may repeat and relations may lead anywhere. -/
theorem generate_of_edited_fields (before after : List Collection) (c d : Collection)
    (text editedText : String) (alike : c.SeenAlike d)
    (success : CollectionTypes.generate (before ++ c :: after) = .ok text)
    (editedSuccess : CollectionTypes.generate (before ++ d :: after) = .ok editedText) :
    ∃ m more response edited,
      Module.ofCatalog (.ofCollections (before ++ c :: after)) = .ok m ∧ m.text = text ∧
      Module.ofCatalog (.ofCollections (before ++ d :: after)) = .ok more ∧
      more.text = editedText ∧
      responseType (.ofCollections (before ++ c :: after)) c = .ok response ∧
      responseType (.ofCollections (before ++ d :: after)) d = .ok edited ∧
      OwnPiecesEdited c d response edited m more ∧
      textLines text = m.lines ∧ textLines editedText = more.lines := by
  obtain ⟨resolved, rfl⟩ := (generate_eq_ok_iff _ text).mp success
  obtain ⟨editedResolved, rfl⟩ := (generate_eq_ok_iff _ editedText).mp editedSuccess
  have member : c ∈ (Catalog.ofCollections (before ++ c :: after)).collections :=
    (Catalog.mem_ofCollections _ c).mpr (by simp)
  have editedMember : d ∈ (Catalog.ofCollections (before ++ d :: after)).collections :=
    (Catalog.mem_ofCollections _ d).mpr (by simp)
  refine ⟨_, _, _, _, Module.ofCatalog_of_resolved resolved, rfl,
    Module.ofCatalog_of_resolved editedResolved, rfl, responseType_of_resolved resolved member,
    responseType_of_resolved editedResolved editedMember, ?_, textLines_text _, textLines_text _⟩
  obtain ⟨front, back, placed, editedPlaced⟩ :=
    Catalog.ofCollections_seenAlike alike before after
  rw [placed, editedPlaced]
  exact ownPiecesEdited_resolved alike

/-- The polls refer to it, whatever its own fields are. -/
def book (fields : List Field) : Collection :=
  { Collection.withoutFields "g" "guest book" .base with schema := some fields }

theorem generate_of_edited_book :
    ∃ text editedText m more response edited,
      (book [.plain "pages" .json]).SeenAlike (book [.plain "poll" (.relation "p" none)]) ∧
      CollectionTypes.generate ([polls] ++ [book [.plain "pages" .json]]) = .ok text ∧
      CollectionTypes.generate ([polls] ++ [book [.plain "poll" (.relation "p" none)]]) =
        .ok editedText ∧
      m.text = text ∧ more.text = editedText ∧
      OwnPiecesEdited (book [.plain "pages" .json]) (book [.plain "poll" (.relation "p" none)])
        response edited m more ∧
      textLines text = m.lines ∧ textLines editedText = more.lines ∧
      response.expand.length = 0 ∧ edited.expand.length = 1 := by
  have alike : (book [.plain "pages" .json]).SeenAlike
      (book [.plain "poll" (.relation "p" none)]) := ⟨rfl, rfl, rfl, rfl, rfl⟩
  have resolved : (Catalog.ofCollections
      ([polls] ++ [book [.plain "pages" .json]])).firstDangling? = none := by decide
  have editedResolved : (Catalog.ofCollections
      ([polls] ++ [book [.plain "poll" (.relation "p" none)]])).firstDangling? = none := by decide
  have success := generate_of_resolved resolved
  have editedSuccess := generate_of_resolved editedResolved
  obtain ⟨m, more, response, edited, _, same, _, editedSame, isResponse, isEdited, pieces,
    lines, editedLines⟩ := generate_of_edited_fields [polls] [] _ _ _ _ alike success editedSuccess
  have member : book [.plain "pages" .json] ∈ (Catalog.ofCollections
      ([polls] ++ [book [.plain "pages" .json]])).collections := by
    simp [Catalog.mem_ofCollections]
  have editedMember : book [.plain "poll" (.relation "p" none)] ∈ (Catalog.ofCollections
      ([polls] ++ [book [.plain "poll" (.relation "p" none)]])).collections := by
    simp [Catalog.mem_ofCollections]
  rw [responseType_of_resolved resolved member] at isResponse
  rw [responseType_of_resolved editedResolved editedMember] at isEdited
  refine ⟨_, _, m, more, response, edited, alike, success, editedSuccess, same, editedSame,
    pieces, lines, editedLines, ?_, ?_⟩
  · rw [← Except.ok.inj isResponse]
    decide
  · rw [← Except.ok.inj isEdited]
    decide

end TypeScript

end CollectionTypes
