import CollectionTypes.Proofs.TakenTrees
import CollectionTypes.Proofs.TreeRecords
import CollectionTypes.Schema.Document

/-!
# Texts of documents

A document that is read is a tree with blanks around it, and it is read as its tree is: each record
by gathering its members, whatever stands around it.
-/

namespace CollectionTypes

open Json

namespace FieldOptions

theorem regular : shape.Regular where
  distinct := by decide
  commute := by
    simp only [shape, List.pairwise_cons, List.forall_mem_cons, List.not_mem_nil, false_implies,
      implies_true, and_true, List.Pairwise.nil]
    and_intros
    all_goals exact .of_sets fun _ _ _ => rfl

theorem localReads : shape.Local := by
  simp only [Shape.Local, shape, List.forall_mem_cons, List.not_mem_nil, false_implies,
    implies_true, and_true]
  exact ⟨(Makes.doubleValue.optional.map _).self, (Makes.textValue.listValue.optional.map _).self,
    (Makes.textValue.optional.map _).self⟩

theorem makes : Makes (Reader.record shape) (made? (Reader.record shape)) :=
  (Makes.record regular localReads).self

theorem takesTree : TakesTree (Reader.record shape) := by
  refine .record ?_
  simp only [shape, List.forall_mem_cons, List.not_mem_nil, false_implies, implies_true, and_true]
  exact ⟨TakesTree.doubleValue.optional.map, TakesTree.textValue.listValue.optional.map,
    TakesTree.textValue.optional.map⟩

end FieldOptions

namespace FieldEntry

theorem regular : shape.Regular where
  distinct := by decide
  commute := by
    simp only [shape, List.pairwise_cons, List.forall_mem_cons, List.not_mem_nil, false_implies,
      implies_true, and_true, List.Pairwise.nil]
    and_intros
    all_goals exact .of_sets fun _ _ _ => rfl

theorem localReads : shape.Local := by
  simp only [Shape.Local, shape, List.forall_mem_cons, List.not_mem_nil, false_implies,
    implies_true, and_true]
  exact ⟨(Makes.textValue.map _).self, (Makes.textValue.map _).self, (Makes.textValue.map _).self,
    (Makes.boolValue.map _).self, (Makes.boolValue.map _).self, (Makes.boolValue.map _).self,
    (FieldOptions.makes.map _).self⟩

theorem makes : Makes (Reader.record shape) (made? (Reader.record shape)) :=
  (Makes.record regular localReads).self

theorem takesTree : TakesTree (Reader.record shape) := by
  refine .record ?_
  simp only [shape, List.forall_mem_cons, List.not_mem_nil, false_implies, implies_true, and_true]
  exact ⟨TakesTree.textValue.map, TakesTree.textValue.map, TakesTree.textValue.map,
    TakesTree.boolValue.map, TakesTree.boolValue.map, TakesTree.boolValue.map,
    FieldOptions.takesTree.map⟩

end FieldEntry

namespace CollectionEntry

theorem regular : shape.Regular where
  distinct := by decide
  commute := by
    simp only [shape, List.pairwise_cons, List.forall_mem_cons, List.not_mem_nil, false_implies,
      implies_true, and_true, List.Pairwise.nil]
    and_intros
    all_goals exact .of_sets fun _ _ _ => rfl

theorem localReads : shape.Local := by
  have text (set : String → CollectionEntry → CollectionEntry) := (Makes.textValue.map set).self
  have rule (set : Option String → CollectionEntry → CollectionEntry) :=
    (Makes.textValue.optional.map set).self
  simp only [Shape.Local, shape, List.forall_mem_cons, List.not_mem_nil, false_implies,
    implies_true, and_true]
  exact ⟨text _, text _, text _, (Makes.boolValue.map _).self,
    rule _, rule _, rule _, rule _, rule _,
    (FieldEntry.makes.listValue.optional.map _).self,
    ((Makes.anyValue optionsDepth).optional.map _).self⟩

theorem makes : Makes (Reader.record shape) (made? (Reader.record shape)) :=
  (Makes.record regular localReads).self

theorem takesTree : TakesTree (Reader.record shape) := by
  have rule (set : Option String → CollectionEntry → CollectionEntry) :
      TakesTree (set <$> Reader.optional Reader.textValue) := TakesTree.textValue.optional.map
  refine .record ?_
  simp only [shape, List.forall_mem_cons, List.not_mem_nil, false_implies, implies_true, and_true]
  exact ⟨TakesTree.textValue.map, TakesTree.textValue.map, TakesTree.textValue.map,
    TakesTree.boolValue.map, rule _, rule _, rule _, rule _, rule _,
    FieldEntry.takesTree.listValue.optional.map, (TakesTree.anyValue optionsDepth).optional.map⟩

end CollectionEntry

namespace Document

/-- The text of a tree with blanks around it. -/
def text (before : Blank) (tree : Tree) (behind : Blank) : String :=
  String.ofList (before.chars ++ (tree.chars ++ behind.chars))

/-- Which entries a document has, faults forgotten. -/
theorem toOption_entries (document : String) :
    (entries document).toOption = (entriesReader.run? document.toList).map (·.1) := by
  rw [entries, Reader.run?]
  cases entriesReader document.toList <;> rfl

/-- A document is read as its tree is. -/
theorem entries_text (before : Blank) (tree : Tree) (behind : Blank) :
    (entries (text before tree behind)).toOption =
      made? (Reader.listValue (Reader.record CollectionEntry.shape)) tree := by
  have follows : Follows (behind.chars ++ []) := .blank_append behind (.of_ends .document)
  have read := CollectionEntry.makes.listValue.self tree before behind.chars
    (by rwa [List.append_nil] at follows)
  have ended : Reader.nextSolid?.run? behind.chars = some (none, []) := by
    refine Reader.run?_of_apply ?_
    rw [Reader.nextSolid?, List.dropWhile_eq_nil_iff.mpr behind.blank]
    rfl
  rw [toOption_entries, text, String.toList_ofList, entriesReader, Reader.run?_bind, read]
  cases made? (Reader.listValue (Reader.record CollectionEntry.shape)) tree with
  | none => rfl
  | some es => simp [ended]

/-- A document that is read is the text of a tree. -/
theorem exists_text_of_entries {document : String} {es : List CollectionEntry}
    (read : entries document = .ok es) :
    ∃ (before : Blank) (tree : Tree) (behind : Blank), document = text before tree behind := by
  have run := toOption_entries document
  rw [read] at run
  obtain ⟨⟨_, rest⟩, taken, -⟩ := Option.map_eq_some_iff.mp run.symm
  obtain ⟨_, _, list, ended⟩ := Reader.run?_bind_eq_some_iff.mp taken
  obtain ⟨before, tree, shape⟩ := CollectionEntry.takesTree.listValue _ _ _ list
  obtain ⟨behind, solid, rfl, last⟩ := Reader.taken_blank ended
  cases solid with
  | nil =>
    rw [List.append_nil] at shape
    exact ⟨before, tree, behind, by rw [text, ← shape, String.ofList_toList]⟩
  | cons c more => contradiction

end Document

end CollectionTypes
