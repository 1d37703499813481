import CollectionTypes.Proofs.LineReading
import CollectionTypes.Proofs.ModuleLines
import Mathlib.Data.List.Nodup

/-!
# Option enums

The enum of a select field, read by someone who knows nothing of the field. It has a line for each
option that the field declares, in the order in which the options are first mentioned and however
often they are, and each line tells the option twice, whatever characters the option is made of.

Specification: section 4.3 (declared values in order, each once).
-/

namespace CollectionTypes.TypeScript

/-- What is written for the options of a field. -/
def optionEnumText? (collection : String) (field : Field) : Option String :=
  (optionEnum? collection field).map fun d => joinLines d.lines

/-- The options are the declared values, each once and in the order of first mention. -/
structure FirstMentions (values options : List String) : Prop where
  nodup : options.Nodup
  mem : ∀ value, value ∈ options ↔ value ∈ values
  ordered : options.Pairwise fun a b => values.idxOf a < values.idxOf b

namespace FirstMentions

variable {values options : List String} {value : String}

theorem nil : FirstMentions [] [] :=
  ⟨.nil, fun _ => .rfl, .nil⟩

/-- The values that come in behind leave the first mentions where they are. -/
theorem ordered_append (mentions : FirstMentions values options) (more : List String) :
    options.Pairwise fun a b => (values ++ more).idxOf a < (values ++ more).idxOf b := by
  refine mentions.ordered.imp_of_mem fun {a b} first second before => ?_
  rwa [List.idxOf_append_of_mem ((mentions.mem a).mp first),
    List.idxOf_append_of_mem ((mentions.mem b).mp second)]

/-- A value that was mentioned before is not put down again. -/
theorem again (mentions : FirstMentions values options) (known : value ∈ values) :
    FirstMentions (values ++ [value]) options where
  nodup := mentions.nodup
  mem other := by
    rw [mentions.mem, List.mem_append, List.mem_singleton]
    exact ⟨.inl, fun either => either.elim id fun same => same ▸ known⟩
  ordered := mentions.ordered_append [value]

/-- A new value is put behind the others. -/
theorem concat (mentions : FirstMentions values options) (new : value ∉ values) :
    FirstMentions (values ++ [value]) (options ++ [value]) where
  nodup := by
    rw [List.nodup_append_comm, List.singleton_append, List.nodup_cons, mentions.mem]
    exact ⟨new, mentions.nodup⟩
  mem other := by simp [mentions.mem]
  ordered := by
    refine List.pairwise_append.mpr
      ⟨mentions.ordered_append [value], List.pairwise_singleton _ _, ?_⟩
    intro a first b last
    have mentioned := (mentions.mem a).mp first
    rw [List.mem_singleton.mp last, List.idxOf_append_of_mem mentioned,
      List.idxOf_append_of_notMem new]
    exact Nat.lt_of_lt_of_le (List.idxOf_lt_length_of_mem mentioned) (Nat.le_add_right ..)

end FirstMentions

/-- One more value is put behind the others, unless it is one of them. -/
theorem eraseDups_concat (values : List String) (value : String) :
    (values ++ [value]).eraseDups =
      if value ∈ values then values.eraseDups else values.eraseDups ++ [value] := by
  rw [List.eraseDups_append]
  split
  next known => simp [List.removeAll, known]
  next new => simp [List.removeAll, new, List.eraseDups_cons]

theorem firstMentions_eraseDups (values : List String) :
    FirstMentions values values.eraseDups := by
  induction values using List.reverseRecOn with
  | nil => exact .nil
  | append_singleton values value ih =>
    rw [eraseDups_concat]
    split
    next known => exact ih.again known
    next new => exact ih.concat new

section Lines

/-- The enum of a field with the given options. -/
def enumOfOptions (collection : String) (field : Field) (options : List String) :
    EnumDeclaration :=
  ⟨optionEnumName collection field.name, options.map fun value => ⟨.quoted value, value⟩⟩

variable (collection : String) (field : Field) (options : List String)

theorem textLines_optionEnum {d : EnumDeclaration}
    (found : optionEnum? collection field = some d) :
    textLines (joinLines d.lines) = d.lines :=
  textLines_joinLines (List.cons_ne_nil _ _) (opens_of_optionEnum? found).oneLine

/-- Each line tells its option as a key and as a value. -/
theorem read?_enumOfOptions :
    ((enumOfOptions collection field options).members.map (·.line)).map EnumMember.read? =
      options.map fun value => some ⟨.quoted value, value⟩ := by
  rw [enumOfOptions, List.map_map, List.map_map]
  apply List.map_congr_left
  intro value _
  have readable : (EnumMember.mk (.quoted value) value).key.Readable := trivial
  rw [Function.comp_apply, Function.comp_apply, EnumMember.read?_line readable]

end Lines

/-- The enum of a select field has a line for each declared option and no other, in the order of
first mention, and every line gives the option back as its key and as its value; where no options
are listed there is one blank line. A field that declares no options has no enum. -/
theorem option_enum_tells_options (collection : String) (field : Field) :
    match field.kind with
    | .select (some values) _ => ∃ options text body,
        optionValues? field = some options ∧ FirstMentions values options ∧
        optionEnumText? collection field = some text ∧
        textLines text =
          ("export enum " ++ optionEnumName collection field.name ++ " \x7b") :: (body ++ ["\x7d"]) ∧
        if values = [] then body = [""]
        else body.map EnumMember.read? = options.map fun value => some ⟨.quoted value, value⟩
    | _ => optionValues? field = none ∧ optionEnumText? collection field = none := by
  split
  next values limit kind =>
    have declared : optionValues? field = some values.eraseDups := by rw [optionValues?, kind]
    have found : optionEnum? collection field =
        some (enumOfOptions collection field values.eraseDups) := by
      rw [optionEnum?, declared]
      rfl
    have lines := textLines_optionEnum collection field found
    refine ⟨_, _, _, declared, firstMentions_eraseDups values, ?_, lines, ?_⟩
    · rw [optionEnumText?, found]
      rfl
    · have read := read?_enumOfOptions collection field values.eraseDups
      cases values with
      | nil => rfl
      | cons first more =>
        rw [if_neg (List.cons_ne_nil _ _), ← read, bodyLines, if_neg]
        simp [enumOfOptions, List.eraseDups_cons]
  next noOptions =>
    have undeclared : optionValues? field = none := by
      unfold optionValues?
      split
      next values limit kind => exact absurd kind (noOptions values limit)
      · rfl
    refine ⟨undeclared, ?_⟩
    rw [optionEnumText?, optionEnum?, undeclared]
    rfl

/-- What looks like a line of its own within the quotes belongs to the option. -/
theorem option_enum_tells_options_moods :
    let field := Field.plain "mood" (.select (some ["calm", "x\" = \"y\",\n", "", "calm"]) none)
    ∃ text body, optionEnumText? "diary" field = some text ∧
      textLines text = "export enum DiaryMoodOptions \x7b" :: (body ++ ["\x7d"]) ∧
      body.map EnumMember.read? = ["calm", "x\" = \"y\",\n", ""].map fun value =>
        some ⟨.quoted value, value⟩ := by
  intro field
  obtain ⟨options, text, body, declared, -, written, lines, each⟩ :=
    option_enum_tells_options "diary" field
  obtain rfl := Option.some.inj declared
  have name : optionEnumName "diary" field.name = "DiaryMoodOptions" := by decide
  have once : ["calm", "x\" = \"y\",\n", "", "calm"].eraseDups =
      ["calm", "x\" = \"y\",\n", ""] := by decide
  rw [if_neg (List.cons_ne_nil _ _), once] at each
  rw [name] at lines
  exact ⟨text, body, written, lines, each⟩

end CollectionTypes.TypeScript
