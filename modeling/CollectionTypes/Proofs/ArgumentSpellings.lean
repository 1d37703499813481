import CollectionTypes.Proofs.ArgumentScans

/-!
# Spellings of arguments

The ways in which requests are written as arguments: by long names or by letters, flags together in
front of each other or of an option, values apart, attached or behind a `=`. What the arguments come
to is told by the requests alone, as a set.
-/

namespace CollectionTypes.CommandLine

def Flag.name : Flag → String
  | .stdout => "stdout"
  | .quiet => "quiet"
  | .verbose => "verbose"

namespace ValueOption

def name : ValueOption → String
  | .json => "json"
  | .out => "out"

def letter : ValueOption → Char
  | .json => 'j'
  | .out => 'o'

end ValueOption

/-- The flags that have a letter. -/
inductive LetterFlag where
  | quiet
  | verbose
  deriving DecidableEq, Repr

namespace LetterFlag

def letter : LetterFlag → Char
  | .quiet => 'q'
  | .verbose => 'v'

def flag : LetterFlag → Flag
  | .quiet => .quiet
  | .verbose => .verbose

/-- What the flag asks for, wherever it stands among the letters. -/
def request (f : LetterFlag) : Request :=
  .flag f.flag

end LetterFlag

/-- How a value stands behind the letter of its option. -/
inductive Placing where
  | apart
  | attached
  | equals
  deriving DecidableEq, Repr

/-- Arguments that are written together. -/
inductive Piece where
  /-- As in `--quiet`. -/
  | longFlag (flag : Flag)
  /-- As in `--json X`. -/
  | longApart (option : ValueOption) (value : String)
  /-- As in `--json=X`. -/
  | longEquals (option : ValueOption) (value : String)
  /-- As in `-qv`. -/
  | letters (first : LetterFlag) (more : List LetterFlag)
  /-- As in `-qvj X`, `-qvjX` and `-qvj=X`, also without flags. -/
  | lettersOption (flags : List LetterFlag) (option : ValueOption) (value : String)
      (placing : Placing)
  deriving DecidableEq, Repr

namespace Piece

/-- A piece may ask for several things, from left to right. -/
def requests : Piece → List Request
  | .longFlag f => [.flag f]
  | .longApart o v | .longEquals o v => [.value o v]
  | .letters first more => (first :: more).map (·.request)
  | .lettersOption flags o v _ => flags.map (·.request) ++ [.value o v]

/-- The letters of an option behind those of flags, with what is attached to them. -/
def lettersWith (flags : List LetterFlag) (option : ValueOption) (attached : List Char) : String :=
  String.ofList ('-' :: (flags.map (·.letter) ++ option.letter :: attached))

/-- The one or two arguments that a piece is written in. -/
def arguments : Piece → List String
  | .longFlag f => ["--" ++ f.name]
  | .longApart o v => ["--" ++ o.name, v]
  | .longEquals o v => ["--" ++ o.name ++ "=" ++ v]
  | .letters first more => [String.ofList ('-' :: (first :: more).map (·.letter))]
  | .lettersOption flags o v .apart => [lettersWith flags o [], v]
  | .lettersOption flags o v .attached => [lettersWith flags o v.toList]
  | .lettersOption flags o v .equals => [lettersWith flags o ('=' :: v.toList)]

end Piece

section Forms

/-- An argument that does not begin with a dash is a plain one. -/
theorem Form.of_plain {value : String} {c : Char} {rest : List Char}
    (shape : value.toList = c :: rest) (noDash : c ≠ '-') : Form.of value = .plain value := by
  rw [Form.of, shape]
  split
  · next same => exact absurd (List.cons.inj same).1 noDash
  · next same => exact absurd (List.cons.inj same).1 noDash
  · next same => exact absurd (List.cons.inj same).1 noDash
  · rfl

/-- One dash and a letter make a cluster of letters. -/
theorem Form.of_letters {c : Char} (letters : List Char) (noDash : c ≠ '-') :
    Form.of (String.ofList ('-' :: c :: letters)) = .short (c :: letters) := by
  rw [Form.of, String.toList_ofList]
  split
  · next same => exact absurd (List.cons.inj (List.cons.inj same).2).1 noDash
  · next same => exact absurd (List.cons.inj (List.cons.inj same).2).1 noDash
  · next letter more _ same =>
    obtain ⟨rfl, rfl⟩ := List.cons.inj (List.cons.inj same).2
    rfl
  · next none => exact absurd rfl (none c letters)

theorem Form.of_longFlag (flag : Flag) :
    Form.of ("--" ++ flag.name) = .long flag.name.toList none := by
  cases flag <;> decide

theorem Form.of_longOption (option : ValueOption) :
    Form.of ("--" ++ option.name) = .long option.name.toList none := by
  cases option <;> decide

/-- The value of a long option may stand behind an equals sign. -/
theorem Form.of_longEquals (option : ValueOption) (value : String) :
    Form.of ("--" ++ option.name ++ "=" ++ value) =
      .long option.name.toList (some value.toList) := by
  rw [Form.of, String.toList_append]
  cases option <;> rfl

end Forms

namespace Scan

variable {scan : Scan} {requests : List Request}

/-- As long as no `--` has come, a long form is taken by its name. -/
theorem take_long {text : String} {name : List Char} {value : Option (List Char)}
    (holds : Holds scan requests) (form : Form.of text = .long name value) :
    scan.take text = scan.takeLong name value := by
  rw [take, holds.separated, if_neg Bool.false_ne_true, form]

theorem take_short {text : String} {letters : List Char} (holds : Holds scan requests)
    (form : Form.of text = .short letters) : scan.take text = scan.takeShort letters := by
  rw [take, holds.separated, if_neg Bool.false_ne_true, form]

theorem takeLong_flag (flag : Flag) :
    scan.takeLong flag.name.toList none = scan.takeFlag flag := by
  cases flag <;> rfl

theorem takeLong_option (option : ValueOption) (value : Option (List Char)) :
    scan.takeLong option.name.toList value = scan.takeOption option value := by
  cases option <;> rfl

/-- The letter of an option takes all the letters behind it as its value. -/
theorem takeShort_option (option : ValueOption) (letters : List Char) :
    scan.takeShort (option.letter :: letters) =
      scan.takeOption option (attachedValue letters) := by
  cases option <;> rfl

/-- Without an equals sign in front, all the letters are the value. -/
theorem attachedValue_of_ne {c : Char} (rest : List Char) (noEquals : c ≠ '=') :
    attachedValue (c :: rest) = some (c :: rest) := by
  unfold attachedValue
  split
  · next none => exact absurd none (List.cons_ne_nil c rest)
  · next same => exact absurd (List.cons.inj same).1 noEquals
  · rfl

theorem foldlM_one {text : String} {next : Scan} (taken : scan.take text = .ok next) :
    [text].foldlM take scan = .ok next := by
  rw [List.foldlM_cons, taken]
  rfl

/-- The value of an option stands apart from it. -/
theorem foldlM_apart {text : String} {option : ValueOption} {value : String}
    (waits : scan.take text = .ok ((settled requests).await option))
    (fit : Fit (requests ++ [.value option value])) :
    ∃ next, [text, value].foldlM take scan = .ok next ∧
      Holds next (requests ++ [.value option value]) := by
  obtain ⟨c, rest, shape, noDash, -⟩ :=
    fit.value_first (List.mem_append_right _ List.mem_cons_self)
  refine ⟨_, ?_, .butLast requests option value⟩
  have given : ((settled requests).await option).take value =
      .ok { settled requests with waiting := some ⟨option, some value⟩ } := by
    rw [take, Form.of_plain shape noDash]
    rfl
  rw [List.foldlM_cons, waits]
  exact foldlM_one given

/-- Flags in front of other letters are taken one by one. -/
theorem takeShort_flags (flags : List LetterFlag) (holds : Holds scan requests)
    (fit : Fit (requests ++ flags.map (·.request))) (letters : List Char) :
    ∃ next, scan.takeShort (flags.map (·.letter) ++ letters) = next.takeShort letters ∧
      Holds next (requests ++ flags.map (·.request)) := by
  induction flags generalizing scan requests with
  | nil => exact ⟨scan, rfl, by rwa [List.map_nil, List.append_nil]⟩
  | cons flag flags ih =>
    have split : requests ++ (flag :: flags).map (·.request) =
        (requests ++ [.flag flag.flag]) ++ flags.map (·.request) := by
      rw [List.append_assoc]
      rfl
    rw [split] at fit ⊢
    have taken := takeFlag_of_holds holds fit.front
    obtain ⟨next, rest, nextHolds⟩ := ih (.all _) fit
    refine ⟨next, ?_, nextHolds⟩
    rw [← rest, List.map_cons, List.cons_append, takeShort]
    cases flag <;> exact congrArg (· >>= _) taken

/-- No letter is a dash. -/
theorem form_lettersWith (flags : List LetterFlag) (option : ValueOption) (attached : List Char) :
    Form.of (Piece.lettersWith flags option attached) =
      .short (flags.map (·.letter) ++ option.letter :: attached) := by
  cases flags with
  | nil => exact Form.of_letters attached (by cases option <;> decide)
  | cons flag flags => exact Form.of_letters _ (by cases flag <;> decide)

/-- A piece of the arguments is taken whole, whatever stands before it. -/
theorem take_piece (piece : Piece) (holds : Holds scan requests)
    (fit : Fit (requests ++ piece.requests)) :
    ∃ next, piece.arguments.foldlM take scan = .ok next ∧
      Holds next (requests ++ piece.requests) := by
  cases piece with
  | longFlag flag =>
    refine ⟨_, foldlM_one ?_, .all _⟩
    rw [take_long holds (Form.of_longFlag flag), takeLong_flag]
    exact takeFlag_of_holds holds fit
  | longApart option value =>
    refine foldlM_apart ?_ fit
    rw [take_long holds (Form.of_longOption option), takeLong_option]
    exact takeOption_apart holds fit.front
  | longEquals option value =>
    refine ⟨_, foldlM_one ?_, .all _⟩
    rw [take_long holds (Form.of_longEquals option value), takeLong_option]
    exact takeOption_attached holds fit
  | letters first more =>
    obtain ⟨next, taken, nextHolds⟩ := takeShort_flags (first :: more) holds fit []
    refine ⟨next, foldlM_one ?_, nextHolds⟩
    have form := Form.of_letters (c := first.letter) (more.map (·.letter))
      (by cases first <;> decide)
    rw [List.append_nil] at taken
    exact (take_short holds form).trans taken
  | lettersOption flags option value placing =>
    rw [Piece.requests, ← List.append_assoc] at fit ⊢
    have taken (attached : List Char) :=
      takeShort_flags flags holds fit.front (option.letter :: attached)
    have text (attached : List Char) :=
      take_short holds (form_lettersWith flags option attached)
    cases placing with
    | apart =>
      obtain ⟨next, letters, nextHolds⟩ := taken []
      refine foldlM_apart ?_ fit
      rw [text, letters, takeShort_option]
      exact takeOption_apart nextHolds fit.front
    | attached =>
      obtain ⟨next, letters, nextHolds⟩ := taken value.toList
      refine ⟨_, foldlM_one ?_, .all _⟩
      obtain ⟨c, rest, shape, -, noEquals⟩ :=
        fit.value_first (List.mem_append_right _ List.mem_cons_self)
      rw [text, letters, takeShort_option, shape, attachedValue_of_ne rest noEquals, ← shape]
      exact takeOption_attached nextHolds fit
    | equals =>
      obtain ⟨next, letters, nextHolds⟩ := taken ('=' :: value.toList)
      refine ⟨_, foldlM_one ?_, .all _⟩
      rw [text, letters, takeShort_option]
      exact takeOption_attached nextHolds fit

/-- So are all pieces, one after the other. -/
theorem take_pieces (pieces : List Piece) (holds : Holds scan requests)
    (fit : Fit (requests ++ pieces.flatMap (·.requests))) :
    ∃ next, (pieces.flatMap (·.arguments)).foldlM take scan = .ok next ∧
      Holds next (requests ++ pieces.flatMap (·.requests)) := by
  induction pieces generalizing scan requests with
  | nil => exact ⟨scan, rfl, by rwa [List.flatMap_nil, List.append_nil]⟩
  | cons piece pieces ih =>
    have split : requests ++ (piece :: pieces).flatMap (·.requests) =
        (requests ++ piece.requests) ++ pieces.flatMap (·.requests) := by
      rw [List.flatMap_cons, List.append_assoc]
    rw [split] at fit ⊢
    obtain ⟨middle, first, middleHolds⟩ := take_piece piece holds fit.front
    obtain ⟨next, rest, nextHolds⟩ := ih middleHolds fit
    refine ⟨next, ?_, nextHolds⟩
    rw [List.flatMap_cons, List.foldlM_append, first]
    exact rest

end Scan

end CollectionTypes.CommandLine
