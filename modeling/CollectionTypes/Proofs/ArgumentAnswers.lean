import CollectionTypes.Proofs.ArgumentSpellings

/-!
# Answers to arguments

What arguments come to that ask for each thing once: a refusal where two of them exclude each other,
another one where no document is named, and what they ask for otherwise. The answer depends on which
requests there are and on the environment; neither their order nor their spelling has a say.

Specification: section 6 (command line).
-/

namespace CollectionTypes.CommandLine

/-- The kinds of stops that a caller can tell apart. -/
inductive StopKind where
  | help
  | version
  | invalidValue
  | argumentConflict
  | tooManyValues
  | unknownArgument
  | missingRequiredArgument
  deriving DecidableEq, Repr

def UsageError.kind : UsageError → StopKind
  | .missingValue _ => .invalidValue
  | .repeated _ => .argumentConflict
  | .conflicting _ _ => .argumentConflict
  | .needlessValue _ _ => .tooManyValues
  | .unexpected _ => .unknownArgument
  | .missingJson => .missingRequiredArgument

def Stop.kind : Stop → StopKind
  | .help => .help
  | .version => .version
  | .usage error => error.kind

namespace Request

def valueFor? (option : ValueOption) : Request → Option String
  | .value o v => if o = option then some v else none
  | .flag _ => none

end Request

/-- The value that some requests give an option. -/
def valueIn? (requests : List Request) (option : ValueOption) : Option String :=
  requests.findSome? (·.valueFor? option)

/-- Two of the requests exclude each other. -/
def Exclude (requests : List Request) : Prop :=
  (.flag .quiet ∈ requests ∧ .flag .verbose ∈ requests) ∨
    (.flag .stdout ∈ requests ∧ (valueIn? requests .out).isSome = true)

instance (requests : List Request) : Decidable (Exclude requests) :=
  inferInstanceAs (Decidable (_ ∨ _))

/-- What requests come to, with the path of the document that the environment gives. -/
def answer (requests : List Request) (environment : Option String) :
    Except StopKind Invocation :=
  if Exclude requests then .error .argumentConflict
  else
    match (valueIn? requests .json).or environment with
    | none => .error .missingRequiredArgument
    | some json =>
        .ok {
          json
          out := (valueIn? requests .out).getD defaultOut
          stdout := requests.contains (.flag .stdout)
          quiet := requests.contains (.flag .quiet)
          verbose := requests.contains (.flag .verbose) }

section Sets

variable {requests others : List Request}

theorem valueFor?_eq_some_iff (request : Request) (option : ValueOption) (value : String) :
    request.valueFor? option = some value ↔ request = .value option value := by
  cases request with
  | value o v =>
    rw [Request.valueFor?]
    split
    next same => simp [same]
    next other => simp [other]
  | flag f => simp [Request.valueFor?]

/-- One request for an option has all the say. -/
theorem valueIn?_eq_some_iff (once : (requests.map (·.argument)).Nodup) (option : ValueOption)
    (value : String) :
    valueIn? requests option = some value ↔ .value option value ∈ requests := by
  rw [valueIn?]
  induction requests with
  | nil => simp
  | cons request requests ih =>
    rw [List.map_cons, List.nodup_cons] at once
    rw [List.findSome?_cons, List.mem_cons]
    cases found : request.valueFor? option with
    | none =>
      have other : ¬ Request.value option value = request := by
        rintro rfl
        simp [Request.valueFor?] at found
      rw [ih once.2, or_iff_right other]
    | some first =>
      rw [valueFor?_eq_some_iff] at found
      subst found
      have absent : ¬ Request.value option value ∈ requests := fun member =>
        once.1 (List.mem_map.mpr ⟨_, member, rfl⟩)
      rw [or_iff_left absent, Option.some.injEq, Request.value.injEq, eq_comm]
      simp

theorem valueIn?_isSome_iff (requests : List Request) (option : ValueOption) :
    (valueIn? requests option).isSome = true ↔
      .option option ∈ requests.map (·.argument) := by
  rw [valueIn?, List.findSome?_isSome_iff, List.mem_map]
  constructor
  · rintro ⟨request, member, some⟩
    obtain ⟨value, found⟩ := Option.isSome_iff_exists.mp some
    rw [valueFor?_eq_some_iff] at found
    exact ⟨request, member, by rw [found]; rfl⟩
  · rintro ⟨request, member, same⟩
    cases request with
    | value o v =>
      obtain rfl := Argument.option.inj same
      exact ⟨_, member, by simp [Request.valueFor?]⟩
    | flag f => exact absurd same (by simp [Request.argument])

theorem valueIn?_congr (once : (requests.map (·.argument)).Nodup)
    (othersOnce : (others.map (·.argument)).Nodup)
    (same : ∀ request, request ∈ others ↔ request ∈ requests) (option : ValueOption) :
    valueIn? others option = valueIn? requests option := by
  apply Option.ext
  intro value
  rw [valueIn?_eq_some_iff othersOnce, valueIn?_eq_some_iff once, same]

/-- The answer depends on the set of the requests. -/
theorem answer_congr (once : (requests.map (·.argument)).Nodup)
    (othersOnce : (others.map (·.argument)).Nodup)
    (same : ∀ request, request ∈ others ↔ request ∈ requests) (environment : Option String) :
    answer others environment = answer requests environment := by
  have values := valueIn?_congr once othersOnce same
  have flags (flag : Flag) : others.contains (.flag flag) = requests.contains (.flag flag) := by
    rw [Bool.eq_iff_iff, List.contains_iff_mem, List.contains_iff_mem, same]
  have exclude : Exclude others ↔ Exclude requests := by
    simp only [Exclude, same, values]
  rw [answer, answer, values, values]
  simp only [exclude, flags]

/-- Nobody is told to be quiet and verbose, or to print a module and to write it to a path. -/
theorem answer_apart (once : (requests.map (·.argument)).Nodup) {environment : Option String}
    {invocation : Invocation} (success : answer requests environment = .ok invocation) :
    ¬(invocation.quiet = true ∧ invocation.verbose = true) ∧
      ¬(invocation.stdout = true ∧ ∃ out, .value .out out ∈ requests) := by
  rw [answer] at success
  split at success
  · cases success
  next apart =>
    split at success
    · cases success
    · obtain rfl := Except.ok.inj success
      simp only [List.contains_iff_mem, ← valueIn?_eq_some_iff once]
      rw [Exclude, not_or, Option.isSome_iff_exists] at apart
      exact apart

end Sets

theorem flag_mem_arguments_iff (requests : List Request) (flag : Flag) :
    .flag flag ∈ requests.map (·.argument) ↔ .flag flag ∈ requests := by
  rw [List.mem_map]
  constructor
  · rintro ⟨request, member, same⟩
    cases request with
    | value o v => exact absurd same (by simp [Request.argument])
    | flag f =>
      obtain rfl := Argument.flag.inj same
      exact member
  · exact fun member => ⟨_, member, rfl⟩

section Conflicts

theorem conflict?_eq_none_iff (given : List Argument) :
    Argument.conflict? given = none ↔
      ∀ argument ∈ given, ∀ other ∈ given, argument.conflicts other = false := by
  simp only [Argument.conflict?, List.findSome?_eq_none_iff, Option.map_eq_none_iff,
    List.find?_eq_none, Bool.not_eq_true]

/-- Quiet and verbose exclude each other, and so do both ways of saying where the module goes. -/
theorem conflict?_eq_none_iff_not_exclude (requests : List Request) :
    Argument.conflict? (requests.map (·.argument)) = none ↔ ¬Exclude requests := by
  simp only [Exclude, ← flag_mem_arguments_iff requests, valueIn?_isSome_iff]
  rw [conflict?_eq_none_iff]
  constructor
  · rintro none (⟨quiet, verbose⟩ | ⟨stdout, out⟩)
    · exact absurd (none _ quiet _ verbose) (by decide)
    · exact absurd (none _ stdout _ out) (by decide)
  · intro apart argument given other otherGiven
    rw [not_or] at apart
    rw [Bool.eq_false_iff]
    intro conflict
    unfold Argument.conflicts at conflict
    split at conflict
    · exact apart.2 ⟨given, otherGiven⟩
    · exact apart.2 ⟨otherGiven, given⟩
    · exact apart.1 ⟨given, otherGiven⟩
    · exact apart.1 ⟨otherGiven, given⟩
    · exact absurd conflict Bool.false_ne_true

end Conflicts

namespace Scan

theorem value?_settled (requests : List Request) (option : ValueOption) :
    (settled requests).value? option = valueIn? requests option := by
  rw [value?, settled, valueIn?]
  induction requests with
  | nil => rfl
  | cons request requests ih =>
    rw [List.map_cons]
    by_cases asked : request.argument = .option option
    · rw [List.find?_cons_of_pos (by simp [asked])]
      cases request with
      | value o v =>
        obtain rfl := Argument.option.inj asked
        simp [Request.valueFor?, Request.given]
      | flag f => exact absurd asked (by simp [Request.argument])
    · have none : request.valueFor? option = none := by
        cases request with
        | value o v => exact if_neg fun same => asked (congrArg _ same)
        | flag f => rfl
      rw [List.find?_cons_of_neg (by simp [asked]), List.findSome?_cons, none]
      exact ih

theorem has_flag_settled (requests : List Request) (flag : Flag) :
    (settled requests).has (.flag flag) = requests.contains (.flag flag) := by
  rw [Bool.eq_iff_iff, has_settled, List.contains_iff_mem, flag_mem_arguments_iff]

end Scan

section Invocations

variable {scan : Scan} {requests : List Request} {environment : Option String}

theorem json?_settled (named : environment ≠ some "") :
    Invocation.json? (.settled requests) environment =
      .ok ((valueIn? requests .json).or environment) := by
  unfold Invocation.json?
  rw [Scan.value?_settled]
  cases valueIn? requests .json with
  | some json => rfl
  | none =>
    split
    next same => cases same
    · exact absurd rfl named
    · rfl

/-- What is made of a scan that was asked for some requests. -/
theorem ofScan_of_holds (holds : scan.Holds requests) (fit : Fit requests)
    (named : environment ≠ some "") :
    (Invocation.ofScan scan environment).mapError Stop.kind = answer requests environment := by
  have arguments : (Scan.settled requests).given.map (·.argument) =
      requests.map (·.argument) := by
    rw [Scan.settled, List.map_map]
    exact List.map_congr_left fun request _ => request.given_argument
  rw [Invocation.ofScan, holds.settle fit]
  simp only [bind, Except.bind, json?_settled named, arguments]
  rw [answer]
  cases conflict : Argument.conflict? (requests.map (·.argument)) with
  | some pair =>
    have exclude : Exclude requests := by
      by_contra apart
      rw [(conflict?_eq_none_iff_not_exclude requests).mpr apart] at conflict
      cases conflict
    rw [if_pos exclude]
    rfl
  | none =>
    rw [if_neg ((conflict?_eq_none_iff_not_exclude requests).mp conflict)]
    cases (valueIn? requests .json).or environment with
    | none => rfl
    | some json =>
      simp only [Except.mapError, Scan.value?_settled, Scan.has_flag_settled]

end Invocations

/-- Arguments that ask for each thing once come to what they ask for, in whatever order and spelling
they do: two sets of arguments with the same requests come to the same, and no invocation is both
quiet and verbose, or prints the module and has a path of its own for it. -/
theorem ofArguments_pieces (pieces : List Piece) (environment : Option String)
    (fit : Fit (pieces.flatMap (·.requests))) (named : environment ≠ some "") :
    (Invocation.ofArguments (pieces.flatMap (·.arguments)) environment).mapError Stop.kind =
        answer (pieces.flatMap (·.requests)) environment ∧
      (∀ others : List Piece, Fit (others.flatMap (·.requests)) →
        (∀ request, request ∈ others.flatMap (·.requests) ↔
          request ∈ pieces.flatMap (·.requests)) →
        (Invocation.ofArguments (others.flatMap (·.arguments)) environment).mapError Stop.kind =
          (Invocation.ofArguments (pieces.flatMap (·.arguments)) environment).mapError
            Stop.kind) ∧
      ∀ invocation,
        Invocation.ofArguments (pieces.flatMap (·.arguments)) environment = .ok invocation →
        ¬(invocation.quiet = true ∧ invocation.verbose = true) ∧
        ¬(invocation.stdout = true ∧ ∃ out, .value .out out ∈ pieces.flatMap (·.requests)) := by
  have answered (pieces : List Piece) (fit : Fit (pieces.flatMap (·.requests))) :
      (Invocation.ofArguments (pieces.flatMap (·.arguments)) environment).mapError Stop.kind =
        answer (pieces.flatMap (·.requests)) environment := by
    obtain ⟨scan, taken, holds⟩ := Scan.take_pieces pieces (.all []) (by simpa using fit)
    rw [List.nil_append] at holds
    rw [Invocation.ofArguments, show Scan.start = .settled [] from rfl, taken]
    exact ofScan_of_holds holds fit named
  refine ⟨answered pieces fit, ?_, ?_⟩
  · intro others othersFit same
    rw [answered others othersFit, answered pieces fit,
      answer_congr fit.once othersFit.once same]
  · intro invocation success
    have answer_ok := answered pieces fit
    rw [success] at answer_ok
    exact answer_apart fit.once answer_ok.symm

/-- The same requests by letters, and by names in another order. -/
def byLetters : List Piece :=
  [.lettersOption [.verbose] .json "in.json" .attached, .longEquals .out "types.ts"]

def byNames : List Piece :=
  [.lettersOption [] .out "types.ts" .apart, .longFlag .verbose, .longApart .json "in.json"]

theorem ofArguments_pieces_verbose :
    Fit (byLetters.flatMap (·.requests)) ∧ some "other.json" ≠ some "" ∧
      (Invocation.ofArguments ["-vjin.json", "--out=types.ts"] (some "other.json")).mapError
        Stop.kind = .ok ⟨"in.json", "types.ts", false, false, true⟩ ∧
      (Invocation.ofArguments ["-o", "types.ts", "--verbose", "--json", "in.json"]
        (some "other.json")).mapError Stop.kind =
          .ok ⟨"in.json", "types.ts", false, false, true⟩ := by
  have fit : Fit (byLetters.flatMap (·.requests)) := ⟨by decide, by decide⟩
  have otherFit : Fit (byNames.flatMap (·.requests)) := ⟨by decide, by decide⟩
  have named : some "other.json" ≠ some "" := by decide
  have same : (byNames.flatMap (·.requests)).Perm (byLetters.flatMap (·.requests)) := by decide
  obtain ⟨come, others, -⟩ := ofArguments_pieces byLetters (some "other.json") fit named
  have letters : byLetters.flatMap (·.arguments) = ["-vjin.json", "--out=types.ts"] := by decide
  have names : byNames.flatMap (·.arguments) =
      ["-o", "types.ts", "--verbose", "--json", "in.json"] := by decide
  have answered : answer (byLetters.flatMap (·.requests)) (some "other.json") =
      .ok ⟨"in.json", "types.ts", false, false, true⟩ := by decide
  have moved := others byNames otherFit fun _ => same.mem_iff
  rw [come, names] at moved
  rw [letters] at come
  exact ⟨fit, named, come.trans answered, moved.trans answered⟩

end CollectionTypes.CommandLine
