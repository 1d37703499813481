import CollectionTypes.Proofs.ArgumentAnswers

/-!
# Flags that set the level

Arguments without their flags for more or less to be told. They ask for the same as before apart
from these flags: the scans of both go on side by side. Only the option that a flag settles goes on
waiting where the flag is gone, until something else settles it.

Specification: sections 6 and 8 (the two level flags).
-/

namespace CollectionTypes.CommandLine

/-- The argument has to do with nothing but how much is told. -/
def Argument.setsLevel : Argument → Bool
  | .flag .quiet | .flag .verbose => true
  | .flag .stdout | .option _ => false

/-- What is left of an argument without the flags for more or less to be told, if anything. Their
letters may stand in front of that of an option. -/
def withoutLevel? (text : String) : Option String :=
  match Form.of text with
  | .long name none =>
      if String.ofList name = "quiet" || String.ofList name = "verbose" then none else some text
  | .short letters =>
      match letters.dropWhile fun c => c = 'q' || c = 'v' with
      | [] => none
      | left => some (String.ofList ('-' :: left))
  | _ => some text

theorem bind_eq_ok {ε α β : Type} {first : Except ε α} {rest : α → Except ε β} {b : β}
    (done : first >>= rest = .ok b) : ∃ a, first = .ok a ∧ rest a = .ok b := by
  cases first with
  | error failure => cases done
  | ok a => exact ⟨a, rfl, done⟩

namespace Scan

/-- The scan that was not given any flag that sets the level. -/
def muted (scan : Scan) : Scan :=
  { scan with given := scan.given.filter fun given => !given.argument.setsLevel }

variable {scan next : Scan}

theorem has_muted (scan : Scan) {argument : Argument} (kept : argument.setsLevel = false) :
    scan.muted.has argument = scan.has argument := by
  rw [Bool.eq_iff_iff, has, has, List.any_eq_true, List.any_eq_true]
  refine exists_congr fun given => ?_
  rw [muted, List.mem_filter, beq_iff_eq]
  constructor
  · rintro ⟨⟨member, -⟩, rfl⟩
    exact ⟨member, rfl⟩
  · rintro ⟨member, rfl⟩
    exact ⟨⟨member, by rw [kept]; rfl⟩, rfl⟩

theorem give_eq_ok_iff {argument : Argument} {value : String} :
    scan.give argument value = .ok next ↔
      scan.has argument = false ∧
        next = { scan with given := scan.given ++ [⟨argument, value⟩] } := by
  rw [give]
  split
  next given => simp [given]
  next new => simp [new, eq_comm]

theorem give_muted {argument : Argument} {value : String} (kept : argument.setsLevel = false)
    (given : scan.give argument value = .ok next) :
    scan.muted.give argument value = .ok next.muted := by
  obtain ⟨new, rfl⟩ := give_eq_ok_iff.mp given
  refine give_eq_ok_iff.mpr ⟨(has_muted scan kept).trans new, ?_⟩
  simp [muted, kept]

theorem muted_of_give {argument : Argument} {value : String} (level : argument.setsLevel = true)
    (given : scan.give argument value = .ok next) : next.muted = scan.muted := by
  obtain ⟨-, rfl⟩ := give_eq_ok_iff.mp given
  simp [muted, level]

theorem giveValue_eq_ok_iff {option : ValueOption} {value : String} :
    scan.giveValue option value = .ok next ↔
      scan.give (.option option) value = .ok next ∧ value.isEmpty = false := by
  rw [giveValue]
  cases scan.give (.option option) value with
  | error stop => simp [bind, Except.bind]
  | ok given =>
    simp only [bind, Except.bind]
    split
    next empty => simp [empty]
    next some => simp [some]

theorem giveValue_muted {option : ValueOption} {value : String}
    (given : scan.giveValue option value = .ok next) :
    scan.muted.giveValue option value = .ok next.muted := by
  obtain ⟨given, some⟩ := giveValue_eq_ok_iff.mp given
  exact giveValue_eq_ok_iff.mpr ⟨give_muted rfl given, some⟩

theorem settle_muted (settled : scan.settle = .ok next) : scan.muted.settle = .ok next.muted := by
  obtain ⟨given, waiting, separated⟩ := scan
  rcases waiting with _ | ⟨option, _ | value⟩
  · rw [← Except.ok.inj settled]
    rfl
  · cases settled
  · exact giveValue_muted settled

/-- What is settled waits no longer, and only what was given may be more. -/
theorem eq_of_settle (settled : scan.settle = .ok next) :
    next = { scan with given := next.given, waiting := none } := by
  obtain ⟨given, waiting, separated⟩ := scan
  rcases waiting with _ | ⟨option, _ | value⟩
  · rw [← Except.ok.inj settled]
  · cases settled
  · obtain ⟨given, -⟩ := giveValue_eq_ok_iff.mp settled
    rw [(give_eq_ok_iff.mp given).2]

theorem settle_of_waiting (none : scan.waiting = none) : scan.settle = .ok scan := by
  rw [settle, none]

theorem settle_separated (settled : scan.settle = .ok next) :
    { scan with separated := true }.settle = .ok { next with separated := true } := by
  obtain ⟨given, waiting, separated⟩ := scan
  rcases waiting with _ | ⟨option, _ | value⟩
  · rw [← Except.ok.inj settled]
    rfl
  · cases settled
  · obtain ⟨given, some⟩ := giveValue_eq_ok_iff.mp settled
    obtain ⟨new, rfl⟩ := give_eq_ok_iff.mp given
    exact giveValue_eq_ok_iff.mpr ⟨give_eq_ok_iff.mpr ⟨new, rfl⟩, some⟩

/-- A scan beside the one that was also given flags that set the level. -/
inductive Beside : Scan → Scan → Prop
  | even (scan : Scan) : Beside scan scan.muted
  /-- The last thing that was taken on one side is a flag. -/
  | behind {scan other : Scan} : scan.waiting = none → other.settle = .ok scan.muted →
      Beside scan other

namespace Beside

variable {other : Scan}

/-- Settled, both sides are even. -/
theorem settle (beside : Beside scan other) (settled : scan.settle = .ok next) :
    other.settle = .ok next.muted := by
  cases beside with
  | even => exact settle_muted settled
  | behind none otherSettled =>
    rw [settle_of_waiting none] at settled
    rw [otherSettled, Except.ok.inj settled]

theorem separated (beside : Beside scan other) : other.separated = scan.separated := by
  cases beside with
  | even => rfl
  | behind none otherSettled => exact (congrArg Scan.separated (eq_of_settle otherSettled)).symm

theorem takeOption {option : ValueOption} {value : Option (List Char)} (beside : Beside scan other)
    (taken : scan.takeOption option value = .ok next) :
    other.takeOption option value = .ok next.muted := by
  rw [Scan.takeOption] at taken ⊢
  obtain ⟨middle, settled, taken⟩ := bind_eq_ok taken
  rw [beside.settle settled]
  cases value with
  | some value => exact giveValue_muted taken
  | none =>
    rw [← Except.ok.inj taken]
    rfl

theorem takeFlag {flag : Flag} (beside : Beside scan other)
    (kept : (Argument.flag flag).setsLevel = false) (taken : scan.takeFlag flag = .ok next) :
    other.takeFlag flag = .ok next.muted := by
  rw [Scan.takeFlag] at taken ⊢
  obtain ⟨middle, settled, taken⟩ := bind_eq_ok taken
  rw [beside.settle settled]
  exact give_muted kept taken

/-- The side without the flag falls behind. -/
theorem takeLevel {flag : Flag} (beside : Beside scan other)
    (level : (Argument.flag flag).setsLevel = true) (taken : scan.takeFlag flag = .ok next) :
    Beside next other := by
  rw [Scan.takeFlag] at taken
  obtain ⟨middle, settled, taken⟩ := bind_eq_ok taken
  have none : next.waiting = none := by
    rw [(give_eq_ok_iff.mp taken).2, eq_of_settle settled]
  exact .behind none (by rw [beside.settle settled, muted_of_give level taken])

theorem takePlain {text : String} (beside : Beside scan other)
    (taken : scan.takePlain text = .ok next) : other.takePlain text = .ok next.muted := by
  rw [Scan.takePlain] at taken
  split at taken
  next option waits =>
    cases beside with
    | even =>
      rw [Scan.takePlain, show scan.muted.waiting = some ⟨option, none⟩ from waits,
        ← Except.ok.inj taken]
      rfl
    | behind none => rw [none] at waits; cases waits
  · cases taken

end Beside

theorem ofLong?_flag {name : List Char} {flag : Flag}
    (known : Named.ofLong? name = some (.argument (.flag flag))) :
    String.ofList name = flag.name := by
  unfold Named.ofLong? at known
  split at known <;> cases known <;> assumption

theorem takeLong_of_name {name : List Char} (flag : Flag) (named : String.ofList name = flag.name) :
    scan.takeLong name none = scan.takeFlag flag := by
  rw [← takeLong_flag, ← named, String.toList_ofList]

theorem ofShort?_flag {letter : Char} {flag : Flag}
    (known : Named.ofShort? letter = some (.argument (.flag flag))) :
    letter = 'q' ∨ letter = 'v' := by
  unfold Named.ofShort? at known
  split at known <;> simp_all

theorem halt_ne_ok (scan : Scan) (stop : Stop) : scan.halt stop ≠ .ok next := by
  intro done
  obtain ⟨_, -, done⟩ := bind_eq_ok done
  cases done

namespace Beside

variable {other : Scan}

theorem takeLong {name : List Char} {value : Option (List Char)} (beside : Beside scan other)
    (kept : ∀ flag, Named.ofLong? name = some (.argument (.flag flag)) → value = none →
      (Argument.flag flag).setsLevel = false)
    (taken : scan.takeLong name value = .ok next) :
    other.takeLong name value = .ok next.muted := by
  unfold Scan.takeLong at taken ⊢
  cases known : Named.ofLong? name with
  | none =>
    rw [known] at taken
    cases taken
  | some named =>
    rw [known] at taken kept
    cases value with
    | some value =>
      rcases named with (option | flag) | _ | _
      · exact beside.takeOption taken
      all_goals cases taken
    | none =>
      rcases named with (option | flag) | _ | _
      · exact beside.takeOption taken
      · exact beside.takeFlag (kept flag rfl rfl) taken
      · exact absurd taken (halt_ne_ok scan _)
      · exact absurd taken (halt_ne_ok scan _)

/-- A name without a value is left out if it sets the level, and else taken on both sides. -/
theorem takeLong_name {name : List Char} (beside : Beside scan other)
    (taken : scan.takeLong name none = .ok next) :
    if String.ofList name = "quiet" || String.ofList name = "verbose" then Beside next other
    else other.takeLong name none = .ok next.muted := by
  split
  next level =>
    rw [Bool.or_eq_true, decide_eq_true_eq, decide_eq_true_eq] at level
    rcases level with quiet | verbose
    · exact beside.takeLevel rfl ((takeLong_of_name .quiet quiet).symm.trans taken)
    · exact beside.takeLevel rfl ((takeLong_of_name .verbose verbose).symm.trans taken)
  next kept =>
    refine beside.takeLong (fun flag known _ => ?_) taken
    rw [ofLong?_flag known] at kept
    cases flag with
    | stdout => rfl
    | quiet => exact absurd rfl kept
    | verbose => exact absurd rfl kept

/-- Of letters that were taken, those of flags stand first, and only they set the level. -/
theorem takeShort {letters : List Char} (beside : Beside scan other)
    (taken : scan.takeShort letters = .ok next) :
    match letters.dropWhile fun c => c = 'q' || c = 'v' with
    | [] => Beside next other
    | letter :: left => letter ≠ '-' ∧ other.takeShort (letter :: left) = .ok next.muted := by
  induction letters generalizing scan with
  | nil =>
    rw [← Except.ok.inj taken]
    exact beside
  | cons letter letters ih =>
    have flagStep (flag : Flag) (level : (Argument.flag flag).setsLevel = true)
        (known : Named.ofShort? letter = some (.argument (.flag flag))) :
        ∃ middle, Beside middle other ∧ middle.takeShort letters = .ok next := by
      rw [Scan.takeShort, known] at taken
      obtain ⟨middle, first, rest⟩ := bind_eq_ok taken
      exact ⟨middle, beside.takeLevel level first, rest⟩
    by_cases quiet : letter = 'q'
    · subst quiet
      obtain ⟨middle, middleBeside, rest⟩ := flagStep .quiet rfl rfl
      exact ih middleBeside rest
    by_cases verbose : letter = 'v'
    · subst verbose
      obtain ⟨middle, middleBeside, rest⟩ := flagStep .verbose rfl rfl
      exact ih middleBeside rest
    -- A letter of an option: what is left begins with it, and it takes all that is behind it.
    rw [List.dropWhile_cons_of_neg (by simp [quiet, verbose])]
    dsimp only
    rw [Scan.takeShort] at taken ⊢
    cases known : Named.ofShort? letter with
    | none =>
      rw [known] at taken
      cases taken
    | some named =>
      have noDash : letter ≠ '-' := by
        rintro rfl
        cases known
      rw [known] at taken
      rcases named with (option | flag) | _ | _
      · exact ⟨noDash, beside.takeOption taken⟩
      · rcases ofShort?_flag known with rfl | rfl
        · exact absurd rfl quiet
        · exact absurd rfl verbose
      · exact absurd taken (halt_ne_ok scan _)
      · exact absurd taken (halt_ne_ok scan _)

theorem separate (beside : Beside scan other) :
    Beside { scan with separated := true } { other with separated := true } := by
  cases beside with
  | even => exact .even _
  | behind none settled => exact .behind none (settle_separated settled)

/-- What is left of an argument is taken as the whole argument was. -/
theorem take {text : String} (beside : Beside scan other) (taken : scan.take text = .ok next) :
    match withoutLevel? text with
    | none => Beside next other
    | some left => ∃ otherNext, other.take left = .ok otherNext ∧ Beside next otherNext := by
  have inFront : ¬scan.separated = true := by
    intro behind
    rw [Scan.take, if_pos behind] at taken
    cases taken
  have otherInFront : ¬other.separated = true := by rwa [beside.separated]
  rw [Scan.take, if_neg inFront] at taken
  rw [withoutLevel?]
  cases form : Form.of text with
  | separator =>
    rw [form] at taken
    obtain rfl := Except.ok.inj taken
    exact ⟨_, by rw [Scan.take, if_neg otherInFront, form], beside.separate⟩
  | plain value =>
    rw [form] at taken
    refine ⟨next.muted, ?_, .even _⟩
    rw [Scan.take, if_neg otherInFront, form]
    exact beside.takePlain taken
  | short letters =>
    rw [form] at taken
    have left := beside.takeShort taken
    dsimp only
    cases rest : letters.dropWhile fun c => c = 'q' || c = 'v' with
    | nil =>
      rw [rest] at left
      exact left
    | cons letter more =>
      rw [rest] at left
      refine ⟨next.muted, ?_, .even _⟩
      rw [Scan.take, if_neg otherInFront, Form.of_letters more left.1]
      exact left.2
  | long name value =>
    rw [form] at taken
    have whole (same : other.takeLong name value = .ok next.muted) :
        ∃ otherNext, other.take text = .ok otherNext ∧ Beside next otherNext := by
      refine ⟨next.muted, ?_, .even _⟩
      rw [Scan.take, if_neg otherInFront, form]
      exact same
    cases value with
    | some value => exact whole (beside.takeLong (fun _ _ none => by cases none) taken)
    | none =>
      have step := beside.takeLong_name taken
      dsimp only
      by_cases level : (String.ofList name = "quiet" || String.ofList name = "verbose") = true
      · rw [if_pos level] at step ⊢
        exact step
      · rw [if_neg level] at step ⊢
        exact whole step

/-- What is left of arguments is taken as all of them were. -/
theorem foldlM_take {texts : List String} (beside : Beside scan other)
    (taken : texts.foldlM Scan.take scan = .ok next) :
    ∃ otherNext, (texts.filterMap withoutLevel?).foldlM Scan.take other = .ok otherNext ∧
      Beside next otherNext := by
  induction texts generalizing scan other with
  | nil =>
    obtain rfl := Except.ok.inj taken
    exact ⟨other, rfl, beside⟩
  | cons text texts ih =>
    rw [List.foldlM_cons] at taken
    obtain ⟨middle, first, rest⟩ := bind_eq_ok taken
    have step := beside.take first
    cases left : withoutLevel? text with
    | none =>
      rw [left] at step
      rw [List.filterMap_cons_none left]
      exact ih step rest
    | some leftText =>
      rw [left] at step
      obtain ⟨otherMiddle, otherFirst, otherBeside⟩ := step
      rw [List.filterMap_cons_some left, List.foldlM_cons, otherFirst]
      exact ih otherBeside rest

end Beside

theorem value?_muted (scan : Scan) (option : ValueOption) :
    scan.muted.value? option = scan.value? option := by
  rw [value?, value?, muted, List.find?_filter]
  congr 2
  funext given
  by_cases asked : given.argument = .option option
  · simp [asked, Argument.setsLevel]
  · simp [asked]

theorem has_muted_level (scan : Scan) {argument : Argument} (level : argument.setsLevel = true) :
    scan.muted.has argument = false := by
  rw [has, List.any_eq_false]
  intro given member
  rw [beq_iff_eq]
  rintro rfl
  have kept := (List.mem_filter.mp member).2
  rw [level] at kept
  cases kept

theorem conflict?_muted (scan : Scan)
    (none : Argument.conflict? (scan.given.map (·.argument)) = none) :
    Argument.conflict? (scan.muted.given.map (·.argument)) = Option.none := by
  rw [conflict?_eq_none_iff] at none ⊢
  have kept : scan.muted.given.map (·.argument) ⊆ scan.given.map (·.argument) :=
    List.map_subset _ (List.filter_subset_self _)
  exact fun argument given other otherGiven =>
    none argument (kept given) other (kept otherGiven)

theorem Beside.ofScan {other : Scan} {environment : Option String} {invocation : Invocation}
    (beside : Beside scan other) (success : Invocation.ofScan scan environment = .ok invocation) :
    Invocation.ofScan other environment =
      .ok { invocation with quiet := false, verbose := false } := by
  rw [Invocation.ofScan] at success ⊢
  obtain ⟨whole, settled, success⟩ := bind_eq_ok success
  obtain ⟨document, found, success⟩ := bind_eq_ok success
  have json : Invocation.json? whole.muted environment = .ok document := by
    rw [← found]
    unfold Invocation.json?
    rw [value?_muted]
  have stdout : whole.muted.has (.flag .stdout) = whole.has (.flag .stdout) := has_muted whole rfl
  have quiet : whole.muted.has (.flag .quiet) = false := has_muted_level whole rfl
  have verbose : whole.muted.has (.flag .verbose) = false := has_muted_level whole rfl
  split at success
  · cases success
  · cases success
  next apart =>
    obtain rfl := Except.ok.inj success
    simp only [beside.settle settled, bind, Except.bind, json, conflict?_muted whole apart,
      value?_muted, stdout, quiet, verbose]

end Scan

/-- Without the flags for more or less to be told, arguments ask for the same but for them. -/
theorem ofArguments_withoutLevel {arguments : List String} {environment : Option String}
    {invocation : Invocation}
    (success : Invocation.ofArguments arguments environment = .ok invocation) :
    Invocation.ofArguments (arguments.filterMap withoutLevel?) environment =
      .ok { invocation with quiet := false, verbose := false } := by
  rw [Invocation.ofArguments] at success ⊢
  obtain ⟨scan, taken, success⟩ := bind_eq_ok success
  have start : Scan.Beside .start .start := .even .start
  obtain ⟨other, otherTaken, beside⟩ := start.foldlM_take taken
  rw [otherTaken]
  exact beside.ofScan success

/-- A `-v` that is a value stays. -/
example :
    ["-qvjin.json", "--verbose", "--out=-v", "-q"].filterMap withoutLevel? =
      ["-jin.json", "--out=-v"] := by
  decide

end CollectionTypes.CommandLine
