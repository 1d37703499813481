import CollectionTypes.Json.Expected
import CollectionTypes.Proofs.WholeNumbers

/-!
# Runs of readers

What a reader makes of a text when it does not matter why it stopped. Runs are put together from
those of the parts, the loops from their turns.
-/

namespace CollectionTypes.Json.Reader

variable {α β σ : Type}

/-- The result of a reader and the text behind it, unless the reader stops. -/
def run? (reader : Reader α) (unread : List Char) : Option (α × List Char) :=
  (reader unread).toOption

@[simp]
theorem run?_pure (a : α) (unread : List Char) : run? (pure a) unread = some (a, unread) :=
  rfl

/-- The second reader goes on where the first one stopped. -/
@[simp]
theorem run?_bind (first : Reader α) (next : α → Reader β) (unread : List Char) :
    run? (first >>= next) unread =
      (run? first unread).bind fun read => run? (next read.1) read.2 := by
  change ((first unread).bind _).toOption = (first unread).toOption.bind _
  cases first unread <;> rfl

@[simp]
theorem run?_map (f : α → β) (reader : Reader α) (unread : List Char) :
    run? (f <$> reader) unread = (run? reader unread).map fun read => (f read.1, read.2) := by
  change ((reader unread).map _).toOption = (reader unread).toOption.map _
  cases reader unread <;> rfl

/-- Two readers in a row succeed where both do, one behind the other. -/
theorem run?_bind_eq_some_iff {first : Reader α} {next : α → Reader β} {unread rest : List Char}
    {b : β} :
    run? (first >>= next) unread = some (b, rest) ↔
      ∃ a behind, run? first unread = some (a, behind) ∧ run? (next a) behind = some (b, rest) := by
  simp [Option.bind_eq_some_iff]

theorem run?_map_eq_some_iff {f : α → β} {reader : Reader α} {unread rest : List Char} {b : β} :
    run? (f <$> reader) unread = some (b, rest) ↔
      ∃ a, run? reader unread = some (a, rest) ∧ f a = b := by
  simp [Option.map_eq_some_iff]

@[simp]
theorem run?_ite (p : Prop) [Decidable p] (yes no : Reader α) (unread : List Char) :
    run? (if p then yes else no) unread = if p then run? yes unread else run? no unread := by
  split <;> rfl

@[simp]
theorem run?_skip (c : Char) (rest : List Char) : run? skip (c :: rest) = some ((), rest) :=
  rfl

@[simp]
theorem run?_next? (unread : List Char) : run? next? unread = some (unread.head?, unread) :=
  rfl

@[simp]
theorem run?_stopHere (cause : Cause) (unread : List Char) :
    run? (stopHere cause : Reader α) unread = none :=
  rfl

@[simp]
theorem run?_stopAfterNext (cause : Cause) (unread : List Char) :
    run? (stopAfterNext cause : Reader α) unread = none :=
  rfl

@[simp]
theorem run?_stopBefore (cause : Cause) (count : Nat) (unread : List Char) :
    run? (stopBefore cause count : Reader α) unread = none :=
  rfl

/-- A reading that succeeds is a run. -/
theorem run?_of_apply {reader : Reader α} {unread rest : List Char} {a : α}
    (reads : reader unread = .ok (a, rest)) : run? reader unread = some (a, rest) := by
  rw [run?, reads]
  rfl

/-- Whatever the bound, as long as it is at least the unread text, a repetition ends so. -/
def Repeats (turn : σ → Reader (Turn σ α)) (state : σ) (unread : List Char)
    (end? : Option (α × List Char)) : Prop :=
  ∀ bound : List Char, unread.length ≤ bound.length →
    run? (repeatWithin turn bound state) unread = end?

namespace Repeats

variable {turn : σ → Reader (Turn σ α)} {state next : σ} {unread behind : List Char}
  {end? : Option (α × List Char)}

theorem done {result : α} (last : run? (turn state) unread = some (.done result, behind)) :
    Repeats turn state unread (some (result, behind)) := by
  intro bound _
  unfold repeatWithin
  rw [run?_bind, last]
  rfl

/-- A turn that fails ends the repetition without a result. -/
theorem stop (last : run? (turn state) unread = none) : Repeats turn state unread none := by
  intro bound _
  unfold repeatWithin
  rw [run?_bind, last]
  rfl

/-- A turn that goes on must have read something. -/
theorem again (one : run? (turn state) unread = some (.again next, behind))
    (shorter : behind.length < unread.length) (more : Repeats turn next behind end?) :
    Repeats turn state unread end? := by
  intro bound enough
  cases bound with
  | nil => exact absurd enough (by simp; intro wrong; simp [wrong] at shorter)
  | cons c bound =>
    unfold repeatWithin
    rw [run?_bind, one]
    exact more bound (by simp at enough; omega)

/-- A turn that may stop. -/
theorem step {next? : Option σ}
    (one : run? (turn state) unread = next?.map fun next => (.again next, behind))
    (shorter : behind.length < unread.length)
    (more : ∀ next ∈ next?, Repeats turn next behind end?) (stops : next? = none → end? = none) :
    Repeats turn state unread end? := by
  cases next? with
  | none => rw [stops rfl]; exact stop one
  | some next => exact again one shorter (more next rfl)

/-- The bound of a repetition is never reached, since each turn shortens the unread text. -/
theorem repeated (repeats : Repeats turn state unread end?) :
    run? (Reader.repeated turn state) unread = end? :=
  repeats unread (Nat.le_refl _)

end Repeats

/-- A repetition that comes to a result, turn by turn. -/
inductive Ran (turn : σ → Reader (Turn σ α)) : σ → List Char → α → List Char → Prop
  | done {state : σ} {unread rest : List Char} {a : α}
      (last : run? (turn state) unread = some (.done a, rest)) : Ran turn state unread a rest
  | again {state next : σ} {unread behind rest : List Char} {a : α}
      (one : run? (turn state) unread = some (.again next, behind))
      (more : Ran turn next behind a rest) : Ran turn state unread a rest

/-- A repetition that has a result went through its turns one by one. -/
theorem Ran.of_repeated {turn : σ → Reader (Turn σ α)} {state : σ} {unread rest : List Char}
    {a : α} (read : run? (repeated turn state) unread = some (a, rest)) :
    Ran turn state unread a rest := by
  have within (bound : List Char) : ∀ state unread,
      run? (repeatWithin turn bound state) unread = some (a, rest) →
        Ran turn state unread a rest := by
    induction bound with
    | nil =>
      intro state unread read
      unfold repeatWithin at read
      obtain ⟨result, behind, one, read⟩ := run?_bind_eq_some_iff.mp read
      cases result with
      | done => cases read; exact .done one
      | again => contradiction
    | cons c bound ih =>
      intro state unread read
      unfold repeatWithin at read
      obtain ⟨result, behind, one, read⟩ := run?_bind_eq_some_iff.mp read
      cases result with
      | done => cases read; exact .done one
      | again next => exact .again one (ih next behind read)
  exact within unread state unread read

end CollectionTypes.Json.Reader
