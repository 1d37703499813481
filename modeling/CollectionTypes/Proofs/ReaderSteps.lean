import CollectionTypes.Json.Expected

/-!
# Steps of readers

What the smallest readers make of the text before them, and how a repetition is made of its turns:
one that comes to an end with every turn reading something is never cut short by its bound.
-/

namespace CollectionTypes.Json.Reader

variable {α β σ : Type}

theorem pure_apply (a : α) (unread : List Char) : (pure a : Reader α) unread = .ok (a, unread) :=
  rfl

/-- What a reader has read goes to the reader behind it. -/
theorem bind_apply {first : Reader α} {unread rest : List Char} {a : α}
    (reads : first unread = .ok (a, rest)) (next : α → Reader β) :
    (first >>= next) unread = next a rest := by
  change (first unread).bind _ = _
  rw [reads]
  rfl

theorem map_apply {value : Reader α} {unread rest : List Char} {a : α}
    (reads : value unread = .ok (a, rest)) (f : α → β) :
    (f <$> value) unread = .ok (f a, rest) := by
  change (value unread).map _ = _
  rw [reads]
  rfl

theorem skip_cons (c : Char) (rest : List Char) : skip (c :: rest) = .ok ((), rest) :=
  rfl

theorem next?_cons (c : Char) (rest : List Char) :
    next? (c :: rest) = .ok (some c, c :: rest) :=
  rfl

/-- A character that is no blank stays where it is. -/
theorem nextSolid?_cons {c : Char} (solid : isBlank c = false) (rest : List Char) :
    nextSolid? (c :: rest) = .ok (some c, c :: rest) := by
  simp [nextSolid?, solid]

/-- A word is read where it stands spelled out. -/
theorem spelled_append (word rest : List Char) : spelled word (word ++ rest) = .ok ((), rest) := by
  induction word with
  | nil => rfl
  | cons c word ih =>
    rw [spelled, List.cons_append, bind_apply (next?_cons c _)]
    simp only [if_true]
    rw [bind_apply (skip_cons c _), ih]

/-- The first letter told which keyword it is, so only the rest is spelled out. -/
theorem keyword_cons (c : Char) (word : String) (rest : List Char) :
    keyword word (c :: (word.toList ++ rest)) = .ok ((), rest) := by
  rw [keyword, bind_apply (skip_cons c _), spelled_append]

/-- A value is left to the reader that its first character asks for. -/
theorem valueBy_cons {expected : String} {reader? : Char → Option (Reader α)} {c : Char}
    {reader : Reader α} (solid : isBlank c = false) (fits : reader? c = some reader)
    (rest : List Char) :
    valueBy expected reader? (c :: rest) = reader (c :: rest) := by
  rw [valueBy, bind_apply (nextSolid?_cons solid rest)]
  simp only [fits]

/-- The turns of a repetition from a state to its result; each but the last reads something. -/
inductive Turns (turn : σ → Reader (Turn σ α)) : σ → List Char → α → List Char → Prop
  | done {state : σ} {unread : List Char} {result : α} {rest : List Char}
      (last : turn state unread = .ok (.done result, rest)) : Turns turn state unread result rest
  | again {state : σ} {unread : List Char} {next : σ} {behind : List Char} {result : α}
      {rest : List Char} (one : turn state unread = .ok (.again next, behind))
      (shorter : behind.length < unread.length) (more : Turns turn next behind result rest) :
      Turns turn state unread result rest

/-- Turns that shorten the unread text fit within its length. -/
theorem repeatWithin_of_turns {turn : σ → Reader (Turn σ α)} {state : σ} {unread : List Char}
    {result : α} {rest : List Char} (turns : Turns turn state unread result rest)
    {bound : List Char} (enough : unread.length ≤ bound.length) :
    repeatWithin turn bound state unread = .ok (result, rest) := by
  induction turns generalizing bound with
  | done last =>
    rw [repeatWithin, bind_apply last]
    rfl
  | again one shorter _ ih =>
    cases bound with
    | nil => simp at enough; simp [enough] at shorter
    | cons c bound =>
      rw [repeatWithin, bind_apply one]
      exact ih (by simp at enough; omega)

theorem repeated_of_turns {turn : σ → Reader (Turn σ α)} {state : σ} {unread : List Char}
    {result : α} {rest : List Char} (turns : Turns turn state unread result rest) :
    repeated turn state unread = .ok (result, rest) :=
  repeatWithin_of_turns turns (Nat.le_refl _)

end CollectionTypes.Json.Reader
