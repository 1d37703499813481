import CollectionTypes.Proofs.ReaderSteps

/-!
# Whole numbers

An integer that fits in 64 bits is read back from its decimal digits as that integer.
-/

namespace CollectionTypes.Json

/-- What may stand right behind a value in a document without blanks. -/
inductive Ends : List Char → Prop
  | document : Ends []
  | comma (rest : List Char) : Ends (',' :: rest)
  | list (rest : List Char) : Ends (']' :: rest)
  | object (rest : List Char) : Ends ('\x7d' :: rest)

theorem Ends.takeWhile_isDigit {rest : List Char} (ends : Ends rest) :
    rest.takeWhile Char.isDigit = [] := by
  cases ends <;> rfl

theorem Ends.dropWhile_isDigit {rest : List Char} (ends : Ends rest) :
    rest.dropWhile Char.isDigit = rest := by
  cases ends <;> rfl

/-- The integers that are kept as such. -/
def IsInteger64 (n : Int) : Prop :=
  -(negativeBound : Int) ≤ n ∧ n < coefficientBound

instance (n : Int) : Decidable (IsInteger64 n) :=
  inferInstanceAs (Decidable (_ ∧ _))

theorem isDigit_of_mem_toDigits {n : Nat} {c : Char} (member : c ∈ Nat.toDigits 10 n) :
    c.isDigit = true :=
  Nat.isDigit_of_mem_toDigits (by decide) (by decide) member

/-- Only the digits of zero begin with a zero. -/
theorem toDigits_first (n : Nat) :
    ∃ c more, Nat.toDigits 10 n = c :: more ∧ c.isDigit = true ∧ (c = '0' → n = 0) := by
  induction n using Nat.base_induction 10 (by decide) with
  | single d small =>
    have zero : ∀ d : Fin 10, Nat.digitChar d = '0' → d.val = 0 := by decide
    have digits := Nat.toDigits_of_lt_base small
    exact ⟨d.digitChar, [], digits, isDigit_of_mem_toDigits (n := d) (by simp [digits]),
      zero ⟨d, small⟩⟩
  | digit m d small positive ih =>
    obtain ⟨c, more, digits, isDigit, zero⟩ := ih
    refine ⟨c, more ++ Nat.toDigits 10 d, ?_, isDigit, ?_⟩
    · rw [← Nat.toDigits_append_toDigits (by decide) positive small, digits, List.cons_append]
    · intro isZero
      exact absurd (zero isZero) (Nat.ne_of_gt positive)

theorem le_ofDigitChars (digits : List Char) (n : Nat) : n ≤ Nat.ofDigitChars 10 digits n := by
  rw [Nat.ofDigitChars_eq_ofDigitChars_zero]
  have := Nat.le_mul_of_pos_left n (Nat.pow_pos (n := digits.length) (by decide : 0 < 10))
  omega

/-- All digits are taken as long as the number they make stays below the bound. -/
theorem appendDigits_of_lt {bound : Nat} (digits : List Char) (n : Nat)
    (below : Nat.ofDigitChars 10 digits n < bound) :
    appendDigits bound n (digits.map digitValue) = (Nat.ofDigitChars 10 digits n, []) := by
  induction digits generalizing n with
  | nil => rfl
  | cons c digits ih =>
    rw [Nat.ofDigitChars_cons, Nat.mul_comm] at below ⊢
    have first := Nat.lt_of_le_of_lt (le_ofDigitChars digits _) below
    rw [List.map_cons, appendDigits, digitValue, if_pos first]
    exact ih _ below

/-- The sign of an integer and its digits, as they are written. -/
def signedDigits (negative : Bool) (n : Nat) : List Char :=
  if negative then '-' :: Nat.toDigits 10 n else Nat.toDigits 10 n

theorem toList_toString (n : Int) :
    (toString n).toList = signedDigits (decide (n < 0)) n.natAbs := by
  cases n with
  | ofNat m =>
    have notNegative : ¬Int.ofNat m < 0 := Int.not_lt.mpr (Int.natCast_nonneg m)
    rw [signedDigits, decide_eq_false notNegative]
    exact Nat.toList_repr
  | negSucc m =>
    rw [signedDigits, decide_eq_true (Int.negSucc_lt_zero m)]
    change ("-" ++ (m + 1).repr).toList = _
    rw [String.toList_append, Nat.toList_repr]
    rfl

theorem integer?_signed {n : Int} (fits : IsInteger64 n) {digits : List Char}
    (size : Nat.ofDigitChars 10 digits 0 = n.natAbs) :
    Numeral.integer? ⟨decide (n < 0), digits.map digitValue, none, none⟩ = some n := by
  have bounds : -(2 ^ 63 : Int) ≤ n ∧ n < 2 ^ 64 := fits
  have below : Nat.ofDigitChars 10 digits 0 < coefficientBound :=
    show _ < 2 ^ 64 by omega
  simp only [Numeral.integer?, appendDigits_of_lt digits 0 below, size]
  by_cases negative : n < 0
  · have inRange : (decide (n.natAbs = 0) || decide (n.natAbs > negativeBound)) = false := by
      rw [Bool.or_eq_false_iff, decide_eq_false_iff_not, decide_eq_false_iff_not]
      exact ⟨by omega, show ¬n.natAbs > 2 ^ 63 by omega⟩
    rw [decide_eq_true negative, if_pos rfl, inRange, if_neg Bool.false_ne_true]
    congr 1
    omega
  · rw [decide_eq_false negative, if_neg Bool.false_ne_true]
    congr 1
    omega

theorem value_signedDigits {n : Int} (fits : IsInteger64 n) :
    Numeral.value ⟨decide (n < 0), (Nat.toDigits 10 n.natAbs).map digitValue, none, none⟩ =
      .ok (.integer n) := by
  rw [Numeral.value, integer?_signed fits Nat.ofDigitChars_ten_toDigits]

namespace Reader

theorem digits_toDigits (n : Nat) {rest : List Char} (ends : Ends rest) :
    digits (Nat.toDigits 10 n ++ rest) = .ok ((Nat.toDigits 10 n).map digitValue, rest) := by
  have taken : takeWhile Char.isDigit (Nat.toDigits 10 n ++ rest) =
      .ok (Nat.toDigits 10 n, rest) := by
    rw [takeWhile, List.takeWhile_append_of_pos fun _ => isDigit_of_mem_toDigits,
      List.dropWhile_append_of_pos fun _ => isDigit_of_mem_toDigits, ends.takeWhile_isDigit,
      ends.dropWhile_isDigit, List.append_nil]
  rw [digits, bind_apply taken, pure_apply]

theorem wholeDigits_toDigits (cause : Cause) (n : Nat) {rest : List Char} (ends : Ends rest) :
    wholeDigits cause (Nat.toDigits 10 n ++ rest) =
      .ok ((Nat.toDigits 10 n).map digitValue, rest) := by
  obtain ⟨c, more, shape, isDigit, zero⟩ := toDigits_first n
  have read := digits_toDigits n ends
  rw [shape, List.cons_append] at read
  rw [wholeDigits, shape, List.cons_append, bind_apply (next?_cons c _)]
  simp only [isDigit, if_true]
  by_cases isZero : c = '0'
  · rw [zero isZero, Nat.toDigits_zero] at shape
    obtain ⟨rfl, rfl⟩ := List.cons.inj shape
    rw [if_pos rfl, bind_apply (skip_cons '0' _), List.nil_append]
    cases ends <;> rfl
  · rw [if_neg isZero, read]

theorem numeral_signedDigits (cause : Cause) (negative : Bool) (n : Nat) {rest : List Char}
    (ends : Ends rest) :
    numeral cause (signedDigits negative n ++ rest) =
      .ok (⟨negative, (Nat.toDigits 10 n).map digitValue, none, none⟩, rest) := by
  have whole := wholeDigits_toDigits cause n ends
  obtain ⟨c, more, shape, isDigit, -⟩ := toDigits_first n
  have noSign : c ≠ '-' := by rintro rfl; exact absurd isDigit (by decide)
  cases negative with
  | false =>
    have sign : next? (Nat.toDigits 10 n ++ rest) = .ok (some c, Nat.toDigits 10 n ++ rest) := by
      rw [shape, List.cons_append, next?_cons]
    rw [numeral, signedDigits, if_neg Bool.false_ne_true, bind_apply sign]
    simp only [Option.some.injEq, noSign, if_false, decide_false]
    rw [bind_apply whole]
    cases ends <;> rfl
  | true =>
    rw [numeral, signedDigits, if_pos rfl, List.cons_append, bind_apply (next?_cons '-' _)]
    simp only [if_true, decide_true]
    rw [bind_apply (skip_cons '-' _), bind_apply whole]
    cases ends <;> rfl

/-- An integer is read back from its text. -/
theorem number_compact {n : Int} (fits : IsInteger64 n) {rest : List Char} (ends : Ends rest) :
    number ((Number.integer n).compact.toList ++ rest) = .ok (.integer n, rest) := by
  have read := numeral_signedDigits .missingValue (decide (n < 0)) n.natAbs ends
  rw [← toList_toString] at read
  rw [number, Number.compact, bind_apply read]
  simp only [value_signedDigits fits, pure_apply]

end Reader

end CollectionTypes.Json
