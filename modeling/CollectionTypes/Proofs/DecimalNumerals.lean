import CollectionTypes.Proofs.DocumentTree
import CollectionTypes.Proofs.ExactScaling

/-!
# Decimal numerals

A numeral stands for a decimal number, whichever digits, point and exponent it is written with. Only
digits that fit in 64 bits are looked at when it is read. For a natural of up to 2 ^ 29 the others
are zeros, and so all its numerals are read as this natural.
-/

namespace CollectionTypes.Json

namespace NumeralText

/-- The digits behind the point. -/
def fractionDigits (literal : NumeralText) : List Char :=
  (literal.fraction.map Digits.chars).getD []

/-- The exponent as it is written. -/
def power (literal : NumeralText) : Int :=
  match literal.exponent with
  | none => 0
  | some exponent =>
      let size : Int := Nat.ofDigitChars 10 exponent.digits.chars 0
      if exponent.sign = some '-' then -size else size

/-- All digits as one number. -/
def digitsValue (literal : NumeralText) : Nat :=
  Nat.ofDigitChars 10 (literal.whole.chars ++ literal.fractionDigits) 0

/-- The decimal number without its sign. -/
def decimalSize (literal : NumeralText) : ℚ :=
  literal.digitsValue * 10 ^ (literal.power - literal.fractionDigits.length)

/-- The decimal number that is written. -/
def decimal (literal : NumeralText) : ℚ :=
  if literal.negative then -literal.decimalSize else literal.decimalSize

/-- Neither a point nor an exponent is written. -/
def IsWhole (literal : NumeralText) : Prop :=
  literal.fraction = none ∧ literal.exponent = none

/-- The binary64 number that a numeral is read as. Beyond the finite range there is none. -/
def double? (literal : NumeralText) : Option Binary64 :=
  literal.numeral.value.toOption.map Number.toBinary64

end NumeralText

section Digits

theorem digitValue_le {c : Char} (isDigit : c.isDigit = true) : digitValue c ≤ 9 := by
  simp only [Char.isDigit, Bool.and_eq_true, decide_eq_true_eq, UInt32.le_iff_toNat_le] at isDigit
  have upper : c.toNat ≤ 57 := isDigit.2
  have zero : '0'.toNat = 48 := rfl
  simp only [digitValue, zero]
  omega

theorem ofDigitChars_lt {digits : List Char} (areDigits : ∀ c ∈ digits, c.isDigit = true)
    (n : Nat) :
    Nat.ofDigitChars 10 digits n < (n + 1) * 10 ^ digits.length := by
  induction digits generalizing n with
  | nil => simp
  | cons c digits ih =>
    have digit := digitValue_le (areDigits c List.mem_cons_self)
    have rest := ih (fun d member => areDigits d (List.mem_cons_of_mem _ member))
      (10 * n + digitValue c)
    have step : 10 * n + digitValue c + 1 ≤ (n + 1) * 10 := by omega
    rw [Nat.ofDigitChars_cons, List.length_cons]
    calc Nat.ofDigitChars 10 digits (10 * n + digitValue c)
        < (10 * n + digitValue c + 1) * 10 ^ digits.length := rest
      _ ≤ (n + 1) * 10 * 10 ^ digits.length := Nat.mul_le_mul_right _ step
      _ = (n + 1) * 10 ^ (digits.length + 1) := by rw [Nat.mul_assoc, ← Nat.pow_succ']

/-- Digits behind a number are zeros if the whole is a small multiple of a power of ten. -/
theorem rest_eq_zero {p r rest m k : Nat} (great : 10 ^ 18 ≤ p) (small : m ≤ 10 ^ 18)
    (below : rest < 10 ^ r) (whole : p * 10 ^ r + rest = m * 10 ^ k) : rest = 0 := by
  have enough : r ≤ k := by
    by_contra few
    have power : 10 ^ (k + 1) ≤ 10 ^ r := Nat.pow_le_pow_right (by decide) (by omega)
    have lower := Nat.mul_le_mul great power
    have upper := Nat.mul_le_mul_right (10 ^ k) small
    have positive := Nat.pow_pos (n := k) (show 0 < 10 by decide)
    rw [Nat.pow_succ] at lower
    omega
  have multiple : 10 ^ r ∣ p * 10 ^ r + rest :=
    whole ▸ Dvd.dvd.mul_left (Nat.pow_dvd_pow 10 enough) m
  exact Nat.eq_zero_of_dvd_of_lt ((Nat.dvd_add_right (Nat.dvd_mul_left _ _)).mp multiple) below

/-- What is taken of digits: as many as keep the number below the bound. -/
structure Taken (bound n : Nat) (digits taken left : List Char) : Prop where
  split : digits = taken ++ left
  result : appendDigits bound n (digits.map digitValue) =
    (Nat.ofDigitChars 10 taken n, left.map digitValue)
  fits : n < bound → Nat.ofDigitChars 10 taken n < bound
  full : ∀ c ∈ left.head?, bound ≤ 10 * Nat.ofDigitChars 10 taken n + digitValue c

theorem exists_taken (bound n : Nat) (digits : List Char) :
    ∃ taken left, Taken bound n digits taken left := by
  induction digits generalizing n with
  | nil => exact ⟨[], [], rfl, rfl, id, by simp⟩
  | cons c digits ih =>
    by_cases fits : 10 * n + digitValue c < bound
    · obtain ⟨taken, left, split, result, below, full⟩ := ih (10 * n + digitValue c)
      refine ⟨c :: taken, left, by rw [split, List.cons_append], ?_, fun _ => below fits, full⟩
      rw [List.map_cons, appendDigits, Nat.mul_comm n, if_pos fits, result]
      rfl
    · refine ⟨[], c :: digits, rfl, ?_, id, ?_⟩
      · rw [List.map_cons, appendDigits, Nat.mul_comm n, if_neg fits]
        rfl
      · rintro _ ⟨⟩
        exact Nat.le_of_not_lt fits

/-- Digits that do not fit are zeros, unless the whole is no small multiple of a power of ten. -/
theorem left_eq_zero {p m k : Nat} {c : Char} {more : List Char}
    (areDigits : ∀ d ∈ c :: more, d.isDigit = true)
    (full : coefficientBound ≤ 10 * p + digitValue c) (small : m ≤ 10 ^ 18)
    (whole : Nat.ofDigitChars 10 (c :: more) p < coefficientBound ∨
      Nat.ofDigitChars 10 (c :: more) p = m * 10 ^ k) :
    Nat.ofDigitChars 10 (c :: more) 0 = 0 := by
  have least := le_ofDigitChars more (10 * p + digitValue c)
  have digit := digitValue_le (areDigits c List.mem_cons_self)
  rcases whole with below | multiple
  · rw [Nat.ofDigitChars_cons] at below
    exact absurd (Nat.lt_of_le_of_lt least below) (Nat.not_lt.mpr full)
  · have great : 10 ^ 18 ≤ p := by
      simp only [coefficientBound] at full
      omega
    have below := ofDigitChars_lt areDigits 0
    rw [Nat.zero_add, Nat.one_mul] at below
    rw [Nat.ofDigitChars_eq_ofDigitChars_zero, Nat.mul_comm] at multiple
    exact rest_eq_zero great small below multiple

end Digits

namespace NumeralText

variable {literal : NumeralText}

theorem isDigit_of_mem_fractionDigits {c : Char} (member : c ∈ literal.fractionDigits) :
    c.isDigit = true := by
  rw [fractionDigits] at member
  cases point : literal.fraction with
  | none => simp [point] at member
  | some digits => exact digits.digits c (by simpa [point] using member)

theorem coefficient_eq {whole left fraction rest : List Char}
    (takenWhole : Taken coefficientBound 0 literal.whole.chars whole left)
    (takenFraction : Taken coefficientBound (Nat.ofDigitChars 10 whole 0) literal.fractionDigits
      fraction rest) :
    literal.numeral.coefficient =
      (Nat.ofDigitChars 10 (whole ++ fraction) 0, (left.length : Int) - fraction.length) := by
  have behind : (literal.fraction.map Digits.values).getD [] =
      literal.fractionDigits.map digitValue := by
    rw [fractionDigits]
    cases literal.fraction <;> rfl
  have length := congrArg List.length takenFraction.split
  rw [List.length_append] at length
  simp only [Numeral.coefficient, numeral, Digits.values, takenWhole.result, behind,
    takenFraction.result, Nat.ofDigitChars_append, List.length_map, Prod.mk.injEq, true_and]
  omega

/-- What is read of the digits of a small multiple of a power of ten are all digits but zeros. -/
theorem coefficient_spec (literal : NumeralText) {m k : Nat} (small : m ≤ 10 ^ 18)
    (shape : literal.digitsValue < coefficientBound ∨ literal.digitsValue = m * 10 ^ k) :
    literal.numeral.coefficient.1 < coefficientBound ∧
      ∃ zeros : Nat, literal.digitsValue = literal.numeral.coefficient.1 * 10 ^ zeros ∧
        literal.numeral.coefficient.2 = zeros - (literal.fractionDigits.length : Int) := by
  obtain ⟨whole, left, takenWhole⟩ := exists_taken coefficientBound 0 literal.whole.chars
  obtain ⟨fraction, rest, takenFraction⟩ :=
    exists_taken coefficientBound (Nat.ofDigitChars 10 whole 0) literal.fractionDigits
  have fits := takenFraction.fits (takenWhole.fits (by decide))
  have wholeDigits := literal.whole.digits
  have fractionDigits : ∀ c ∈ literal.fractionDigits, c.isDigit = true :=
    fun _ => isDigit_of_mem_fractionDigits
  rw [digitsValue] at shape ⊢
  rw [coefficient_eq takenWhole takenFraction, Nat.ofDigitChars_append]
  refine ⟨fits, ?_⟩
  cases left with
  | nil =>
    have split : literal.whole.chars ++ literal.fractionDigits = (whole ++ fraction) ++ rest := by
      rw [takenWhole.split, takenFraction.split, List.append_nil, List.append_assoc]
    have length := congrArg List.length takenFraction.split
    rw [List.length_append] at length
    rw [split, Nat.ofDigitChars_append, Nat.ofDigitChars_append] at shape ⊢
    refine ⟨rest.length, ?_, by simp only [List.length_nil]; omega⟩
    cases rest with
    | nil => simp
    | cons c more =>
      have areDigits : ∀ d ∈ c :: more, d.isDigit = true := fun d member =>
        fractionDigits d (takenFraction.split ▸ List.mem_append_right _ member)
      have zeros := left_eq_zero areDigits (takenFraction.full c rfl) small shape
      rw [Nat.ofDigitChars_eq_ofDigitChars_zero, zeros, Nat.add_zero, Nat.mul_comm]
  | cons c more =>
    have split : literal.whole.chars ++ literal.fractionDigits =
        whole ++ c :: (more ++ literal.fractionDigits) := by
      rw [takenWhole.split, List.append_assoc, List.cons_append]
    have areDigits : ∀ d ∈ c :: (more ++ literal.fractionDigits), d.isDigit = true := by
      intro d member
      rcases List.mem_append.mp (List.cons_append ▸ member) with ofWhole | ofFraction
      · exact wholeDigits d (takenWhole.split ▸ List.mem_append_right _ ofWhole)
      · exact fractionDigits d ofFraction
    rw [split, Nat.ofDigitChars_append] at shape ⊢
    have full := takenWhole.full c rfl
    have zeros := left_eq_zero areDigits full small shape
    -- The first digit that does not fit is a zero, so no digit behind the point fits either.
    have nothing : fraction = [] := by
      have zero : 10 * 0 + digitValue c ≤ 0 :=
        (le_ofDigitChars (more ++ literal.fractionDigits) _).trans_eq zeros
      cases fraction with
      | nil => rfl
      | cons d taken =>
        have least := le_ofDigitChars taken (10 * Nat.ofDigitChars 10 whole 0 + digitValue d)
        rw [Nat.ofDigitChars_cons] at fits
        exact absurd (Nat.lt_of_le_of_lt least fits) (Nat.not_lt.mpr (by omega))
    refine ⟨(c :: more).length + literal.fractionDigits.length, ?_, ?_⟩
    · rw [Nat.ofDigitChars_eq_ofDigitChars_zero, zeros, Nat.add_zero, Nat.mul_comm, nothing,
        Nat.ofDigitChars_nil, ← List.length_append, List.cons_append]
    · rw [nothing, List.length_nil]
      push_cast
      omega

/-- An exponent that is not too great is read as it is written. -/
theorem exponent_spec (short : literal.power.natAbs < exponentBound) :
    literal.numeral.exponentExcess? = none ∧ literal.numeral.exponentValue = literal.power := by
  simp only [Numeral.exponentExcess?, Numeral.exponentValue, numeral]
  unfold power at short ⊢
  cases written : literal.exponent with
  | none => exact ⟨rfl, rfl⟩
  | some text =>
    have below : Nat.ofDigitChars 10 text.digits.chars 0 < exponentBound := by
      rw [written] at short
      dsimp only at short
      split at short <;> omega
    simp [ExponentText.exponent, Digits.values, appendDigits_of_lt _ _ below]

theorem decimalSize_of_isWhole (whole : literal.IsWhole) :
    literal.decimalSize = Nat.ofDigitChars 10 literal.whole.chars 0 := by
  simp [decimalSize, digitsValue, power, fractionDigits, whole.1, whole.2]

theorem integer?_of_isWhole (whole : literal.IsWhole)
    (fits : Nat.ofDigitChars 10 literal.whole.chars 0 < coefficientBound) :
    literal.numeral.integer? =
      let size := Nat.ofDigitChars 10 literal.whole.chars 0
      if literal.negative then if size = 0 || size > negativeBound then none else some (-size : Int)
      else some (size : Int) := by
  have digits := appendDigits_of_lt literal.whole.chars 0 fits
  simp only [Numeral.integer?, numeral, whole.1, whole.2, Option.map_none, Digits.values, digits]

theorem isWhole_of_integer? {n : Int} (read : literal.numeral.integer? = some n) :
    literal.IsWhole ∧ Nat.ofDigitChars 10 literal.whole.chars 0 < coefficientBound := by
  obtain ⟨taken, left, parts⟩ := exists_taken coefficientBound 0 literal.whole.chars
  have result := parts.result
  unfold Numeral.integer? numeral at read
  split at read
  next noFraction noExponent digits =>
    rw [Digits.values, result, Prod.mk.injEq] at digits
    have nothing : left = [] := List.map_eq_nil_iff.mp digits.2
    refine ⟨⟨Option.map_eq_none_iff.mp noFraction, Option.map_eq_none_iff.mp noExponent⟩, ?_⟩
    rw [parts.split, nothing, List.append_nil]
    exact parts.fits (by decide)
  · contradiction

theorem decimal_of_integer? {n : Int} (read : literal.numeral.integer? = some n) :
    literal.decimal = n := by
  obtain ⟨whole, fits⟩ := isWhole_of_integer? read
  rw [integer?_of_isWhole whole fits] at read
  rw [decimal, decimalSize_of_isWhole whole]
  dsimp only at read
  cases negative : literal.negative with
  | false =>
    rw [negative, if_neg Bool.false_ne_true] at read
    obtain rfl := Option.some.inj read
    rw [if_neg Bool.false_ne_true, Int.cast_natCast]
  | true =>
    rw [negative, if_pos rfl] at read
    split at read
    · contradiction
    · obtain rfl := Option.some.inj read
      rw [if_pos rfl, Int.cast_neg, Int.cast_natCast]

theorem value_signed {x : Binary64} (notNegative : x.negative = false) (negative : Bool) :
    (if negative then x.neg else x).value = if negative then -x.absolute else x.absolute := by
  cases negative with
  | false => exact Binary64.value_of_not_negative notNegative
  | true => simp [Binary64.value, Binary64.neg, Binary64.absolute, notNegative]

theorem natAbs_of_decimal {n : Int} (isInteger : literal.decimal = n) :
    literal.decimalSize = n.natAbs := by
  have notNegative : 0 ≤ literal.decimalSize := by
    unfold decimalSize
    positivity
  have size : |literal.decimal| = literal.decimalSize := by
    rw [decimal]
    split
    · rw [abs_neg, abs_of_nonneg notNegative]
    · exact abs_of_nonneg notNegative
  rw [← size, isInteger, Nat.cast_natAbs, Int.cast_abs]

/-- The digits of a natural have zeros behind them, unless they are a part of its digits. -/
theorem digitsValue_shape {m : Nat} (fits : m < coefficientBound)
    (size : literal.decimalSize = m) :
    literal.digitsValue < coefficientBound ∨ literal.digitsValue =
      m * 10 ^ (literal.power - literal.fractionDigits.length).natAbs := by
  rcases Binary64.scaled_eq_natural size with ⟨-, digits⟩ | ⟨-, digits⟩
  · exact .inr digits
  · have positive : 0 < 10 ^ (literal.power - literal.fractionDigits.length).natAbs :=
      Nat.pow_pos (by decide)
    have least := Nat.le_mul_of_pos_right literal.digitsValue positive
    exact .inl (Nat.lt_of_le_of_lt (digits ▸ least) fits)

/-- An integer that is not too great is read exactly, whichever numeral it is written as. -/
theorem double?_integer {n : Int} (small : n.natAbs ≤ 2 ^ 29)
    (short : literal.power.natAbs < exponentBound) (isInteger : literal.decimal = n) :
    ∃ x, literal.double? = some x ∧ x.value = n := by
  cases read : literal.numeral.integer? with
  | some v =>
    have same : v = n := by exact_mod_cast (decimal_of_integer? read).symm.trans isInteger
    refine ⟨(Number.integer n).toBinary64, ?_, ?_⟩
    · rw [double?, Numeral.value, read, same]
      rfl
    · exact Number.value_integer_of_lt (Nat.lt_of_le_of_lt small (by decide))
  | none =>
    have size := natAbs_of_decimal isInteger
    obtain ⟨excess, power⟩ := exponent_spec short
    obtain ⟨fits, zeros, digits, shift⟩ := coefficient_spec literal
      (Nat.le_trans small (by decide))
      (digitsValue_shape (Nat.lt_of_le_of_lt small (by decide)) size)
    have scaled : (literal.numeral.coefficient.1 : ℚ) *
        10 ^ (literal.numeral.coefficient.2 + literal.numeral.exponentValue) = n.natAbs := by
      have exponent : literal.numeral.coefficient.2 + literal.numeral.exponentValue =
          zeros + (literal.power - literal.fractionDigits.length) := by
        rw [power, shift]
        ring
      rw [← size, decimalSize, digits, exponent, zpow_add₀ (by norm_num), zpow_natCast]
      push_cast
      ring
    obtain ⟨x, made, notNegative, absolute⟩ := Binary64.ofDecimal?_natural fits small scaled
    refine ⟨if literal.negative then x.neg else x, ?_, ?_⟩
    · simp only [double?, Numeral.value, read, excess, made]
      rfl
    · rw [value_signed notNegative, absolute, ← size, ← isInteger, decimal]

theorem negative_of_decimal {n : Int} (nonzero : n ≠ 0) (isInteger : literal.decimal = n) :
    literal.negative = decide (n < 0) := by
  have size := natAbs_of_decimal isInteger
  rw [decimal, size, ← Int.cast_natCast] at isInteger
  cases sign : literal.negative with
  | false =>
    rw [sign, if_neg Bool.false_ne_true, Int.cast_inj] at isInteger
    exact (decide_eq_false (by omega)).symm
  | true =>
    rw [sign, if_pos rfl, ← Int.cast_neg, Int.cast_inj] at isInteger
    exact (decide_eq_true (by omega)).symm

/-- Zero may have a sign, and then it is not read as an integer. -/
theorem integer?_of_ne_zero (whole : literal.IsWhole) {n : Int} (fits : IsInteger64 n)
    (nonzero : n ≠ 0) (isInteger : literal.decimal = n) :
    literal.numeral.integer? = some n := by
  have size := natAbs_of_decimal isInteger
  rw [decimalSize_of_isWhole whole, Nat.cast_inj] at size
  have written : literal.numeral =
      ⟨decide (n < 0), literal.whole.chars.map digitValue, none, none⟩ := by
    rw [numeral, whole.1, whole.2, negative_of_decimal nonzero isInteger]
    rfl
  rw [written]
  exact integer?_signed fits size

/-- An integer of 64 bits is read as the number nearest to it. -/
theorem double?_of_isWhole (whole : literal.IsWhole) {n : Int} (fits : IsInteger64 n)
    (isInteger : literal.decimal = n) :
    ∃ x, literal.double? = some x ∧ x.value = (Number.integer n).toBinary64.value := by
  by_cases zero : n = 0
  · have short : literal.power.natAbs < exponentBound := by
      rw [power, whole.2]
      decide
    obtain ⟨x, read, value⟩ := double?_integer (zero ▸ by decide) short isInteger
    refine ⟨x, read, value.trans ?_⟩
    exact (Number.value_integer_of_lt (zero ▸ by decide)).symm
  · refine ⟨(Number.integer n).toBinary64, ?_, rfl⟩
    rw [double?, Numeral.value, integer?_of_ne_zero whole fits zero isInteger]
    rfl

end NumeralText

end CollectionTypes.Json
