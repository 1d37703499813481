import CollectionTypes.Json.Value
import CollectionTypes.Proofs.Rounding

/-!
# Exact scaling

Where products and quotients of binary64 numbers need no rounding. Naturals of up to 2 ^ 29 are read
exactly, whatever power of ten they are written with.
-/

namespace CollectionTypes

namespace Binary64

theorem absolute_nearest_one (negative : Bool) {n : Nat} (representable : Representable n) :
    (nearest negative n 1).absolute = n := by
  have quotient : (n : ℚ) / (1 : Nat) = n := by rw [Nat.cast_one, div_one]
  rw [← quotient] at representable
  rw [absolute_nearest_of_representable negative Nat.one_pos representable, quotient]

theorem absolute_ofNat {n : Nat} (representable : Representable n) : (ofNat n).absolute = n :=
  absolute_nearest_one false representable

theorem magnitude_one_pos {x : Binary64} (positive : 0 < x.absolute) : 0 < x.magnitude.1 := by
  obtain ⟨-, quotient⟩ := magnitude_spec x
  refine Nat.pos_of_ne_zero fun zero => ?_
  rw [← quotient, zero, Nat.cast_zero, zero_div] at positive
  exact positive.false

theorem mul_eq (x y : Binary64) :
    x.mul y = nearest (x.negative != y.negative) (x.magnitude.1 * y.magnitude.1)
      (x.magnitude.2 * y.magnitude.2) :=
  rfl

theorem div_eq (x y : Binary64) :
    x.div y = nearest (x.negative != y.negative) (x.magnitude.1 * y.magnitude.2)
      (x.magnitude.2 * y.magnitude.1) :=
  rfl

theorem mul_quotient (x y : Binary64) :
    ((x.magnitude.1 * y.magnitude.1 : Nat) : ℚ) / (x.magnitude.2 * y.magnitude.2 : Nat) =
      x.absolute * y.absolute := by
  rw [← (magnitude_spec x).2, ← (magnitude_spec y).2, div_mul_div_comm]
  push_cast
  rfl

theorem div_quotient (x y : Binary64) :
    ((x.magnitude.1 * y.magnitude.2 : Nat) : ℚ) / (x.magnitude.2 * y.magnitude.1 : Nat) =
      x.absolute / y.absolute := by
  rw [← (magnitude_spec x).2, ← (magnitude_spec y).2, div_div_div_eq]
  push_cast
  rfl

/-- A product of 53 bits is exact. -/
theorem absolute_mul {x y : Binary64} (representable : Representable (x.absolute * y.absolute)) :
    (x.mul y).absolute = x.absolute * y.absolute := by
  have positive := Nat.mul_pos (magnitude_spec x).1 (magnitude_spec y).1
  rw [← mul_quotient] at representable ⊢
  exact absolute_nearest_of_representable _ positive representable

theorem absolute_div {x y : Binary64} (nonzero : 0 < y.absolute)
    (representable : Representable (x.absolute / y.absolute)) :
    (x.div y).absolute = x.absolute / y.absolute := by
  have positive := Nat.mul_pos (magnitude_spec x).1 (magnitude_one_pos nonzero)
  rw [← div_quotient] at representable ⊢
  exact absolute_nearest_of_representable _ positive representable

theorem isFinite_nearest (negative : Bool) {num den : Nat} (positive : 0 < den)
    (small : (num : ℚ) / den < 2 ^ 1000) : (nearest negative num den).isFinite = true := by
  rw [isFinite, decide_eq_true_eq]
  by_contra great
  rcases Nat.eq_zero_or_pos num with rfl | numPositive
  · have least : leastExponent ≤ greatestExponent := by decide
    exact great (by rwa [nearest, if_pos rfl])
  · obtain ⟨least, bits⟩ := lastBitExponent_spec numPositive positive
    have above : (nearest negative num den).exponent ≤ lastBitExponent num den + 1 := by
      rw [nearest, if_neg numPositive.ne']
      dsimp only
      split
      · exact le_rfl
      · exact (Int.lt_succ _).le
    simp only [greatestExponent, leastExponent] at *
    have bits := bits.resolve_left (by omega)
    have beyond : (2 : ℚ) ^ (1000 : Int) ≤ 2 ^ (lastBitExponent num den + 52) :=
      zpow_le_zpow_right₀ one_le_two (by omega)
    exact absurd small (not_lt.mpr (le_trans (by exact_mod_cast beyond) bits))

theorem isFinite_mul {x y : Binary64} (small : x.absolute * y.absolute < 2 ^ 1000) :
    (x.mul y).isFinite = true := by
  have positive := Nat.mul_pos (magnitude_spec x).1 (magnitude_spec y).1
  rw [← mul_quotient] at small
  exact isFinite_nearest _ positive small

theorem ten_pow (k : Nat) : 10 ^ k = 5 ^ k * 2 ^ k :=
  Nat.mul_pow 5 2 k

/-- Powers of ten have few bits apart from zeros. -/
theorem representable_ten_pow {m k : Nat} (small : m * 5 ^ k < mantissaBound) :
    Representable ((m * 10 ^ k : Nat) : ℚ) := by
  refine ⟨m * 5 ^ k, k, small, by simp only [leastExponent]; omega, ?_⟩
  rw [ten_pow, zpow_natCast]
  push_cast
  ring

theorem five_pow_lt {k : Nat} (few : k ≤ 22) : 5 ^ k < mantissaBound :=
  Nat.lt_of_le_of_lt (Nat.pow_le_pow_right (by decide) few) (by decide)

theorem absolute_tenPower {k : Nat} (few : k ≤ 22) : (tenPower k).absolute = 10 ^ k := by
  have representable := representable_ten_pow (m := 1) (k := k) (by simpa using five_pow_lt few)
  rw [Nat.one_mul] at representable
  rw [tenPower, Nat.pow_eq, absolute_ofNat representable]
  push_cast
  rfl

theorem negative_ofNat (n : Nat) : (ofNat n).negative = false :=
  negative_nearest ..

theorem negative_tenPower (k : Nat) : (tenPower k).negative = false :=
  negative_nearest ..

theorem absolute_ofNat_zero : (ofNat 0).absolute = 0 :=
  absolute_nearest_zero false 1

/-- No power of ten changes zero. -/
theorem ofDecimal?_zero (e : Int) : ofDecimal? 0 e = some (ofNat 0) := by
  have isZero : (ofNat 0).isZero = true := rfl
  have isFinite : (ofNat 0).isFinite = true := rfl
  have numerator : (ofNat 0).magnitude.1 = 0 := rfl
  have divided (k : Nat) : (ofNat 0).div (tenPower k) = ofNat 0 := by
    rw [div_eq, numerator, Nat.zero_mul, negative_ofNat, negative_tenPower]
    rfl
  have multiplied (k : Nat) : (ofNat 0).mul (tenPower k) = ofNat 0 := by
    rw [mul_eq, numerator, Nat.zero_mul, negative_ofNat, negative_tenPower]
    rfl
  unfold ofDecimal? divTenPower
  simp only [divided, multiplied, isZero, isFinite, if_true, ite_self]

/-- Before a bound of 64 bits is reached, multiples of powers of ten have 53 bits apart from zeros,
unless what is multiplied is great. -/
theorem mul_five_pow_lt {m k : Nat} (small : m ≤ 2 ^ 29) (fits : m * 10 ^ k < 2 ^ 64) :
    m * 5 ^ k < mantissaBound := by
  rcases Nat.lt_or_ge 10 k with many | few
  · have twos : 2 ^ 11 ≤ 2 ^ k := Nat.pow_le_pow_right (by decide) many
    have lower := Nat.mul_le_mul_left (m * 5 ^ k) twos
    rw [ten_pow, ← Nat.mul_assoc] at fits
    simp only [mantissaBound]
    omega
  · have fives : 5 ^ k ≤ 5 ^ 10 := Nat.pow_le_pow_right (by decide) few
    exact Nat.lt_of_le_of_lt (Nat.mul_le_mul small fives) (by decide)

/-- Below the bound of 64 bits there are twenty digits at most. -/
theorem le_of_ten_pow_lt {k : Nat} (fits : 10 ^ k < 2 ^ 64) : k ≤ 19 := by
  by_contra many
  have beyond : 10 ^ 20 ≤ 10 ^ k := Nat.pow_le_pow_right (by decide) (by omega)
  exact absurd (Nat.lt_of_le_of_lt beyond fits) (by decide)

theorem representable_of_le {n : Nat} (small : n ≤ 2 ^ 29) : Representable n :=
  representable_natural (Nat.lt_of_le_of_lt small (by decide))

/-- Zeros behind a natural are divided away. -/
theorem divTenPower_zeros {m k : Nat} (positive : 0 < m) (small : m ≤ 2 ^ 29)
    (fits : m * 10 ^ k < 2 ^ 64) :
    ((ofNat (m * 10 ^ k)).divTenPower k).negative = false ∧
      ((ofNat (m * 10 ^ k)).divTenPower k).absolute = m := by
  have few : k ≤ 19 :=
    le_of_ten_pow_lt (Nat.lt_of_le_of_lt (Nat.le_mul_of_pos_left _ positive) fits)
  have within : k ≤ greatestTenPower := Nat.le_trans few (by decide)
  have coefficient := absolute_ofNat (representable_ten_pow (mul_five_pow_lt small fits))
  have power := absolute_tenPower (Nat.le_trans few (by decide))
  have quotient : (ofNat (m * 10 ^ k)).absolute / (tenPower k).absolute = m := by
    rw [coefficient, power]
    push_cast
    exact mul_div_cancel_right₀ _ (by positivity)
  rw [divTenPower, if_pos within]
  constructor
  · rw [div_eq, negative_nearest, negative_ofNat, negative_tenPower]
    rfl
  · rw [absolute_div (by rw [power]; positivity) (quotient ▸ representable_of_le small), quotient]

/-- Zeros that an exponent stands for are multiplied. -/
theorem mul_tenPower_natural {c k : Nat} (positive : 0 < c) (small : c * 10 ^ k ≤ 2 ^ 29) :
    k ≤ greatestTenPower ∧ ((ofNat c).mul (tenPower k)).isFinite = true ∧
      ((ofNat c).mul (tenPower k)).negative = false ∧
      ((ofNat c).mul (tenPower k)).absolute = (c * 10 ^ k : Nat) := by
  have few : k ≤ 19 := le_of_ten_pow_lt (Nat.lt_of_le_of_lt
    (Nat.le_trans (Nat.le_mul_of_pos_left _ positive) small) (by decide))
  have least : c ≤ c * 10 ^ k := Nat.le_mul_of_pos_right _ (Nat.pow_pos (by decide))
  have coefficient := absolute_ofNat (representable_of_le (Nat.le_trans least small))
  have power := absolute_tenPower (Nat.le_trans few (by decide))
  have product : (ofNat c).absolute * (tenPower k).absolute = (c * 10 ^ k : Nat) := by
    rw [coefficient, power]
    push_cast
    rfl
  have bound : ((2 ^ 29 : Nat) : ℚ) < 2 ^ 1000 := by
    rw [Nat.cast_pow, Nat.cast_ofNat]
    exact pow_lt_pow_right₀ one_lt_two (by decide)
  refine ⟨Nat.le_trans few (by decide), isFinite_mul ?_, ?_, ?_⟩
  · rw [product]
    exact lt_of_le_of_lt (Nat.cast_le.mpr small) bound
  · rw [mul_eq, negative_nearest, negative_ofNat, negative_tenPower]
    rfl
  · rw [absolute_mul (product ▸ representable_of_le small), product]

/-- Scaled digits are a natural if the zeros are behind the digits or behind the natural. -/
theorem scaled_eq_natural {c m : Nat} {e : Int} (isNatural : (c : ℚ) * 10 ^ e = m) :
    (e < 0 ∧ c = m * 10 ^ e.natAbs) ∨ (0 ≤ e ∧ c * 10 ^ e.natAbs = m) := by
  rcases lt_or_ge e 0 with below | above
  · left
    rw [zpow_of_neg 10 below, ← div_eq_mul_inv, div_eq_iff (by positivity)] at isNatural
    exact ⟨below, by exact_mod_cast isNatural⟩
  · right
    rw [zpow_of_nonneg 10 above] at isNatural
    exact ⟨above, by exact_mod_cast isNatural⟩

/-- A natural that is not too great is read exactly, whatever power of ten it is written with. -/
theorem ofDecimal?_natural {c m : Nat} {e : Int} (fits : c < 2 ^ 64) (small : m ≤ 2 ^ 29)
    (isNatural : (c : ℚ) * 10 ^ e = m) :
    ∃ x, ofDecimal? c e = some x ∧ x.negative = false ∧ x.absolute = m := by
  rcases Nat.eq_zero_or_pos m with rfl | positive
  · have nothing : c = 0 := by simpa [zpow_ne_zero] using isNatural
    rw [nothing, ofDecimal?_zero]
    exact ⟨_, rfl, negative_ofNat 0, absolute_ofNat_zero.trans Nat.cast_zero.symm⟩
  rw [ofDecimal?]
  dsimp only
  rcases scaled_eq_natural isNatural with ⟨below, digits⟩ | ⟨above, digits⟩
  · obtain ⟨notNegative, size⟩ := divTenPower_zeros positive small (digits ▸ fits)
    rw [if_pos below, digits]
    exact ⟨_, rfl, notNegative, size⟩
  · have nonzero : 0 < c := Nat.pos_of_mul_pos_right (digits ▸ positive)
    obtain ⟨within, finite, notNegative, size⟩ := mul_tenPower_natural nonzero (digits ▸ small)
    rw [if_neg (not_lt.mpr above), if_pos within, if_pos finite]
    exact ⟨_, rfl, notNegative, by rw [size, digits]⟩

end Binary64

namespace Json.Number

open Binary64

theorem value_integer (n : Nat) :
    (integer n).toBinary64.value = (nearest false n 1).absolute := by
  have notNegative : decide ((n : Int) < 0) = false := decide_eq_false (by omega)
  rw [toBinary64, notNegative, Int.natAbs_natCast, value_of_not_negative (negative_nearest ..)]

theorem value_integer_of_lt {n : Int} (small : n.natAbs < mantissaBound) :
    (integer n).toBinary64.value = n := by
  have size : (integer n).toBinary64.absolute = n.natAbs :=
    absolute_nearest_one _ (representable_natural small)
  have sign : (integer n).toBinary64.negative = decide (n < 0) := negative_nearest ..
  have whole : (n : ℚ) = if n < 0 then -(n.natAbs : ℚ) else n.natAbs := by
    rw [Nat.cast_natAbs, Int.cast_abs]
    split
    next negative => rw [abs_of_neg (Int.cast_lt_zero.mpr negative), neg_neg]
    next notNegative => rw [abs_of_nonneg (Int.cast_nonneg (not_lt.mp notNegative))]
  rw [value, size, sign, whole]
  simp only [decide_eq_true_eq]

end Json.Number

end CollectionTypes
