import CollectionTypes.Number.Binary64
import Mathlib.Algebra.Order.Field.Power
import Mathlib.Tactic.Linarith
import Mathlib.Tactic.NormNum
import Mathlib.Tactic.Positivity
import Mathlib.Tactic.Ring

/-!
# Rounding

Binary64 numbers as the rational numbers that they stand for. `nearest` lives up to its name: no
number of 53 bits is nearer to a quotient than what the quotient is rounded to. So quotients that
have no more bits are not changed, and rounding does not lead past a number of so many bits.
-/

namespace CollectionTypes.Binary64

/-- The rational number without its sign. -/
def absolute (x : Binary64) : ℚ :=
  x.mantissa * 2 ^ x.exponent

def value (x : Binary64) : ℚ :=
  if x.negative then -x.absolute else x.absolute

/-- The magnitudes of numbers of 53 bits, of any size from the least exponent on. -/
def Representable (q : ℚ) : Prop :=
  ∃ (mantissa : Nat) (exponent : Int), mantissa < mantissaBound ∧ leastExponent ≤ exponent ∧
    q = mantissa * 2 ^ exponent

theorem representable_natural {n : Nat} (small : n < mantissaBound) : Representable n :=
  ⟨n, 0, small, by decide, by simp⟩

theorem representable_two_pow (k : Nat) : Representable (2 ^ k) :=
  ⟨1, k, by decide, by simp only [leastExponent]; omega, by simp⟩

theorem absolute_nonneg (x : Binary64) : 0 ≤ x.absolute := by
  unfold absolute
  positivity

theorem zpow_of_nonneg (a : ℚ) {e : Int} (notNegative : 0 ≤ e) : a ^ e = a ^ e.natAbs := by
  rw [← zpow_natCast]
  congr 1
  omega

theorem zpow_of_neg (a : ℚ) {e : Int} (negative : e < 0) : a ^ e = (a ^ e.natAbs)⁻¹ := by
  rw [← zpow_natCast, ← zpow_neg]
  congr 1
  omega

theorem magnitude_spec (x : Binary64) :
    0 < x.magnitude.2 ∧ (x.magnitude.1 : ℚ) / x.magnitude.2 = x.absolute := by
  unfold magnitude absolute
  split
  next negative =>
    refine ⟨by rw [Nat.shiftLeft_eq]; positivity, ?_⟩
    rw [Nat.shiftLeft_eq, Nat.one_mul, zpow_of_neg 2 negative, div_eq_mul_inv]
    push_cast
    rfl
  next notNegative =>
    refine ⟨Nat.one_pos, ?_⟩
    rw [Nat.shiftLeft_eq, zpow_of_nonneg 2 (not_lt.mp notNegative)]
    push_cast
    exact div_one _

theorem value_of_not_negative {x : Binary64} (notNegative : x.negative = false) :
    x.value = x.absolute := by
  rw [value, notNegative, if_neg Bool.false_ne_true]

theorem value_nonpos {x : Binary64} (negative : x.negative = true) : x.value ≤ 0 := by
  rw [value, if_pos negative]
  exact neg_nonpos.mpr x.absolute_nonneg

section Fractions

variable {num den : Nat}

/-- A quotient is its whole part and what is left of the divisor. -/
theorem div_split (num : Nat) (positive : 0 < den) :
    (num : ℚ) / den = (num / den : Nat) + ((num % den : Nat) : ℚ) / den := by
  have nonzero : (den : ℚ) ≠ 0 := Nat.cast_ne_zero.mpr positive.ne'
  have split : (num : ℚ) = den * (num / den : Nat) + (num % den : Nat) := by
    exact_mod_cast (Nat.div_add_mod num den).symm
  rw [div_eq_iff nonzero, add_mul, div_mul_cancel₀ _ nonzero, mul_comm _ (den : ℚ)]
  exact split

theorem abs_nearestQuotient_sub_le (num : Nat) (positive : 0 < den) :
    |(nearestQuotient num den : ℚ) - num / den| ≤ 1 / 2 := by
  have bound : (0 : ℚ) < den := Nat.cast_pos.mpr positive
  have below (less : 2 * (num % den) ≤ den) : ((num % den : Nat) : ℚ) / den ≤ 1 / 2 := by
    have twice : 2 * ((num % den : Nat) : ℚ) ≤ den := by exact_mod_cast less
    rw [div_le_iff₀ bound]
    linarith
  have above (more : den ≤ 2 * (num % den)) : 1 / 2 ≤ ((num % den : Nat) : ℚ) / den := by
    have twice : (den : ℚ) ≤ 2 * ((num % den : Nat) : ℚ) := by exact_mod_cast more
    rw [le_div_iff₀ bound]
    linarith
  have left : 0 ≤ ((num % den : Nat) : ℚ) / den := by positivity
  have whole : ((num % den : Nat) : ℚ) / den ≤ 1 := by
    rw [div_le_one bound]
    exact_mod_cast (Nat.mod_lt num positive).le
  rw [div_split num positive, abs_le]
  unfold nearestQuotient
  dsimp only
  split
  next less =>
    have := below less.le
    constructor <;> linarith
  next notLess =>
    split
    next more =>
      have := above more.le
      push_cast
      constructor <;> linarith
    next notMore =>
      -- The remainder is half the divisor.
      have := below (Nat.le_of_not_lt notMore)
      have := above (Nat.le_of_not_lt notLess)
      rcases Nat.mod_two_eq_zero_or_one (num / den) with even | odd
      · rw [even, Nat.add_zero]
        constructor <;> linarith
      · rw [odd]
        push_cast
        constructor <;> linarith

/-- Another natural is at least half a unit away. -/
theorem nearestQuotient_nearest (num : Nat) (positive : 0 < den) (k : Nat) :
    |(nearestQuotient num den : ℚ) - num / den| ≤ |(k : ℚ) - num / den| := by
  have half := abs_nearestQuotient_sub_le num positive
  by_cases same : k = nearestQuotient num den
  · rw [same]
  · have apart : (1 : ℚ) ≤ |(k : ℚ) - nearestQuotient num den| := by
      have different : (k : Int) - nearestQuotient num den ≠ 0 := by omega
      exact_mod_cast Int.one_le_abs different
    have through := abs_sub_le (k : ℚ) (num / den) (nearestQuotient num den)
    rw [abs_sub_comm (num / den : ℚ)] at through
    linarith

/-- A shifted fraction is the fraction in units of the given power of two. -/
theorem shiftedFraction_spec (num : Nat) (positive : 0 < den) (e : Int) :
    0 < (shiftedFraction num den e).2 ∧
      ((shiftedFraction num den e).1 : ℚ) / (shiftedFraction num den e).2 = num / den / 2 ^ e := by
  unfold shiftedFraction
  split
  next negative =>
    refine ⟨positive, ?_⟩
    rw [Nat.shiftLeft_eq, zpow_of_neg 2 negative, div_inv_eq_mul]
    push_cast
    ring
  next notNegative =>
    refine ⟨by rw [Nat.shiftLeft_eq]; positivity, ?_⟩
    rw [Nat.shiftLeft_eq, zpow_of_nonneg 2 (not_lt.mp notNegative), div_div]
    push_cast
    rfl

/-- The logarithms are off by one at most. -/
theorem two_zpow_le_div (numPositive : 0 < num) (denPositive : 0 < den) :
    (2 : ℚ) ^ ((num.log2 : Int) - den.log2 - 1) ≤ num / den := by
  have numLow : (2 : ℚ) ^ num.log2 ≤ num := by exact_mod_cast Nat.log2_self_le numPositive.ne'
  have denHigh : (den : ℚ) ≤ 2 ^ (den.log2 + 1) := by
    exact_mod_cast (Nat.lt_log2_self (n := den)).le
  have bound : (0 : ℚ) < den := Nat.cast_pos.mpr denPositive
  have split : ((num.log2 : Int) - den.log2 - 1) = num.log2 - (den.log2 + 1 : Nat) := by
    push_cast
    ring
  rw [split, zpow_sub₀ two_ne_zero, zpow_natCast, zpow_natCast]
  exact div_le_div₀ (by positivity) numLow bound denHigh

/-- The last bit is that of the least exponent, or there are 52 bits in front of it. -/
theorem lastBitExponent_spec (numPositive : 0 < num) (denPositive : 0 < den) :
    leastExponent ≤ lastBitExponent num den ∧
      (lastBitExponent num den = leastExponent ∨
        2 ^ (lastBitExponent num den + 52) ≤ (num : ℚ) / den) := by
  refine ⟨le_max_right _ _, ?_⟩
  unfold lastBitExponent
  dsimp only
  generalize guessed : (num.log2 : Int) - den.log2 - 52 = guess
  obtain ⟨positive, shifted⟩ := shiftedFraction_spec num denPositive guess
  generalize shiftedFraction num den guess = fraction at positive shifted
  rcases max_choice (if fraction.1 / fraction.2 < leadingBit then guess - 1 else guess)
    leastExponent with isFound | isLeast
  · right
    rw [isFound]
    split
    · have size : guess - 1 + 52 = (num.log2 : Int) - den.log2 - 1 := by omega
      rw [size]
      exact two_zpow_le_div numPositive denPositive
    next enough =>
      have bits : (leadingBit : ℚ) ≤ num / den / 2 ^ guess := by
        rw [← shifted]
        have quotient : (leadingBit : ℚ) ≤ (fraction.1 / fraction.2 : Nat) := by
          exact_mod_cast Nat.le_of_not_lt enough
        refine quotient.trans ?_
        rw [div_split fraction.1 positive]
        exact le_add_of_nonneg_right (by positivity)
      rw [le_div_iff₀ (by positivity)] at bits
      rw [zpow_add₀ two_ne_zero, mul_comm]
      exact_mod_cast bits
  · exact .inl isLeast

end Fractions

section Nearest

variable {num den : Nat}

theorem negative_nearest (negative : Bool) (num den : Nat) :
    (nearest negative num den).negative = negative := by
  unfold nearest
  split
  · rfl
  · dsimp only
    split <;> rfl

/-- Where a 54th bit comes up, the number is the same with an exponent that is one greater. -/
theorem absolute_nearest (negative : Bool) (positive : 0 < num) :
    (nearest negative num den).absolute =
      (nearestQuotient (shiftedFraction num den (lastBitExponent num den)).1
        (shiftedFraction num den (lastBitExponent num den)).2 : ℚ) *
      2 ^ lastBitExponent num den := by
  unfold nearest
  rw [if_neg positive.ne']
  dsimp only
  split
  next carried =>
    have twice : (leadingBit : ℚ) * 2 = mantissaBound := by
      exact_mod_cast (rfl : leadingBit * 2 = mantissaBound)
    rw [carried, absolute, zpow_add_one₀ two_ne_zero, ← twice]
    ring
  · rfl

theorem absolute_nearest_zero (negative : Bool) (den : Nat) :
    (nearest negative 0 den).absolute = 0 := by
  simp [nearest, absolute]

/-- On a grid the distance is measured in its units. -/
theorem abs_mul_zpow_sub (x q : ℚ) (e : Int) :
    |x * 2 ^ e - q| = |x - q / 2 ^ e| * 2 ^ e := by
  have unit : (0 : ℚ) < 2 ^ e := by positivity
  rw [← abs_of_pos unit, ← abs_mul, abs_of_pos unit, sub_mul, div_mul_cancel₀ _ unit.ne']

/-- No number of 53 bits is nearer. -/
theorem nearest_spec (negative : Bool) (num : Nat) (positive : 0 < den) {y : ℚ}
    (representable : Representable y) :
    |(nearest negative num den).absolute - num / den| ≤ |y - num / den| := by
  rcases Nat.eq_zero_or_pos num with rfl | numPositive
  · simp [absolute_nearest_zero]
  obtain ⟨least, bits⟩ := lastBitExponent_spec numPositive positive
  rw [absolute_nearest negative numPositive]
  generalize lastBitExponent num den = e at least bits
  obtain ⟨shiftedPositive, shifted⟩ := shiftedFraction_spec num positive e
  generalize shiftedFraction num den e = fraction at shiftedPositive shifted
  have onGrid (k : Nat) : |(nearestQuotient fraction.1 fraction.2 : ℚ) * 2 ^ e - num / den| ≤
      |(k : ℚ) * 2 ^ e - num / den| := by
    rw [abs_mul_zpow_sub, abs_mul_zpow_sub, ← shifted]
    exact mul_le_mul_of_nonneg_right (nearestQuotient_nearest _ shiftedPositive k) (by positivity)
  obtain ⟨m, k, small, leastK, rfl⟩ := representable
  by_cases coarse : e ≤ k
  · -- A number whose last bit is no smaller is on the grid.
    have grid : (m : ℚ) * 2 ^ k = (m * 2 ^ (k - e).toNat : Nat) * 2 ^ e := by
      push_cast
      rw [mul_assoc, ← zpow_natCast, ← zpow_add₀ two_ne_zero]
      congr 2
      omega
    rw [grid]
    exact onGrid _
  · -- Any other is below the least number of 53 bits on the grid, and this is not too great.
    have bits := bits.resolve_left (by omega)
    have lead : ((2 ^ 52 : Nat) : ℚ) * 2 ^ e = 2 ^ (e + 52) := by
      rw [zpow_add₀ two_ne_zero, mul_comm]
      norm_num
    have below : (m : ℚ) * 2 ^ k ≤ 2 ^ (e + 52) := by
      have bound : (m : ℚ) ≤ 2 ^ (53 : Int) := by exact_mod_cast small.le
      calc (m : ℚ) * 2 ^ k ≤ 2 ^ (53 : Int) * 2 ^ k := by gcongr
        _ = 2 ^ (53 + k) := (zpow_add₀ two_ne_zero _ _).symm
        _ ≤ 2 ^ (e + 52) := zpow_le_zpow_right₀ one_le_two (by omega)
    refine (onGrid (2 ^ 52)).trans ?_
    rw [lead, abs_of_nonpos (by linarith), abs_of_nonpos (by linarith)]
    linarith

/-- A quotient of 53 bits is not changed. -/
theorem absolute_nearest_of_representable (negative : Bool) (positive : 0 < den)
    (representable : Representable (num / den)) :
    (nearest negative num den).absolute = num / den := by
  have off := nearest_spec negative num positive representable
  rw [sub_self, abs_zero] at off
  exact sub_eq_zero.mp (abs_eq_zero.mp (le_antisymm off (abs_nonneg _)))

/-- Rounding does not lead below a number of 53 bits. -/
theorem le_absolute_nearest (negative : Bool) (positive : 0 < den) {y : ℚ}
    (representable : Representable y) (below : y ≤ num / den) :
    y ≤ (nearest negative num den).absolute := by
  have off := nearest_spec negative num positive representable
  rw [abs_of_nonpos (sub_nonpos.mpr below)] at off
  have low := (abs_le.mp off).1
  linarith

end Nearest

end CollectionTypes.Binary64
