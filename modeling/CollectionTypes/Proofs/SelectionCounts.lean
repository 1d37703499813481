import CollectionTypes.Proofs.ExactScaling
import CollectionTypes.Schema.Entry
import Mathlib.Algebra.Order.Floor.Div
import Mathlib.Data.Rat.Floor

/-!
# Selection counts

A limit is counted by the rational number that it stands for, whatever its mantissa and exponent
are: rounded up, kept within 32 bits, and zero below one. So a greater limit never counts less, and
an integer counts as itself as far as 32 bits go, even one that has too many bits for a binary64
number.

Specification: section 4.0 (`maxSelect` rounds up to a whole count).
-/

namespace CollectionTypes

open Binary64

theorem ceil_div (num : Nat) {den : Nat} (positive : 0 < den) :
    ⌈(num : ℚ) / den⌉₊ = (num + den - 1) / den := by
  have bound : (0 : ℚ) < den := Nat.cast_pos.mpr positive
  refine eq_of_forall_ge_iff fun n => ?_
  rw [← Nat.ceilDiv_eq_add_pred_div, ceilDiv_le_iff_le_mul positive, Nat.ceil_le,
    div_le_iff₀ bound, mul_comm]
  exact_mod_cast Iff.rfl

/-- What a limit counts as, told from the number that it stands for. -/
theorem toNat_selectionCount (x : Binary64) :
    (selectionCount x).toNat = if x.value < 1 then 0 else min ⌈x.value⌉₊ greatestLimit := by
  obtain ⟨positive, quotient⟩ := magnitude_spec x
  rw [selectionCount]
  cases sign : x.negative with
  | true =>
    have below : x.value < 1 := (value_nonpos sign).trans_lt one_pos
    rw [if_pos below]
    rfl
  | false =>
    have bound : (0 : ℚ) < x.magnitude.2 := Nat.cast_pos.mpr positive
    have fits : min ((x.magnitude.1 + x.magnitude.2 - 1) / x.magnitude.2) greatestLimit < 2 ^ 32 :=
      Nat.lt_succ_of_le (Nat.min_le_right _ _)
    rw [value_of_not_negative sign, ← quotient, ceil_div _ positive]
    simp only [div_lt_one bound, Nat.cast_lt, Bool.false_or, decide_eq_true_eq]
    split
    · rfl
    · exact UInt32.toNat_ofNat_of_lt' fits

/-- What a limit counts as depends on nothing but the number. -/
theorem selectionCount_congr {x y : Binary64} (same : x.value = y.value) :
    selectionCount x = selectionCount y := by
  rw [← UInt32.toNat_inj, toNat_selectionCount, toNat_selectionCount, same]

theorem selectionCount_mono {x y : Binary64} (le : x.value ≤ y.value) :
    (selectionCount x).toNat ≤ (selectionCount y).toNat := by
  rw [toNat_selectionCount, toNat_selectionCount]
  split
  · exact Nat.zero_le _
  next notBelow =>
    have notBelow' : ¬y.value < 1 := fun below => notBelow (le.trans_lt below)
    rw [if_neg notBelow']
    exact min_le_min_right greatestLimit (Nat.ceil_mono le)

theorem allowsMany_selectionCount (x : Binary64) :
    SelectionLimit.allowsMany (some (selectionCount x)) = true ↔ 1 < x.value := by
  have count : SelectionLimit.allowsMany (some (selectionCount x)) = true ↔
      1 < (selectionCount x).toNat := by
    rw [SelectionLimit.allowsMany, Option.any_some, decide_eq_true_eq, UInt32.lt_iff_toNat_lt]
    rfl
  rw [count, toNat_selectionCount]
  split
  next below => simpa using below.le
  · have many : 1 < greatestLimit := by decide
    rw [lt_min_iff, Nat.lt_ceil, Nat.cast_one]
    exact and_iff_left many

theorem isExactlyOne_selectionCount (x : Binary64) :
    SelectionLimit.isExactlyOne (some (selectionCount x)) = true ↔ x.value = 1 := by
  have count : SelectionLimit.isExactlyOne (some (selectionCount x)) = true ↔
      (selectionCount x).toNat = 1 := by
    rw [SelectionLimit.isExactlyOne, beq_iff_eq, Option.some.injEq, ← UInt32.toNat_inj]
    rfl
  rw [count, toNat_selectionCount]
  split
  next below => simpa using below.ne
  next notBelow =>
    have least : 1 ≤ ⌈x.value⌉₊ := Nat.one_le_ceil_iff.mpr (one_pos.trans_le (not_lt.mp notBelow))
    have many : 1 < greatestLimit := by decide
    constructor
    · intro one
      have notMany : ¬1 < ⌈x.value⌉₊ := by omega
      rw [Nat.lt_ceil, Nat.cast_one] at notMany
      exact le_antisymm (not_lt.mp notMany) (not_lt.mp notBelow)
    · intro one
      rw [one, Nat.ceil_one]
      rfl

/-- A number that stands for a natural counts as it. -/
theorem toNat_selectionCount_natural {x : Binary64} {n : Nat} (isNatural : x.value = n) :
    (selectionCount x).toNat = min n greatestLimit := by
  rw [toNat_selectionCount, isNatural, Nat.ceil_natCast]
  rcases Nat.eq_zero_or_pos n with rfl | positive
  · rfl
  · have notBelow : ¬(n : ℚ) < 1 := not_lt.mpr (by exact_mod_cast positive)
    rw [if_neg notBelow]

/-- An integer counts as itself, kept within 32 bits. Those that rounding changes are beyond. -/
theorem toNat_selectionCount_integer (n : Int) :
    ((selectionCount (Json.Number.integer n).toBinary64).toNat : Int) =
      max 0 (min n greatestLimit) := by
  rcases lt_or_ge n 0 with negative | notNegative
  · have sign : (Json.Number.integer n).toBinary64.negative = true := by
      rw [Json.Number.toBinary64, negative_nearest]
      exact decide_eq_true negative
    rw [toNat_selectionCount, if_pos ((value_nonpos sign).trans_lt one_pos)]
    omega
  · obtain ⟨n, rfl⟩ := Int.eq_ofNat_of_zero_le notNegative
    rcases Nat.lt_or_ge n mantissaBound with small | great
    · have kept := Json.Number.value_integer_of_lt (n := n) small
      rw [toNat_selectionCount_natural (kept.trans (Int.cast_natCast n))]
      omega
    · have beyond : ((2 ^ 53 : Nat) : ℚ) ≤ (Json.Number.integer n).toBinary64.value := by
        rw [Json.Number.value_integer]
        refine le_absolute_nearest false Nat.one_pos ?_ ?_
        · exact_mod_cast representable_two_pow 53
        · rw [Nat.cast_one, div_one]
          exact_mod_cast great
      have ceil : 2 ^ 53 ≤ ⌈(Json.Number.integer n).toBinary64.value⌉₊ := by
        rw [← Nat.ceil_natCast (R := ℚ) (2 ^ 53)]
        exact Nat.ceil_mono beyond
      have notBelow : ¬(Json.Number.integer n).toBinary64.value < 1 :=
        not_lt.mpr (le_trans (by norm_num) beyond)
      rw [toNat_selectionCount, if_neg notBelow]
      simp only [greatestLimit, mantissaBound] at *
      omega

/-- A limit that is written as a whole number is kept. -/
theorem selectionCount_integer (limit : UInt32) :
    selectionCount (Json.Number.integer limit.toNat).toBinary64 = limit := by
  have fits : limit.toNat ≤ greatestLimit := Nat.le_of_lt_succ limit.toNat_lt
  have count := toNat_selectionCount_integer limit.toNat
  rw [← UInt32.toNat_inj]
  omega

end CollectionTypes
