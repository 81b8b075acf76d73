import Mathlib
import ShardedSql.Proofs.KeyNumber
import ShardedSql.Proofs.ValueOrder

/-!
The number a decimal denotes. Main statements: decimals compare as the numbers they denote, and
their sum denotes the sum.
-/

namespace ShardedSql

open Numeric

theorem powerMultiple_eq (base : Nat) (count exponent : Int) :
    powerMultiple base count exponent = count * (base : ℚ) ^ exponent := by
  unfold powerMultiple powerRatio
  by_cases up : 0 ≤ exponent
  · obtain ⟨k, rfl⟩ := Int.eq_ofNat_of_zero_le up
    simp [up, Rat.mkRat_eq_div]
  · obtain ⟨k, hk⟩ := Int.eq_ofNat_of_zero_le (show 0 ≤ -exponent by omega)
    obtain rfl : exponent = -(k : Int) := by omega
    simp only [up, ↓reduceIte, Rat.mkRat_eq_div, neg_neg, Int.toNat_natCast, zpow_neg,
      zpow_natCast]
    push_cast
    rw [mul_one, div_eq_mul_inv]

namespace Numeric.Decimal

variable {x y : Decimal} {scale : Int}

theorem number_eq (x : Decimal) : x.number = x.digits * (10 : ℚ) ^ (-x.scale) := by
  simpa [number] using powerMultiple_eq 10 x.digits (-x.scale)

@[simp]
theorem number_ofInt (n : Int) : (ofInt n).number = n := by
  simp [number_eq, ofInt]

/-- A number is made of its digits at any scale that is fine enough. -/
theorem number_eq_digitsAt (le : x.scale ≤ scale) :
    x.number = x.digitsAt scale * (10 : ℚ) ^ (-scale) := by
  rw [number_eq, digitsAt]
  by_cases zero : x.digits = 0
  · simp [zero]
  · obtain ⟨k, hk⟩ := Int.eq_ofNat_of_zero_le (show 0 ≤ scale - x.scale by omega)
    obtain rfl : scale = x.scale + k := by omega
    have ten : (10 : ℚ) ≠ 0 := by norm_num
    simp only [zero, ↓reduceIte, add_sub_cancel_left, Int.toNat_natCast, Int.cast_mul,
      Int.cast_pow, Int.cast_ofNat, neg_add, zpow_add₀ ten, zpow_neg, zpow_natCast]
    field_simp

/-- Decimals compare as the numbers they denote. -/
theorem order_eq_number (x y : Decimal) : x.order y = compare x.number y.number := by
  have x_le : x.scale ≤ max x.scale y.scale := Int.le_max_left ..
  have y_le : y.scale ≤ max x.scale y.scale := Int.le_max_right ..
  have unit : (0 : ℚ) < 10 ^ (-(max x.scale y.scale)) := by positivity
  rw [order_eq_compare x_le y_le, number_eq_digitsAt x_le, number_eq_digitsAt y_le]
  rcases lt_trichotomy (x.digitsAt (max x.scale y.scale)) (y.digitsAt (max x.scale y.scale))
    with less | same | more
  · rw [compare_lt_iff_lt.mpr less, compare_lt_iff_lt.mpr]
    exact mul_lt_mul_of_pos_right (Int.cast_lt.mpr less) unit
  · rw [same, compare_eq_iff_eq.mpr rfl, compare_eq_iff_eq.mpr rfl]
  · rw [compare_gt_iff_gt.mpr more, compare_gt_iff_gt.mpr]
    exact mul_lt_mul_of_pos_right (Int.cast_lt.mpr more) unit

/-- The sum of two decimals denotes the sum of their numbers. -/
theorem number_add (x y : Decimal) : (x.add y).number = x.number + y.number := by
  have x_le : x.scale ≤ max x.scale y.scale := Int.le_max_left ..
  have y_le : y.scale ≤ max x.scale y.scale := Int.le_max_right ..
  unfold add
  by_cases x_zero : x.digits = 0
  · simp [x_zero, number_eq x]
  by_cases y_zero : y.digits = 0
  · simp [x_zero, y_zero, number_eq y]
  · simp only [x_zero, y_zero, ↓reduceIte]
    rw [number_eq, number_eq_digitsAt x_le, number_eq_digitsAt y_le]
    push_cast
    ring

end Numeric.Decimal

end ShardedSql
