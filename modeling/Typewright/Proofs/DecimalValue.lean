/-
  The value of a decimal.

  A decimal is a coefficient with its sign, scaled by a power of ten, and so a rational number
  (`toRat`).  On a scale that is not above its exponent the coefficient is a whole number, and the
  value is that number of units of the scale (`toRat_eq_onScale`).  The comparison of decimals is
  the comparison of whole numbers on a common scale, and thereby of values: how many zeros a decimal
  is written with, and which sign a zero has, does not count (`less_iff`).
-/
import Mathlib.Algebra.Order.Field.Rat
import Mathlib.Algebra.Order.Field.Power
import Typewright.Number.Decimal

namespace Typewright.Decimal

/-- The rational number that a decimal is. -/
def toRat (d : Decimal) : ℚ := d.signed * (10 : ℚ) ^ d.exponent

/-- A whole number as a decimal keeps its value. -/
@[simp] theorem toRat_ofInt (n : Int) : (ofInt n).toRat = n := by
  have hsigned : (ofInt n).signed = n := by
    simp only [signed, ofInt, decide_eq_true_eq]
    split <;> omega
  rw [toRat, hsigned, ofInt, zpow_zero, mul_one]

theorem toRat_eq_onScale {d : Decimal} {e : Int} (h : e ≤ d.exponent) :
    d.toRat = d.onScale e * (10 : ℚ) ^ e := by
  have hzeros : ((tenPow (d.exponent - e).toNat : Nat) : ℚ) = (10 : ℚ) ^ (d.exponent - e) := by
    have hcast : (((d.exponent - e).toNat : Nat) : Int) = d.exponent - e :=
      Int.toNat_of_nonneg (Int.sub_nonneg.mpr h)
    rw [tenPow, ← hcast, zpow_natCast]
    norm_cast
  have hsplit : (10 : ℚ) ^ d.exponent = (10 : ℚ) ^ (d.exponent - e) * (10 : ℚ) ^ e := by
    rw [← zpow_add₀ (by norm_num), Int.sub_add_cancel]
  rw [toRat, hsplit, onScale, Int.cast_mul, Int.cast_natCast, hzeros, mul_assoc]

/-- **One decimal is less than another exactly if its value is.** -/
theorem less_iff {a b : Decimal} : a.less b = true ↔ a.toRat < b.toRat := by
  let e := min a.exponent b.exponent
  have hunit : (0 : ℚ) < (10 : ℚ) ^ e := zpow_pos (by norm_num) e
  rw [less_eq_lessOnScale, toRat_eq_onScale (e := e) (min_le_left _ _),
    toRat_eq_onScale (e := e) (min_le_right _ _), mul_lt_mul_iff_left₀ hunit, Int.cast_lt]
  exact decide_eq_true_iff

end Typewright.Decimal
