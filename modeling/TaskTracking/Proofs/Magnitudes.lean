import Mathlib.Algebra.Order.Field.Basic
import Mathlib.Data.Rat.Cast.Order
import Mathlib.Order.Monotone.Basic
import Mathlib.Tactic.NormNum
import TaskTracking.Proofs.Finiteness
import TaskTracking.Proofs.Progress

/-! # The number a float stands for

  Floats are compared by their bits, as integers. What is shown here is that
  this is the order of the rational numbers they stand for:

  - A larger magnitude has a larger numerator (`Binary64.numerator_le_iff`).
  - Of two finite floats the lesser stands for the lesser number
    (`Binary64.le_iff_value`), so a clamped float stands for the clamped number
    (`Binary64.value_clamp`).
-/

namespace TaskTracking.Binary64

/-! ### Magnitudes and numerators -/

/-- The last place of a float counts the steps of `2 ^ 52` from the smallest one. -/
theorem magnitude_eq (x : Binary64) :
    x.magnitude = x.significand + (x.scale - 1) * 4503599627370496 := by
  have hshift : x.magnitude >>> 52 = x.magnitude / 4503599627370496 := Nat.shiftRight_eq_div_pow _ _
  have hone : (1 <<< 52 : Nat) = 4503599627370496 := rfl
  unfold significand scale
  rw [hshift, hone]
  split
  · omega
  · omega

theorem significand_lt (x : Binary64) : x.significand < 2 * 4503599627370496 := by
  have hone : (1 <<< 52 : Nat) = 4503599627370496 := rfl
  unfold significand
  rw [hone]
  split
  · omega
  · omega

/-- Above the smallest scale the leading bit is one. -/
theorem le_significand {x : Binary64} (h : 1 < x.scale) : 4503599627370496 ≤ x.significand := by
  have hshift : x.magnitude >>> 52 = x.magnitude / 4503599627370496 := Nat.shiftRight_eq_div_pow _ _
  have hone : (1 <<< 52 : Nat) = 4503599627370496 := rfl
  unfold scale at h
  unfold significand
  rw [hone]
  split
  · omega
  · omega

theorem numerator_eq (x : Binary64) : x.numerator = x.significand * 2 ^ x.scale :=
  Nat.shiftLeft_eq _ _

theorem numerator_lt_numerator {x y : Binary64} (h : x.magnitude < y.magnitude) :
    x.numerator < y.numerator := by
  have hx := magnitude_eq x
  have hy := magnitude_eq y
  have hbound := significand_lt x
  have hx_scale : 1 ≤ x.scale := Nat.le_max_left _ _
  rw [numerator_eq, numerator_eq]
  by_cases hscale : x.scale < y.scale
  · -- The leading bit of the one outweighs every significand at a lower scale.
    have hlead : 4503599627370496 ≤ y.significand := le_significand (by omega)
    calc x.significand * 2 ^ x.scale
        < 2 * 4503599627370496 * 2 ^ x.scale := mul_two_pow_lt _ hbound
      _ = 4503599627370496 * 2 ^ (x.scale + 1) := by
        rw [Nat.pow_succ, Nat.mul_comm (2 ^ x.scale), Nat.mul_comm 2, Nat.mul_assoc]
      _ ≤ 4503599627370496 * 2 ^ y.scale :=
        Nat.mul_le_mul_left _ (Nat.pow_le_pow_right (by decide) hscale)
      _ ≤ y.significand * 2 ^ y.scale := Nat.mul_le_mul_right _ hlead
  · have hbound' := significand_lt y
    have hsame : y.scale = x.scale := by
      by_contra hne
      have hy_scale : 1 ≤ y.scale := Nat.le_max_left _ _
      have hlead : 4503599627370496 ≤ x.significand := le_significand (by omega)
      omega
    rw [hsame] at hy ⊢
    exact mul_two_pow_lt _ (by omega)

theorem numerator_eq_of_magnitude {x y : Binary64} (h : x.magnitude = y.magnitude) :
    x.numerator = y.numerator := by
  unfold numerator significand scale
  rw [h]

theorem numerator_le_iff {x y : Binary64} :
    x.numerator ≤ y.numerator ↔ x.magnitude ≤ y.magnitude := by
  constructor
  · intro hle
    by_contra hlt
    have := numerator_lt_numerator (Nat.lt_of_not_le hlt)
    omega
  · intro hle
    rcases Nat.lt_or_eq_of_le hle with hlt | heq
    · exact Nat.le_of_lt (numerator_lt_numerator hlt)
    · exact Nat.le_of_eq (numerator_eq_of_magnitude heq)

theorem numerator_eq_zero {x : Binary64} : x.numerator = 0 ↔ x.magnitude = 0 := by
  have hzero : zero.numerator = 0 := by decide
  have hle := numerator_le_iff (x := x) (y := zero)
  have hmagnitude : zero.magnitude = 0 := rfl
  omega

/-! ### Values -/

/-- The numerator with its sign. -/
def signed (x : Binary64) : Int := if x.negative then -(x.numerator : Int) else x.numerator

/-- The number that a finite float stands for. -/
def value (x : Binary64) : ℚ := x.signed / unit

theorem signed_le_iff {x y : Binary64} : x.signed ≤ y.signed ↔ x.order ≤ y.order := by
  have hle := numerator_le_iff (x := x) (y := y)
  have hge := numerator_le_iff (x := y) (y := x)
  have hx := numerator_eq_zero (x := x)
  have hy := numerator_eq_zero (x := y)
  unfold signed order
  cases x.negative <;> cases y.negative <;> simp only [if_true, if_false, Bool.false_eq_true] <;>
    omega

theorem unit_pos : (0 : ℚ) < unit := by
  rw [Nat.cast_pos]
  decide +kernel

theorem value_le_value {x y : Binary64} : x.value ≤ y.value ↔ x.order ≤ y.order := by
  unfold value
  rw [div_le_div_iff_of_pos_right unit_pos, Int.cast_le, signed_le_iff]

@[simp]
theorem value_zero : zero.value = 0 := by
  have hsigned : zero.signed = 0 := by decide
  simp [value, hsigned]

@[simp]
theorem value_hundred : hundred.value = 100 := by
  have hsigned : hundred.signed = 100 * (unit : Int) := by decide +kernel
  unfold value
  rw [hsigned]
  push_cast
  exact mul_div_cancel_right₀ 100 unit_pos.ne'

theorem isNaN_of_isFinite {x : Binary64} (h : x.isFinite = true) : x.isNaN = false := by
  simp only [isFinite, decide_eq_true_eq] at h
  simp only [isNaN, decide_eq_false_iff_not]
  omega

/-- Of two finite floats the lesser stands for the lesser number. -/
theorem le_iff_value {x y : Binary64} (hx : x.isFinite = true) (hy : y.isFinite = true) :
    x.le y = true ↔ x.value ≤ y.value := by
  simp [le_iff, value_le_value, isNaN_of_isFinite hx, isNaN_of_isFinite hy]

theorem lt_iff_value {x y : Binary64} (hx : x.isFinite = true) (hy : y.isFinite = true) :
    x.lt y = true ↔ x.value < y.value := by
  rw [← not_le, value_le_value, not_le]
  simp [lt, isNaN_of_isFinite hx, isNaN_of_isFinite hy]

theorem isFinite_of_isPercentage {x : Binary64} (h : x.IsPercentage) : x.isFinite = true := by
  have hlow := (le_iff.mp h.1).2.2
  have hhigh := (le_iff.mp h.2).2.2
  have hzero : zero.order = 0 := rfl
  have hhundred : hundred.order < infinite := by decide
  have horder : x.order = x.magnitude ∨ x.order = -(x.magnitude : Int) := by
    unfold order
    cases x.negative <;> simp
  simp only [isFinite, decide_eq_true_eq]
  omega

theorem value_of_isPercentage {x : Binary64} (h : x.IsPercentage) :
    0 ≤ x.value ∧ x.value ≤ 100 := by
  rw [← value_zero, ← value_hundred, value_le_value, value_le_value]
  exact ⟨(le_iff.mp h.1).2.2, (le_iff.mp h.2).2.2⟩

/-- A finite float is clamped as the number it stands for. -/
theorem value_clamp {x : Binary64} (h : x.isFinite = true) :
    (x.clamp zero hundred).value = max 0 (min 100 x.value) := by
  have hzero : zero.isFinite = true := by decide
  have hhundred : hundred.isFinite = true := by decide
  unfold clamp
  by_cases hlow : x.lt zero = true
  · have hneg : x.value < 0 := by simpa using (lt_iff_value h hzero).mp hlow
    have hmin : min 100 x.value ≤ 0 := (min_le_right _ _).trans hneg.le
    simp [hlow, max_eq_left hmin]
  · have hnonneg : 0 ≤ x.value := by simpa using mt (lt_iff_value h hzero).mpr hlow
    by_cases hhigh : hundred.lt x = true
    · have hlarge : 100 < x.value := by simpa using (lt_iff_value hhundred h).mp hhigh
      simp [hlow, hhigh, min_eq_left hlarge.le]
    · have hle : x.value ≤ 100 := by simpa using mt (lt_iff_value hhundred h).mpr hhigh
      simp [hlow, hhigh, min_eq_right hle, max_eq_right hnonneg]

end TaskTracking.Binary64
