import Mathlib.Data.Rat.Floor
import Mathlib.Tactic.Linarith
import Mathlib.Tactic.NormNum
import Mathlib.Tactic.Ring
import PulseBench.Decimal.Dyadic
import PulseBench.Scalar

/-!
# Exact numbers

The rationals are the number type in which no operation rounds. A rule that is
proved for them is the rule that binary floating point follows up to rounding.

Two things are fixed here, because they decide what a bin is:

* rounding to whole numbers sends a half away from zero (`Exact.nearest`);
* counters have no upper end, and no number is undefined or infinite.

Results:
1. `Exact.nearest_error`, `Exact.nearest_neg`: the nearest whole number, with
   halves away from zero on both sides.
2. `Exact.nearest_add`: between two roundings lie the whole numbers next to the
   difference of what was rounded. Bins never drift because of this.
-/

namespace PulseBench

namespace Exact

/-- The nearest whole number; a half goes away from zero. -/
def nearest (x : ℚ) : ℤ := if 0 ≤ x then ⌊x + 1 / 2⌋ else ⌈x - 1 / 2⌉

/-- The whole part, toward zero. -/
def whole (x : ℚ) : ℤ := if 0 ≤ x then ⌊x⌋ else ⌈x⌉

end Exact

instance : Scalar ℚ where
  decLt := inferInstance
  decLe := inferInstance
  ofNat n := n
  ofInt n := n
  abs x := |x|
  isFinite _ := true
  isNaN _ := false
  round x := Exact.nearest x
  toNat x := (Exact.whole x).toNat
  toInt := Exact.whole
  integral? x := if x.den = 1 then some x.num else none
  billionths x := Decimal.nearestEven (x.num.toNat * 1000000000) x.den

/-- Functions without exact values are given by the first terms of their series. Programs made of
levels and constant voltages use none of them. -/
instance : Analytic ℚ :=
  { instScalarRat with
    pi := 355 / 113
    sin := fun x => x - x ^ 3 / 6
    cos := fun x => 1 - x ^ 2 / 2
    sqrt := fun x => Nat.sqrt (x.num.toNat * x.den) / x.den
    exp := fun x => 1 + x + x ^ 2 / 2
    narrow := id }

namespace Exact

theorem zero_literal : (0.0 : ℚ) = 0 := by norm_num

theorem nearest_of_nonneg {x : ℚ} (h : 0 ≤ x) : nearest x = ⌊x + 1 / 2⌋ := if_pos h

theorem nearest_zero : nearest 0 = 0 := by norm_num [nearest]

theorem nearest_nonneg {x : ℚ} (h : 0 ≤ x) : 0 ≤ nearest x := by
  rw [nearest_of_nonneg h]
  exact Int.floor_nonneg.mpr (by linarith)

/-- The nearest whole number is at most a half away. -/
theorem nearest_error (x : ℚ) : |x - nearest x| ≤ 1 / 2 := by
  unfold nearest
  split
  · have low := Int.floor_le (x + 1 / 2)
    have high := Int.lt_floor_add_one (x + 1 / 2)
    rw [abs_le]
    constructor <;> linarith
  · have low := Int.le_ceil (x - 1 / 2)
    have high := Int.ceil_lt_add_one (x - 1 / 2)
    rw [abs_le]
    constructor <;> linarith

/-- Rounding is symmetric, so that a half below zero also goes away from zero. -/
theorem nearest_neg (x : ℚ) : nearest (-x) = -nearest x := by
  unfold nearest
  rcases lt_trichotomy x 0 with below | rfl | above
  · have negated : 0 ≤ -x := by linarith
    rw [if_pos negated, if_neg (not_le.mpr below), ← Int.floor_neg]
    congr 1
    ring
  · norm_num
  · have negated : ¬ 0 ≤ -x := by linarith
    rw [if_neg negated, if_pos above.le, ← Int.ceil_neg]
    congr 1
    ring

/-- Adding a number moves the rounding by the whole number below or above it. -/
theorem nearest_add {x y : ℚ} (hx : 0 ≤ x) (hy : 0 ≤ y) :
    nearest (x + y) - nearest x = ⌊y⌋ ∨ nearest (x + y) - nearest x = ⌈y⌉ := by
  rw [nearest_of_nonneg hx, nearest_of_nonneg (add_nonneg hx hy)]
  have atLeast : ⌊x + 1 / 2⌋ + ⌊y⌋ ≤ ⌊x + y + 1 / 2⌋ := by
    have start := Int.floor_le (x + 1 / 2)
    have step := Int.floor_le y
    rw [Int.le_floor]
    push_cast
    linarith
  have atMost : ⌊x + y + 1 / 2⌋ < ⌊x + 1 / 2⌋ + ⌈y⌉ + 1 := by
    have start := Int.lt_floor_add_one (x + 1 / 2)
    have step := Int.le_ceil y
    rw [Int.floor_lt]
    push_cast
    linarith
  have close := Int.ceil_le_floor_add_one y
  omega

theorem nearest_le_nearest_add {x y : ℚ} (hx : 0 ≤ x) (hy : 0 ≤ y) :
    nearest x ≤ nearest (x + y) := by
  rw [nearest_of_nonneg hx, nearest_of_nonneg (add_nonneg hx hy)]
  exact Int.floor_le_floor (by linarith)

theorem whole_intCast (n : ℤ) : whole n = n := by
  unfold whole
  split <;> simp

/-- The bins of a length that is not negative. -/
theorem toBins_eq {x : ℚ} (h : 0 ≤ x) : (Scalar.toBins x : ℤ) = nearest x := by
  change ((whole (nearest x : ℚ)).toNat : ℤ) = nearest x
  rw [whole_intCast]
  exact Int.toNat_of_nonneg (nearest_nonneg h)

end Exact

end PulseBench
