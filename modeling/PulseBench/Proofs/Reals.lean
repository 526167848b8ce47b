import Mathlib.Analysis.SpecialFunctions.Trigonometric.Basic
import PulseBench.Proofs.Lawful

/-!
# Real numbers

No operation rounds over the rationals either, but they have no square roots. Over the reals error
bars are exact as well, and so are the functions that shapes and kernels need. Nothing is computed
with them: a rule that is proved for the reals is the rule that binary floating point follows up to
rounding.
-/

namespace PulseBench

namespace Reals

noncomputable section

/-- The nearest whole number; a half goes away from zero. -/
def nearest (x : ℝ) : ℤ := if 0 ≤ x then ⌊x + 1 / 2⌋ else ⌈x - 1 / 2⌉

/-- The nearest whole number; a half goes to the even neighbour. -/
def nearestEven (x : ℝ) : ℤ :=
  if Int.fract x < 1 / 2 ∨ (Int.fract x = 1 / 2 ∧ Even ⌊x⌋) then ⌊x⌋ else ⌊x⌋ + 1

/-- The whole part, toward zero. -/
def whole (x : ℝ) : ℤ := if 0 ≤ x then ⌊x⌋ else ⌈x⌉

end

end Reals

noncomputable instance : Scalar ℝ where
  decLt := inferInstance
  decLe := inferInstance
  ofNat n := n
  ofInt n := n
  abs x := |x|
  isFinite _ := true
  isNaN _ := false
  round x := Reals.nearest x
  toNat x := (Reals.whole x).toNat
  toInt := Reals.whole
  integral? x := if (⌊x⌋ : ℝ) = x then some ⌊x⌋ else none
  billionths x := (Reals.nearestEven (x * 1000000000)).toNat

noncomputable instance : Analytic ℝ :=
  { instScalarReal with
    pi := Real.pi
    sin := Real.sin
    cos := Real.cos
    sqrt := Real.sqrt
    exp := Real.exp
    narrow := id }

/-- A whole number of units is that many bins. -/
theorem Reals.toBins_natCast (n : Nat) : Scalar.toBins (n : ℝ) = n := by
  have half : ⌊(n : ℝ) + 1 / 2⌋ = n := by
    rw [Int.floor_natCast_add]
    norm_num
  have rounded : Reals.nearest (n : ℝ) = n := by rw [Reals.nearest, if_pos n.cast_nonneg, half]
  change (Reals.whole (Reals.nearest (n : ℝ) : ℝ)).toNat = n
  rw [rounded, Reals.whole]
  simp

/-- The reals read as themselves. -/
noncomputable def Scalar.Reading.real : Scalar.Reading ℝ ℝ where
  value := id
  zero := by norm_num
  neg _ := rfl
  add _ _ := rfl
  mul _ _ := rfl
  div _ _ := rfl

end PulseBench
