import Mathlib.Data.Prod.Lex
import PulseBench.Proofs.Exact
import PulseBench.Pulser.Limits
import PulseBench.Scalar.Double

/-!
# Comparisons with limits

A request is held against limits by two comparisons, `least ≤ x` and `x ≤ greatest`. For a
number that is undefined both are false, and that is how such a number is refused. A
device in memory uses the strict comparisons instead, to move a number between its limits.
What the two have to do with each other is `Scalar.Comparable`: it holds of exact numbers,
and of binary floating point with its undefined numbers, its infinities and its two zeros.

Results:
1. `Double.compare_swap`: comparing two doubles the other way round gives the other order.
2. `Double.isLE_compare_iff`: the order of doubles is that of their ranks, undefined numbers
   apart. So it is transitive.
3. `Range.allows_of_not_excludes`, `Range.clamped_of_not_excludes`: a number that is not
   excluded is allowed, and stays as it is.
-/

namespace PulseBench

/-- Nothing is at most an undefined number, and no number is both at least and below another. -/
class Scalar.Comparable (α : Type) [Scalar α] : Prop where
  not_le_undefined : ∀ x y : α, Scalar.isNaN y = true → ¬ x ≤ y
  not_lt_of_le : ∀ x y : α, x ≤ y → ¬ y < x

/-! ## 1. Number types -/

instance : Scalar.Comparable ℚ where
  not_le_undefined _ _ undefined := Bool.noConfusion undefined
  not_lt_of_le _ _ := not_lt.mpr

namespace Double

open Float.Model (UnpackedFloat)

/-- Undefined numbers have no order either way. -/
theorem compare_swap (a b : UnpackedFloat) : b.compare a = (a.compare b).map Ordering.swap := by
  have signs (s t : UnpackedFloat.Sign) : compare t s = (compare s t).swap := by
    cases s <;> cases t <;> rfl
  -- Among numbers of one sign the exponents decide, and then the mantissas.
  have sizes (m n : Nat) (d e : Int) :
      (compare e d).then (compare n m) = ((compare d e).then (compare m n)).swap := by
    rw [Ordering.swap_then, ← Std.OrientedCmp.eq_swap, ← Std.OrientedCmp.eq_swap]
  cases a with
  | notANumber => cases b <;> rfl
  | infinity s =>
    cases b with
    | infinity t => exact congrArg some (signs s t)
    | _ => cases s <;> rfl
  | zero s =>
    cases b with
    | infinity t => cases t <;> rfl
    | finite t => cases t <;> rfl
    | _ => rfl
  | finite s m d =>
    cases b with
    | finite t n e =>
      cases s with
      | negative =>
        cases t with
        | negative => exact congrArg (fun order => some (Ordering.swap order)) (sizes m n d e)
        | positive => rfl
      | positive =>
        cases t with
        | negative => rfl
        | positive => exact congrArg some (sizes m n d e)
    | infinity t => cases s <;> cases t <;> rfl
    | _ => cases s <;> rfl

theorem compare_notANumber (a : UnpackedFloat) : a.compare .notANumber = none := by
  cases a with
  | infinity s => cases s <;> rfl
  | finite s => cases s <;> rfl
  | _ => rfl

theorem le_iff (x y : Float) :
    x ≤ y ↔ (x.toModel.unpack.compare y.toModel.unpack).any (·.isLE) = true := by
  change x.le y = true ↔ _
  rw [Float.le, decide_eq_true_iff]
  rfl

theorem lt_iff (x y : Float) :
    x < y ↔ x.toModel.unpack.compare y.toModel.unpack = some .lt := by
  change x.lt y = true ↔ _
  rw [Float.lt, decide_eq_true_iff]
  exact beq_iff_eq

end Double

instance : Scalar.Comparable Float where
  not_le_undefined x y undefined := by
    have noNumber : y.toModel.unpack = .notANumber := by
      change y.toModel.unpack.isNaN = true at undefined
      cases unpacked : y.toModel.unpack <;> rw [unpacked] at undefined <;>
        first | rfl | cases undefined
    rw [Double.le_iff, noNumber, Double.compare_notANumber]
    exact Bool.false_ne_true
  not_lt_of_le x y atMost below := by
    rw [Double.lt_iff] at below
    rw [Double.le_iff, Double.compare_swap, below] at atMost
    cases atMost

/-! ## 2. The order of doubles -/

namespace Double

open Float.Model (UnpackedFloat)

/-- Where a defined number lies: by its sign and kind, then by exponent and mantissa. -/
def rank? : UnpackedFloat → Option (ℤ ×ₗ ℤ ×ₗ ℤ)
  | .notANumber => none
  | .infinity .negative => some (toLex (-2, toLex (0, 0)))
  | .finite .negative m e _ => some (toLex (-1, toLex (-e, -m)))
  | .zero _ => some (toLex (0, toLex (0, 0)))
  | .finite .positive m e _ => some (toLex (1, toLex (e, m)))
  | .infinity .positive => some (toLex (2, toLex (0, 0)))

/-- Numbers are in order if both are defined and the first has no greater rank. -/
theorem isLE_compare_iff (a b : UnpackedFloat) :
    (a.compare b).any (·.isLE) = true ↔ ∃ r ∈ rank? a, ∃ s ∈ rank? b, r ≤ s := by
  -- Among numbers of one sign the exponents decide, and then the mantissas.
  have sizes (m n : ℕ) (d e : ℤ) :
      ((compare d e).then (compare m n)).isLE = true ↔ d < e ∨ d = e ∧ m ≤ n := by
    rcases lt_trichotomy d e with less | rfl | greater
    · simp [compare_lt_iff_lt.mpr less, less]
    · simp [Nat.isLE_compare]
    · simp [compare_gt_iff_gt.mpr greater, greater.not_gt, greater.ne']
  have turned (m n : ℕ) (d e : ℤ) :
      ((compare d e).then (compare m n)).isGE = true ↔ e < d ∨ d = e ∧ n ≤ m := by
    rw [← Ordering.isLE_swap, Ordering.swap_then, ← Std.OrientedCmp.eq_swap, ← Std.OrientedCmp.eq_swap, sizes,
      @eq_comm ℤ e d]
  have signs (s t : UnpackedFloat.Sign) :
      (compare s t).isLE = true ↔ s = .negative ∨ t = .positive := by
    cases s <;> cases t <;> simp <;> rfl
  -- Kinds and signs decide all other comparisons.
  rcases a with ⟨_ | _⟩ | _ | _ | ⟨_ | _, m, d⟩ <;>
    rcases b with ⟨_ | _⟩ | _ | _ | ⟨_ | _, n, e⟩ <;>
    dsimp only [UnpackedFloat.compare, rank?] <;>
    simp [Prod.Lex.toLex_le_toLex, turned, sizes, signs]

theorem le_trans {x y z : Float} (first : x ≤ y) (second : y ≤ z) : x ≤ z := by
  rw [le_iff, isLE_compare_iff] at first second ⊢
  obtain ⟨r, ranked, s, between, below⟩ := first
  obtain ⟨s', between', t, above, le⟩ := second
  obtain rfl : s = s' := Option.some.inj (between.symm.trans between')
  exact ⟨r, ranked, t, above, below.trans le⟩

instance isTrans_le : IsTrans Float (· ≤ ·) := ⟨fun _ _ _ => le_trans⟩

end Double

/-! ## 3. Ranges -/

namespace Range

variable {α : Type} [Scalar α]

/-- The number is undefined, or not between the limits. -/
def Excludes (r : Range α) (x : α) : Prop :=
  Scalar.isNaN x = true ∨ ¬ (r.least ≤ x ∧ x ≤ r.greatest)

variable {r : Range α} {x : α}

theorem not_allows_of_excludes [Scalar.Comparable α] (excluded : r.Excludes x) :
    r.allows x = false := by
  have outside : ¬ (r.least ≤ x ∧ x ≤ r.greatest) := by
    rcases excluded with undefined | outside
    · exact fun inside => Scalar.Comparable.not_le_undefined _ _ undefined inside.1
    · exact outside
  rw [Range.allows, ← Bool.decide_and, decide_eq_false_iff_not]
  exact outside

theorem inside_of_not_excludes (h : ¬ r.Excludes x) : r.least ≤ x ∧ x ≤ r.greatest :=
  Classical.not_not.mp (not_or.mp h).2

theorem allows_of_not_excludes (h : ¬ r.Excludes x) : r.allows x = true := by
  rw [Range.allows, ← Bool.decide_and, decide_eq_true_iff]
  exact inside_of_not_excludes h

/-- A device does not have to move what is between its limits. -/
theorem clamped_of_not_excludes [Scalar.Comparable α] (h : ¬ r.Excludes x) :
    Scalar.clamped r.least r.greatest x = x := by
  obtain ⟨low, high⟩ := inside_of_not_excludes h
  unfold Scalar.clamped
  rw [if_neg (Scalar.Comparable.not_lt_of_le _ _ low)]
  exact if_neg (Scalar.Comparable.not_lt_of_le _ _ high)

end Range

end PulseBench
