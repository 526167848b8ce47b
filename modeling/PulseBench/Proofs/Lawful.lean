import Mathlib.Algebra.BigOperators.Group.List.Basic
import PulseBench.Proofs.Exact

/-!
# Laws of numbers

Few results need to know how numbers are rounded. Some need a law that holds for
doubles as well (`Scalar.Lawful`), and some hold only where nothing is rounded
(`Scalar.Exact`). Where sums of many numbers are compared, these are read in a
field (`Scalar.Reading`), and for closed forms their differences, whole numbers
and literals as well (`Scalar.Reading.Arithmetic`).
-/

namespace PulseBench

/-- What also holds where sums and products are rounded. -/
class Scalar.Lawful (α : Type) [Scalar α] : Prop where
  mul_one : ∀ x : α, x * 1.0 = x
  ofInt_lt_one : ∀ n : Int, n ≤ 0 → (Scalar.ofInt n : α) < Scalar.ofInt 1

/-- What holds where they are not. -/
class Scalar.Exact (α : Type) [Scalar α] : Prop where
  add_mul : ∀ x y z : α, (x + y) * z = x * z + y * z
  mul_assoc : ∀ x y z : α, x * y * z = x * (y * z)
  mul_two_div_two : ∀ x : α, x * 2.0 / 2.0 = x

instance : Scalar.Lawful ℚ where
  mul_one x := by norm_num
  ofInt_lt_one n notPositive := by
    change (n : ℚ) < ((1 : ℤ) : ℚ)
    exact_mod_cast Int.lt_add_one_of_le notPositive

instance : Scalar.Exact ℚ where
  add_mul := add_mul
  mul_assoc := mul_assoc
  mul_two_div_two x := by norm_num

/-- The numbers read as elements of a field, if none of the operations is rounded. -/
structure Scalar.Reading (α K : Type) [Scalar α] [Field K] where
  value : α → K
  zero : value 0.0 = 0
  neg : ∀ x, value (-x) = -value x
  add : ∀ x y, value (x + y) = value x + value y
  mul : ∀ x y, value (x * y) = value x * value y
  div : ∀ x y, value (x / y) = value x / value y

/-- Differences, whole numbers and the literals of closed forms are read as what they are. -/
structure Scalar.Reading.Arithmetic {α K : Type} [Scalar α] [Field K] (r : Scalar.Reading α K) :
    Prop where
  sub : ∀ x y, r.value (x - y) = r.value x - r.value y
  ofNat : ∀ n : Nat, r.value (Scalar.ofNat n) = n
  one : r.value 1.0 = 1
  two : r.value 2.0 = 2

namespace Scalar.Reading

/-- The rationals read as themselves. -/
def rational : Scalar.Reading ℚ ℚ where
  value := id
  zero := Exact.zero_literal
  neg _ := rfl
  add _ _ := rfl
  mul _ _ := rfl
  div _ _ := rfl

theorem rational_arithmetic : rational.Arithmetic where
  sub _ _ := rfl
  ofNat _ := rfl
  one := by
    change (1.0 : ℚ) = 1
    norm_num
  two := by
    change (2.0 : ℚ) = 2
    norm_num

section Sums

variable {α K : Type} [Scalar α] [Field K] (r : Scalar.Reading α K)

theorem foldl_add (start : α) (xs : List α) :
    r.value (xs.foldl (· + ·) start) = r.value start + (xs.map r.value).sum := by
  induction xs generalizing start with
  | nil => simp
  | cons x rest ih => rw [List.foldl_cons, ih, r.add, List.map_cons, List.sum_cons, add_assoc]

theorem sum (xs : List α) : r.value (Scalar.sum xs) = (xs.map r.value).sum := by
  rw [Scalar.sum, r.foldl_add, r.neg, r.zero, neg_zero, zero_add]

/-! Where nothing is rounded, sums in lanes are sums. -/

/-- Every eighth item from each of eight places on, and all of them in a row. -/
theorem sum_lanes (f : Nat → K) (groups : Nat) :
    ((List.range 8).map fun lane =>
        ((List.range groups).map fun group => f (8 * group + lane)).sum).sum =
      ((List.range (8 * groups)).map f).sum := by
  induction groups with
  | zero => simp
  | succ groups ih =>
    simp only [List.range_succ (n := groups), List.map_append, List.map_cons, List.map_nil,
      List.sum_append, List.sum_cons, List.sum_nil, add_zero, List.sum_map_add]
    rw [ih, Nat.mul_succ, List.range_add, List.map_append, List.sum_append, List.map_map]
    rfl

/-- The lanes are added in pairs. -/
theorem sum_pairs (lanes : List α) (eight : lanes.length = 8) :
    ((List.zipWith (· + ·) (lanes.take 4) (lanes.drop 4)).map r.value).sum =
      (lanes.map r.value).sum := by
  have halves : ((lanes.take 4).map r.value).length = ((lanes.drop 4).map r.value).length := by
    simp only [List.length_map, List.length_take, List.length_drop]
    omega
  have added : (List.zipWith (· + ·) (lanes.take 4) (lanes.drop 4)).map r.value =
      List.zipWith (· + ·) ((lanes.take 4).map r.value) ((lanes.drop 4).map r.value) := by
    rw [List.map_zipWith, List.zipWith_map]
    simp only [r.add]
  rw [added, ← List.sum_add_sum_eq_sum_zipWith_of_length_eq _ _ halves, ← List.sum_append,
    ← List.map_append, List.take_append_drop]

theorem sum_laneSums {items : List α} {groups : Nat} (full : 8 * groups ≤ items.length) :
    ((laneSums items groups).map r.value).sum = ((items.take (8 * groups)).map r.value).sum := by
  have front : items.take (8 * groups) =
      (List.range (8 * groups)).map fun place => items.toArray.getD place 0.0 := by
    refine List.ext_getElem (by simpa using full) fun place inside _ => ?_
    have here : place < items.length := by
      rw [List.length_take] at inside
      omega
    simp [here]
  rw [front, List.map_map, ← sum_lanes, laneSums, List.map_map]
  refine congrArg List.sum (List.map_congr_left fun lane _ => ?_)
  rw [Function.comp_apply, r.sum, List.map_map]
  rfl

theorem balancedSum (items : List α) :
    r.value (Scalar.balancedSum items) = (items.map r.value).sum := by
  have full : 8 * (items.length / 8) ≤ items.length := by omega
  have eight : (laneSums items (items.length / 8)).length = 8 := by simp [laneSums]
  rw [Scalar.balancedSum, r.foldl_add, r.zero, zero_add, List.map_append, List.sum_append,
    r.sum_pairs _ eight, r.sum_laneSums full, ← List.sum_append, ← List.map_append,
    List.take_append_drop]

end Sums

end Scalar.Reading

end PulseBench
