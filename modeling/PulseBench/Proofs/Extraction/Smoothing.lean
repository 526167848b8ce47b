import Mathlib.Algebra.BigOperators.Field
import Mathlib.Algebra.BigOperators.Intervals
import Mathlib.Algebra.Order.BigOperators.Group.Finset
import PulseBench.Extraction.Gates
import PulseBench.Proofs.Lawful

/-!
# Smoothing keeps the total

Smoothing replaces every item by a weighted sum of its neighbours. Beyond the ends the items go on
as their mirror images, `d c b a | a b c d | d c b a`, however far the kernel reaches; so the
continued data have twice their length as a period. An item loses what its neighbours gain, but
for a single shift of the data this does not add up. It does for a shift to the left together with
the same shift to the right: these two copies of the data lie side by side, and make up one whole
period. A kernel that is the same on both sides gives both the same weight.

Sums are compared as elements of a field in which nothing is rounded.

Results:
1. `reflect_lt`, `reflect_of_inside`, `reflect_mirrored`, `reflect_add_period`: the item at an
   index.
2. `sum_period`, `sum_shifted_add`: sums over the continued data.
3. `sum_kernel`, `value_sum_convolve_eq`: a kernel that is the same on both sides.
4. `smoothing_keeps_total`: all kernels, and Gaussian ones.
-/

namespace PulseBench.Gates

open Finset

/-! ## 1. Mirror images -/

section Mirror

variable {size : Nat}

/-- Whatever the index, there is an item. -/
theorem reflect_lt (filled : 0 < size) (index : Int) : reflect index size < size := by
  have below : index % (2 * size : Nat) < (2 * size : Nat) := Int.emod_lt_of_pos index (by omega)
  simp only [reflect]
  split <;> omega

theorem reflect_of_inside {index : Nat} (inside : index < size) : reflect index size = index := by
  have same : (index : Int) % (2 * size : Nat) = index := Int.emod_eq_of_lt (by omega) (by omega)
  simp only [reflect, same, Int.toNat_natCast]
  exact if_neg (by omega)

theorem reflect_add_period (index : Int) (size : Nat) :
    reflect (index + (2 * size : Nat)) size = reflect index size := by
  simp only [reflect, Int.add_emod_right]

/-- The item before the first is the first one again, and so on to the left. -/
theorem reflect_mirrored (filled : 0 < size) (index : Int) :
    reflect (-1 - index) size = reflect index size := by
  have low : 0 ≤ index % (2 * size : Nat) := Int.emod_nonneg index (by omega)
  have high : index % (2 * size : Nat) < (2 * size : Nat) := Int.emod_lt_of_pos index (by omega)
  have turned :
      (-1 - index) % (2 * size : Nat) = (2 * size : Nat) - 1 - index % (2 * size : Nat) := by
    have parts := Int.mul_ediv_add_emod index (2 * size : Nat)
    have shifted : -1 - index = ((2 * size : Nat) - 1 - index % (2 * size : Nat)) +
        (2 * size : Nat) * (-(index / (2 * size : Nat)) - 1) := by linarith
    rw [shifted, Int.add_mul_emod_self_left, Int.emod_eq_of_lt (by omega) (by omega)]
  simp only [reflect, turned]
  split <;> split <;> omega

end Mirror

/-! ## 2. Sums over mirror images -/

section Sums

variable {M : Type} [AddCommGroup M] {f : Int → M}

/-- The sum over a period is the same from everywhere. -/
theorem sum_period {period : Nat} (periodic : ∀ i, f (i + period) = f i) (start : Int) :
    ∑ i ∈ range period, f (start + i) = ∑ i ∈ range period, f i := by
  have step (start : Int) :
      ∑ i ∈ range period, f (start + 1 + i) = ∑ i ∈ range period, f (start + i) := by
    -- The sum over one more item, with the last item taken off and with the first.
    have both := (sum_range_succ' (fun i : Nat => f (start + i)) period).symm.trans
      (sum_range_succ (fun i : Nat => f (start + i)) period)
    rw [periodic, Nat.cast_zero, add_zero] at both
    have moved (i : Nat) : start + ((i + 1 : Nat) : Int) = start + 1 + i := by omega
    simpa only [moved] using add_right_cancel both
  induction start with
  | zero => simp only [zero_add]
  | succ n ih => exact (step n).trans ih
  | pred n ih =>
    have before := step (-(n : Int) - 1)
    rw [sub_add_cancel] at before
    exact before.symm.trans ih

/-- Shifted to both sides, the items are those of one period: all of them twice. -/
theorem sum_shifted_add {size : Nat} (mirrored : ∀ i, f (-1 - i) = f i)
    (periodic : ∀ i, f (i + (2 * size : Nat)) = f i) (shift : Int) :
    ∑ i ∈ range size, f (i + shift) + ∑ i ∈ range size, f (i - shift) =
      ∑ i ∈ range size, f i + ∑ i ∈ range size, f i := by
  have full (shift : Int) :
      ∑ i ∈ range size, f (i + shift) + ∑ i ∈ range size, f (i - shift) =
        ∑ i ∈ range (2 * size), f i := by
    have left : ∑ i ∈ range size, f (i - shift) = ∑ i ∈ range size, f (shift - size + i) := by
      rw [← sum_range_reflect]
      refine sum_congr rfl fun i inside => ?_
      rw [← mirrored]
      congr 1
      have := mem_range.mp inside
      omega
    have right : ∑ i ∈ range size, f (i + shift) =
        ∑ i ∈ range size, f (shift - size + (size + i : Nat)) := by
      refine sum_congr rfl fun i _ => congrArg f ?_
      omega
    rw [← sum_period periodic (shift - size), two_mul, sum_range_add, ← left, ← right, add_comm]
  have unshifted := full 0
  simp only [add_zero, sub_zero] at unshifted
  rw [full, unshifted]

/-- A kernel read from its other end. -/
theorem sum_turned (radius : Nat) (g : Int → M) :
    ∑ k ∈ range (2 * radius + 1), g (k - radius) =
      ∑ k ∈ range (2 * radius + 1), g (-(k - radius)) := by
  rw [← sum_range_reflect]
  refine sum_congr rfl fun k inside => congrArg g ?_
  have := mem_range.mp inside
  omega

end Sums

/-! ## 3. Convolution -/

section Convolution

variable {α K : Type} [Scalar α] [Field K] (r : Scalar.Reading α K) {radius : Nat}

/-- The data, continued by its mirror images to both sides. -/
def continued (data : List α) (index : Int) : α := data.getD (reflect index data.length) 0.0

theorem continued_of_inside {data : List α} {index : Nat} (inside : index < data.length) :
    continued data index = data[index] := by
  rw [continued, reflect_of_inside inside]
  exact (List.getElem_eq_getD _).symm

/-- One weight of a normalised kernel, and all of them with their places. -/
theorem zipIdx_normalised (radius : Nat) (weight : Int → α) :
    (normalised radius weight).zipIdx = (List.range (2 * radius + 1)).map fun (k : Nat) =>
      (weight (k - radius) / Scalar.sum ((List.range (2 * radius + 1)).map fun (k : Nat) =>
        weight (k - radius)), k) := by
  refine List.ext_getElem ?_ fun k _ _ => ?_
  · simp [normalised]
  · simp [normalised]

theorem sum_range_value (count : Nat) (f : Nat → α) :
    r.value (Scalar.sum ((List.range count).map f)) = ∑ i ∈ range count, r.value (f i) := by
  rw [r.sum, List.map_map]
  rfl

theorem sum_continued (data : List α) :
    r.value (Scalar.sum data) = ∑ i ∈ range data.length, r.value (continued data i) := by
  have same : data = (List.range data.length).map fun (i : Nat) => continued data i := by
    refine List.ext_getElem (by simp) fun i inside _ => ?_
    rw [List.getElem_map, List.getElem_range, continued_of_inside inside]
  conv_lhs => rw [same]
  exact sum_range_value r data.length _

/-- The sum of smoothed data, exactly. -/
theorem value_sum_convolve (radius : Nat) (weight : Int → α) (data : List α) :
    r.value (Scalar.sum (convolve radius (normalised radius weight) data)) =
      ∑ i ∈ range data.length, ∑ k ∈ range (2 * radius + 1),
        r.value (weight (k - radius)) /
            (∑ k ∈ range (2 * radius + 1), r.value (weight (k - radius))) *
          r.value (continued data (i + (k - radius))) := by
  rw [convolve, sum_range_value]
  refine sum_congr rfl fun i _ => ?_
  rw [zipIdx_normalised, List.map_map, sum_range_value]
  refine sum_congr rfl fun k _ => ?_
  have item : data.toArray.getD (reflect ((i : Int) + k - radius) data.length) 0.0 =
      continued data (i + (k - radius)) := by
    rw [add_sub_assoc, continued]
    simp
  show r.value (weight (k - radius) / _ * _) = _
  rw [item, r.mul, r.div, sum_range_value]

variable [LinearOrder K] [IsStrictOrderedRing K]

/-- A kernel that is the same on both sides counts every item with all of its weight. -/
theorem sum_kernel {size : Nat} {w f : Int → K}
    (symmetric : ∀ x : Int, x.natAbs ≤ radius → w (-x) = w x) (mirrored : ∀ i, f (-1 - i) = f i)
    (periodic : ∀ i, f (i + (2 * size : Nat)) = f i) :
    ∑ k ∈ range (2 * radius + 1), w (k - radius) * ∑ i ∈ range size, f (i + (k - radius)) =
      (∑ k ∈ range (2 * radius + 1), w (k - radius)) * ∑ i ∈ range size, f i := by
  have turned := sum_turned radius fun s => w s * ∑ i ∈ range size, f (i + s)
  have paired : ∀ k ∈ range (2 * radius + 1),
      w (k - radius) * ∑ i ∈ range size, f (i + (k - radius)) +
          w (-(k - radius)) * ∑ i ∈ range size, f (i + -(k - radius)) =
        2 * (w (k - radius) * ∑ i ∈ range size, f i) := by
    intro k inside
    have below := mem_range.mp inside
    have both := sum_shifted_add mirrored periodic (k - radius)
    simp only [← sub_eq_add_neg]
    rw [symmetric _ (by omega), ← mul_add, both]
    ring
  have twice := sum_congr rfl paired
  rw [sum_add_distrib, ← turned, ← mul_sum, ← sum_mul] at twice
  linarith

/-- Smoothing by any kernel of positive weights that is the same on both sides keeps the total. -/
theorem value_sum_convolve_eq {weight : Int → α}
    (positive : ∀ x : Int, x.natAbs ≤ radius → 0 < r.value (weight x))
    (symmetric : ∀ x : Int, x.natAbs ≤ radius → weight (-x) = weight x) (data : List α) :
    r.value (Scalar.sum (convolve radius (normalised radius weight) data)) =
      r.value (Scalar.sum data) := by
  rcases Nat.eq_zero_or_pos data.length with empty | filled
  · rw [List.length_eq_zero_iff.mp empty]
    rfl
  have weights : 0 < ∑ k ∈ range (2 * radius + 1), r.value (weight (k - radius)) := by
    refine sum_pos (fun k inside => positive _ ?_) ⟨0, mem_range.mpr (Nat.succ_pos _)⟩
    have := mem_range.mp inside
    omega
  have mirrored (i : Int) : r.value (continued data (-1 - i)) = r.value (continued data i) := by
    rw [continued, reflect_mirrored filled, continued]
  have periodic (i : Int) :
      r.value (continued data (i + (2 * data.length : Nat))) = r.value (continued data i) := by
    rw [continued, reflect_add_period, continued]
  have kernel := sum_kernel (w := fun x => r.value (weight x))
    (f := fun i => r.value (continued data i))
    (fun x within => congrArg r.value (symmetric x within)) mirrored periodic
  calc r.value (Scalar.sum (convolve radius (normalised radius weight) data))
      = ∑ k ∈ range (2 * radius + 1), ∑ i ∈ range data.length,
          r.value (weight (k - radius)) /
            (∑ k ∈ range (2 * radius + 1), r.value (weight (k - radius))) *
          r.value (continued data (i + (k - radius))) := by
        rw [value_sum_convolve, sum_comm]
    _ = (∑ k ∈ range (2 * radius + 1), r.value (weight (k - radius)) *
          ∑ i ∈ range data.length, r.value (continued data (i + (k - radius)))) /
            (∑ k ∈ range (2 * radius + 1), r.value (weight (k - radius))) := by
        rw [sum_div]
        refine sum_congr rfl fun k _ => ?_
        rw [← mul_sum, div_mul_eq_mul_div]
    _ = ∑ i ∈ range data.length, r.value (continued data i) := by
        rw [kernel, mul_div_cancel_left₀ _ weights.ne']
    _ = r.value (Scalar.sum data) := (sum_continued r data).symm

end Convolution

/-! ## 4. Gaussian smoothing -/

section Smoothing

variable {α K : Type} [Analytic α] [Field K]

/-- The bell curve depends on the distance only. -/
theorem bell_neg (deviation : α) (distance : Int) :
    bell deviation (-distance) = bell deviation distance := by
  rw [bell, Int.neg_mul_neg, bell]

theorem length_convolve (radius : Nat) (kernel data : List α) :
    (convolve radius kernel data).length = data.length := by
  rw [convolve, List.length_map, List.length_range]

/-- Smoothing conserves counts. Every index is mirrored to one of the items. Whatever the radius, a
kernel of positive weights that is the same on both sides and has sum one replaces the data by as
many numbers with the same sum. The kernel of Gaussian smoothing is one of these. -/
theorem smoothing_keeps_total [LinearOrder K] [IsStrictOrderedRing K] (r : Scalar.Reading α K) :
    (∀ (index : Int) (size : Nat), 0 < size → reflect index size < size) ∧
    (∀ (radius : Nat) (weight : Int → α),
      (∀ x : Int, x.natAbs ≤ radius → 0 < r.value (weight x)) →
      (∀ x : Int, x.natAbs ≤ radius → weight (-x) = weight x) → ∀ data : List α,
        (convolve radius (normalised radius weight) data).length = data.length ∧
        r.value (Scalar.sum (convolve radius (normalised radius weight) data)) =
          r.value (Scalar.sum data)) ∧
    ((∀ x : α, 0 < r.value (Analytic.exp x)) → ∀ (deviation : α) (data : List α),
      (smooth deviation data).length = data.length ∧
      r.value (Scalar.sum (smooth deviation data)) = r.value (Scalar.sum data)) := by
  refine ⟨fun index size filled => reflect_lt filled index, fun radius weight positive symmetric
    data => ⟨length_convolve _ _ _, value_sum_convolve_eq r positive symmetric data⟩, ?_⟩
  intro positive deviation data
  simp only [smooth]
  split
  · exact ⟨rfl, rfl⟩
  · exact ⟨length_convolve _ _ _, value_sum_convolve_eq r (fun _ _ => positive _)
      (fun x _ => bell_neg deviation x) data⟩

/-- Three items, mirrored more than twice to each side, and any Gaussian kernel over the rationals,
where the exponential is the start of its series. -/
theorem smoothing_keeps_total_wide :
    (∀ x : Int, 0 < 1 / (1 + x * x : ℚ)) ∧ (∀ x : ℚ, 0 < Analytic.exp x) ∧
    Scalar.sum (convolve 7 (normalised 7 fun x => 1 / (1 + x * x : ℚ)) [1, 2, 5]) = 8 ∧
    ∀ (deviation : ℚ) (data : List ℚ),
      Scalar.sum (smooth deviation data) = Scalar.sum data := by
  obtain ⟨-, kernels, gaussian⟩ := smoothing_keeps_total Scalar.Reading.rational
  have positive (x : Int) : 0 < 1 / (1 + x * x : ℚ) := by
    have square := mul_self_nonneg (x : ℚ)
    positivity
  have symmetric (x : Int) : 1 / (1 + (-x : Int) * (-x : Int) : ℚ) = 1 / (1 + x * x : ℚ) := by
    rw [Int.cast_neg, neg_mul_neg]
  have exponential (x : ℚ) : 0 < Analytic.exp x := by
    show 0 < 1 + x + x ^ 2 / 2
    nlinarith [sq_nonneg (x + 1)]
  have total : Scalar.sum [1, 2, (5 : ℚ)] = 8 := by decide +kernel
  exact ⟨positive, exponential,
    (kernels 7 _ (fun x _ => positive x) (fun x _ => symmetric x) [1, 2, 5]).2.trans total,
    fun deviation data => (gaussian exponential deviation data).2⟩

end Smoothing

end PulseBench.Gates
