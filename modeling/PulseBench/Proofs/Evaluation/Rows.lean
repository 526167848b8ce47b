import Mathlib.Algebra.BigOperators.Ring.List
import PulseBench.Evaluation.Methods
import PulseBench.Proofs.Plugin.Builtin
import PulseBench.Proofs.Reals

/-!
# Evaluation row by row

Evaluation reads the bin width, the parameters and the number of columns before it looks at any
count. All its failures come of these; what is then done to one row is the same for every row.

What is done to a row looks at the totals of windows. Over the reals a total is the number of the
counts in its window, however the sum was arranged.

Results:
1. `evaluate_eq`, `evaluate_cases`: finding out what to do to a row, and doing it to every row.
2. `Window.total_eq`, `Window.counted_add`, `Window.counted_scaled`: totals.
3. `Window.ofParams_of_bins`: windows whose ends are whole numbers of bins.
-/

namespace PulseBench

/-! ## 1. Rows -/

namespace EvaluationMethod

variable {α : Type} [Scalar α]

/-- What a method does to each row. -/
def estimator (m : EvaluationMethod α) (columns : Nat) (binWidth : α) (params : ParamSet α) :
    Except (Failure α) (List Nat → Estimate α) := do
  unless 0.0 < binWidth do throw (.measure .binWidthNotPositive)
  let resolved ← m.schema.resolve params
  m.rule columns binWidth resolved

theorem evaluate_eq (m : EvaluationMethod α) (counts : Grid Nat) (binWidth : α)
    (params : ParamSet α) :
    m.evaluate counts binWidth params =
      (m.estimator counts.columns binWidth params).map counts.rows.map := by
  unfold evaluate estimator
  refine ite_eq_map Iff.rfl (bind_eq_map fun resolved => ?_) rfl
  cases m.rule counts.columns binWidth resolved with
  | error f => rfl
  | ok estimate => rfl

/-- Tables of equal width all fail alike, or the same is done to each of their rows. -/
theorem evaluate_cases (m : EvaluationMethod α) (columns : Nat) (binWidth : α)
    (params : ParamSet α) :
    (∃ f, ∀ counts : Grid Nat, counts.columns = columns →
      m.evaluate counts binWidth params = .error f) ∨
    ∃ estimate, m.estimator columns binWidth params = .ok estimate ∧
      ∀ counts : Grid Nat, counts.columns = columns →
        m.evaluate counts binWidth params = .ok (counts.rows.map estimate) := by
  cases found : m.estimator columns binWidth params with
  | error f =>
    refine .inl ⟨f, fun counts width => ?_⟩
    rw [evaluate_eq, width, found]
    rfl
  | ok estimate =>
    refine .inr ⟨estimate, rfl, fun counts width => ?_⟩
    rw [evaluate_eq, width, found]
    rfl

/-- What is done to a row comes from the rule of the method. -/
theorem rule_of_estimator {m : EvaluationMethod α} {columns : Nat} {binWidth : α}
    {params : ParamSet α} {estimate : List Nat → Estimate α}
    (found : m.estimator columns binWidth params = .ok estimate) :
    ∃ resolved, m.rule columns binWidth resolved = .ok estimate := by
  unfold estimator at found
  split at found
  · obtain ⟨resolved, -, found⟩ := bind_eq_ok.mp found
    exact ⟨resolved, found⟩
  · cases found

/-- Every registry has the same methods. -/
theorem basic_of_find {α : Type} [Analytic α] {extra : List String} {name : String}
    {m : EvaluationMethod α} (found : (registry extra).find name = .ok m) :
    m ∈ basic ∧ m.name = name := by
  have first := (Registry.find_builtin_iff ..).mp found
  have named := List.find?_some first
  exact ⟨List.mem_of_find?_eq_some first, beq_iff_eq.mp named⟩

end EvaluationMethod

/-! ## 2. Totals -/

namespace Window

/-- The number of counts in a window. -/
def counted (w : Window) (row : List Nat) : Nat := ((row.take w.stop).drop w.start).sum

theorem total_eq (w : Window) (row : List Nat) : (w.total row : ℝ) = w.counted row := by
  have numbers : ((row.take w.stop).drop w.start).map (Scalar.ofNat : Nat → ℝ) =
      ((row.take w.stop).drop w.start).map Nat.cast := rfl
  rw [total, counted, Nat.cast_list_sum, numbers]
  exact (Scalar.Reading.real.balancedSum _).trans (congrArg List.sum (List.map_id _))

theorem counted_add (w : Window) {a b : List Nat} (same : a.length = b.length) :
    w.counted (List.zipWith (· + ·) a b) = w.counted a + w.counted b := by
  have cut : ((a.take w.stop).drop w.start).length = ((b.take w.stop).drop w.start).length := by
    simp only [List.length_drop, List.length_take, same]
  rw [counted, counted, counted, List.sum_add_sum_eq_sum_zipWith_of_length_eq _ _ cut,
    List.take_zipWith, List.drop_zipWith]

theorem counted_scaled (w : Window) (factor : Nat) (row : List Nat) :
    w.counted (row.map (factor * ·)) = factor * w.counted row := by
  rw [counted, counted, ← List.map_take, ← List.map_drop, List.sum_map_mul_left, List.map_id']

/-! ## 3. Whole bins -/

theorem ofParams_of_bins {role : WindowRole} {columns start stop : Nat}
    {binWidth : ℝ} {params : ParamSet ℝ} (first last : ℝ)
    (opens : params.number (role.word ++ "_start") = .ok first)
    (closes : params.number (role.word ++ "_end") = .ok last) (opening : first / binWidth = start)
    (closing : last / binWidth = stop) (filled : start < stop) (fits : stop ≤ columns) :
    ofParams role columns binWidth params = .ok ⟨start, stop⟩ := by
  unfold ofParams
  simp only [opens, closes, ok_bind, opening, closing, Reals.toBins_natCast, Nat.min_eq_left fits]
  exact if_neg (not_le.mpr filled)

end Window

end PulseBench
