import Mathlib.Analysis.Real.Sqrt
import PulseBench.Proofs.Counting.Grid
import PulseBench.Proofs.Evaluation.Rows

/-!
# Evaluation of accumulated counts

Counts accumulate over sweeps, and the errors are those of independent Poissonian counts. So what
is summed or averaged adds up with the counts, and the squares of the errors add up with it. A
normalised mean is a ratio: it stays what it is if all counts are multiplied, and its error shrinks
like the error of so many times as many counts. Dark windows are no exception.

Errors are square roots, so these laws are about the reals.

Results:
1. `accumulating_sum`, `accumulating_mean`, `accumulating_meanReference`,
   `accumulating_passThrough`, `relative_meanNorm`: what is done to one row.
2. `evaluate_added`, `evaluate_multiplied`: all rows.
3. `evaluation_accumulates`: the methods as they are found in a registry.
-/

namespace PulseBench

/-! ## 1. One row -/

/-- A number that adds up if the counts of two rows are added place by place. -/
def AddsUp (f : List Nat → ℝ) : Prop :=
  ∀ a b : List Nat, a.length = b.length → f (List.zipWith (· + ·) a b) = f a + f b

namespace AddsUp

variable {f g : List Nat → ℝ}

theorem zero : AddsUp fun _ => 0 := fun _ _ _ => (add_zero 0).symm

theorem add (first : AddsUp f) (second : AddsUp g) : AddsUp fun row => f row + g row := by
  intro a b same
  dsimp only
  rw [first a b same, second a b same, add_add_add_comm]

theorem sub (first : AddsUp f) (second : AddsUp g) : AddsUp fun row => f row - g row := by
  intro a b same
  dsimp only
  rw [first a b same, second a b same, add_sub_add_comm]

theorem div (whole : AddsUp f) (bins : ℝ) : AddsUp fun row => f row / bins := by
  intro a b same
  dsimp only
  rw [whole a b same, add_div]

end AddsUp

/-- Values add up with the counts, and so do the squares of their errors. -/
structure Accumulating (estimate : List Nat → Estimate ℝ) : Prop where
  values : AddsUp fun row => (estimate row).value
  squares : AddsUp fun row => (estimate row).error ^ 2

/-- If all counts are multiplied then values stay, and the squares of their errors are divided. -/
structure Relative (estimate : List Nat → Estimate ℝ) : Prop where
  values : ∀ {factor : Nat}, 1 ≤ factor → ∀ row,
    (estimate (row.map (factor * ·))).value = (estimate row).value
  squares : ∀ {factor : Nat}, 1 ≤ factor → ∀ row,
    (estimate (row.map (factor * ·))).error ^ 2 = (estimate row).error ^ 2 / factor

namespace Window

theorem addsUp_total (w : Window) : AddsUp w.total := by
  intro a b same
  rw [total_eq, total_eq, total_eq, w.counted_add same, Nat.cast_add]

theorem total_scaled (w : Window) (factor : Nat) (row : List Nat) :
    (w.total (row.map (factor * ·)) : ℝ) = factor * w.total row := by
  rw [total_eq, total_eq, counted_scaled, Nat.cast_mul]

theorem total_nonneg (w : Window) (row : List Nat) : (0 : ℝ) ≤ w.total row := by
  rw [total_eq]
  exact Nat.cast_nonneg _

end Window

namespace EvaluationMethod

variable {columns : Nat} {binWidth : ℝ} {params : ParamSet ℝ} {estimate : List Nat → Estimate ℝ}

/-- The square of an error. -/
theorem sqrt_sq {x : ℝ} (nonneg : 0 ≤ x) : (Analytic.sqrt x : ℝ) ^ 2 = x := Real.sq_sqrt nonneg

theorem accumulating_sum (found : sum columns binWidth params = .ok estimate) :
    Accumulating estimate := by
  obtain ⟨signal, -, made⟩ := bind_eq_ok.mp found
  cases made
  refine ⟨signal.addsUp_total, ?_⟩
  simp only [sqrt_sq (signal.total_nonneg _)]
  exact signal.addsUp_total

theorem accumulating_mean (found : mean columns binWidth params = .ok estimate) :
    Accumulating estimate := by
  obtain ⟨signal, -, made⟩ := bind_eq_ok.mp found
  cases made
  refine ⟨signal.addsUp_total.div _, ?_⟩
  simp only [div_pow, sqrt_sq (signal.total_nonneg _)]
  exact signal.addsUp_total.div _

theorem accumulating_meanReference (found : meanReference columns binWidth params = .ok estimate) :
    Accumulating estimate := by
  obtain ⟨signal, -, rest⟩ := bind_eq_ok.mp found
  obtain ⟨norm, -, made⟩ := bind_eq_ok.mp rest
  cases made
  refine ⟨(signal.addsUp_total.div _).sub (norm.addsUp_total.div _), ?_⟩
  have nonneg (row : List Nat) : (0 : ℝ) ≤ signal.total row / (signal.bins * signal.bins) +
      norm.total row / (norm.bins * norm.bins) :=
    add_nonneg (div_nonneg (signal.total_nonneg row) (mul_self_nonneg _))
      (div_nonneg (norm.total_nonneg row) (mul_self_nonneg _))
  simp only [sqrt_sq (nonneg _)]
  exact (signal.addsUp_total.div _).add (norm.addsUp_total.div _)

theorem accumulating_passThrough (found : passThrough columns binWidth params = .ok estimate) :
    Accumulating estimate := by
  have dark : (0.0 : ℝ) = 0 := Scalar.Reading.real.zero
  have none : AddsUp fun _ => (0 : ℝ) ^ 2 := by
    rw [zero_pow two_ne_zero]
    exact .zero
  cases found
  by_cases empty : columns = 0
  · simp only [if_pos empty, Estimate.zero, dark]
    exact ⟨.zero, none⟩
  · simp only [if_neg empty, dark]
    exact ⟨(Window.addsUp_total _).div _, none⟩

/-- Multiplied totals have the same ratio, and dark windows stay dark. -/
theorem relative_meanNorm (found : meanNorm columns binWidth params = .ok estimate) :
    Relative estimate := by
  obtain ⟨signal, -, rest⟩ := bind_eq_ok.mp found
  obtain ⟨norm, -, made⟩ := bind_eq_ok.mp rest
  cases made
  have dark : (0.0 : ℝ) = 0 := Scalar.Reading.real.zero
  have one : (1.0 : ℝ) = 1 := by norm_num
  constructor
  · intro factor positive row
    have above : (0 : ℝ) < factor := Nat.cast_pos.mpr positive
    simp only [Window.total_scaled, dark, mul_pos_iff_of_pos_left above, mul_div_assoc,
      mul_div_mul_left _ _ above.ne']
  · intro factor positive row
    have above : (0 : ℝ) < factor := Nat.cast_pos.mpr positive
    simp only [Window.total_scaled, dark, one, mul_pos_iff_of_pos_left above, mul_div_assoc,
      mul_div_mul_left _ _ above.ne']
    split
    · rename_i bright
      have nonneg : (0 : ℝ) ≤ 1 / signal.total row + 1 / norm.total row :=
        add_nonneg (one_div_pos.mpr bright.1).le (one_div_pos.mpr bright.2).le
      -- The reciprocals of multiplied totals are divided, and so is their sum.
      rw [div_mul_eq_div_div_swap, div_mul_eq_div_div_swap, ← add_div, mul_pow, mul_pow,
        sqrt_sq nonneg, sqrt_sq (div_nonneg nonneg above.le), mul_div_assoc]
    · rw [zero_pow two_ne_zero, zero_div]

end EvaluationMethod

/-! ## 2. All rows -/

/-- Row by row, the values of two lists of estimates are added, and so are the squares of their
errors. -/
structure Added (first second both : List (Estimate ℝ)) : Prop where
  values : both.map (·.value) =
    List.zipWith (· + ·) (first.map (·.value)) (second.map (·.value))
  squares : both.map (·.error ^ 2) =
    List.zipWith (· + ·) (first.map (·.error ^ 2)) (second.map (·.error ^ 2))

/-- Row by row, the values are the same, and the squares of their errors are divided. -/
structure Sharpened (factor : Nat) (once often : List (Estimate ℝ)) : Prop where
  values : often.map (·.value) = once.map (·.value)
  squares : often.map (·.error ^ 2) = once.map fun e => e.error ^ 2 / (factor : ℝ)

/-- What adds up for two rows does so for tables of them. -/
theorem AddsUp.grids {f : List Nat → ℝ} (addsUp : AddsUp f) (a b : Grid Nat)
    (same : a.columns = b.columns) :
    (a.zipWith (· + ·) b same).rows.map f = List.zipWith (· + ·) (a.rows.map f) (b.rows.map f) := by
  refine List.ext_getElem (by simp [Grid.zipWith]) fun row _ inside => ?_
  simp only [List.length_zipWith, List.length_map, lt_min_iff] at inside
  simp only [Grid.zipWith, List.getElem_map, List.getElem_zipWith]
  refine addsUp _ _ ?_
  rw [a.rectangular _ (List.getElem_mem inside.1), same,
    b.rectangular _ (List.getElem_mem inside.2)]

namespace EvaluationMethod

variable {m : EvaluationMethod ℝ} {binWidth : ℝ} {params : ParamSet ℝ}

theorem evaluate_added
    (accumulating : ∀ columns estimate, m.estimator columns binWidth params = .ok estimate →
      Accumulating estimate) (a b : Grid Nat) (same : a.columns = b.columns) :
    (∃ f, m.evaluate a binWidth params = .error f ∧ m.evaluate b binWidth params = .error f ∧
      m.evaluate (a.zipWith (· + ·) b same) binWidth params = .error f) ∨
    ∃ first second both, m.evaluate a binWidth params = .ok first ∧
      m.evaluate b binWidth params = .ok second ∧
      m.evaluate (a.zipWith (· + ·) b same) binWidth params = .ok both ∧
      first.length = a.rowCount ∧ second.length = b.rowCount ∧ Added first second both := by
  obtain ⟨f, failed⟩ | ⟨estimate, found, done⟩ := m.evaluate_cases a.columns binWidth params
  · exact .inl ⟨f, failed a rfl, failed b same.symm, failed _ rfl⟩
  · have law := accumulating _ _ found
    refine .inr ⟨_, _, _, done a rfl, done b same.symm, done _ rfl, List.length_map _,
      List.length_map _, ?_, ?_⟩
    · simp only [List.map_map]
      exact law.values.grids a b same
    · simp only [List.map_map]
      exact law.squares.grids a b same

theorem evaluate_multiplied
    (relative : ∀ columns estimate, m.estimator columns binWidth params = .ok estimate →
      Relative estimate) (a : Grid Nat) {factor : Nat} (positive : 1 ≤ factor) :
    (∃ f, m.evaluate a binWidth params = .error f ∧
      m.evaluate (a.map (factor * ·)) binWidth params = .error f) ∨
    ∃ once often, m.evaluate a binWidth params = .ok once ∧
      m.evaluate (a.map (factor * ·)) binWidth params = .ok often ∧
      once.length = a.rowCount ∧ Sharpened factor once often := by
  obtain ⟨f, failed⟩ | ⟨estimate, found, done⟩ := m.evaluate_cases a.columns binWidth params
  · exact .inl ⟨f, failed a rfl, failed _ rfl⟩
  · have law := relative _ _ found
    refine .inr ⟨_, _, done a rfl, done _ rfl, List.length_map _, ?_, ?_⟩
    · simp only [Grid.map, List.map_map, Function.comp_def, law.values positive]
    · simp only [Grid.map, List.map_map, Function.comp_def, law.squares positive]

/-! ## 3. Methods of a registry -/

/-- The methods for sums and means. -/
theorem accumulating_of_find {extra : List String} {name : String}
    (kind : name ∈ ["sum", "mean", "mean_reference", "pass_through"])
    (known : (registry extra).find name = .ok m) (columns : Nat) (estimate : List Nat → Estimate ℝ)
    (found : m.estimator columns binWidth params = .ok estimate) : Accumulating estimate := by
  obtain ⟨own, rfl⟩ := basic_of_find known
  obtain ⟨resolved, made⟩ := rule_of_estimator found
  simp only [basic, List.mem_cons, List.not_mem_nil, or_false] at own
  rcases own with rfl | rfl | rfl | rfl | rfl
  · exact absurd kind (by decide)
  · exact accumulating_sum made
  · exact accumulating_mean made
  · exact accumulating_meanReference made
  · replace made : passThrough columns binWidth resolved = .ok estimate := made
    exact accumulating_passThrough made

/-- The method for normalised means. -/
theorem relative_of_find {extra : List String} (known : (registry extra).find "mean_norm" = .ok m)
    (columns : Nat) (estimate : List Nat → Estimate ℝ)
    (found : m.estimator columns binWidth params = .ok estimate) : Relative estimate := by
  obtain ⟨own, named⟩ := basic_of_find known
  obtain ⟨resolved, made⟩ := rule_of_estimator found
  simp only [basic, List.mem_cons, List.not_mem_nil, or_false] at own
  rcases own with rfl | rfl | rfl | rfl | rfl
  · exact relative_meanNorm made
  all_goals exact absurd named (by decide)

/-- Evaluation goes along with the accumulation of counts. By the methods for sums and means, the
sum of two tables is evaluated if each of them is, to the sums of the values with the sums of the
squares of their errors; by the method for normalised means, a multiplied table is evaluated if the
table is, to the same values with so many times smaller squares of their errors. Otherwise all fail
alike. -/
theorem evaluation_accumulates (extra : List String) (binWidth : ℝ) (params : ParamSet ℝ)
    (a : Grid Nat) :
    (∀ name ∈ ["sum", "mean", "mean_reference", "pass_through"], ∀ m : EvaluationMethod ℝ,
      (registry extra).find name = .ok m → ∀ (b : Grid Nat) (same : a.columns = b.columns),
        (∃ f, m.evaluate a binWidth params = .error f ∧ m.evaluate b binWidth params = .error f ∧
          m.evaluate (a.zipWith (· + ·) b same) binWidth params = .error f) ∨
        ∃ first second both, m.evaluate a binWidth params = .ok first ∧
          m.evaluate b binWidth params = .ok second ∧
          m.evaluate (a.zipWith (· + ·) b same) binWidth params = .ok both ∧
          first.length = a.rowCount ∧ second.length = b.rowCount ∧ Added first second both) ∧
    ∀ m : EvaluationMethod ℝ, (registry extra).find "mean_norm" = .ok m → ∀ factor : Nat,
      1 ≤ factor →
        (∃ f, m.evaluate a binWidth params = .error f ∧
          m.evaluate (a.map (factor * ·)) binWidth params = .error f) ∨
        ∃ once often, m.evaluate a binWidth params = .ok once ∧
          m.evaluate (a.map (factor * ·)) binWidth params = .ok often ∧
          once.length = a.rowCount ∧ Sharpened factor once often :=
  ⟨fun _ kind _ known b same => evaluate_added (accumulating_of_find kind known) a b same,
    fun _ known _ positive => evaluate_multiplied (relative_of_find known) a positive⟩

/-- Two bins of signal, a bin between and two bins of norm. The second row has no signal, and the
third one has no norm. -/
def darkRows : Grid Nat where
  rows := [[1, 2, 9, 4, 4], [0, 0, 1, 1, 1], [1, 1, 1, 0, 0]]
  columns := 5
  rectangular := by decide

theorem evaluation_accumulates_dark :
    "mean_reference" ∈ ["sum", "mean", "mean_reference", "pass_through"] ∧ 1 ≤ 3 ∧
    (∃ first both,
      evaluate ⟨"mean_reference", signalNormSchema, meanReference⟩ darkRows (1e-7 : ℝ) ∅ =
        .ok first ∧
      evaluate ⟨"mean_reference", signalNormSchema, meanReference⟩
        (darkRows.zipWith (· + ·) darkRows rfl) (1e-7 : ℝ) ∅ = .ok both ∧
      first.map (·.value) = [-5 / 2, -1, 1] ∧ Added first first both) ∧
    ∃ once often,
      evaluate ⟨"mean_norm", signalNormSchema, meanNorm⟩ darkRows (1e-7 : ℝ) ∅ = .ok once ∧
      evaluate ⟨"mean_norm", signalNormSchema, meanNorm⟩ (darkRows.map (3 * ·)) (1e-7 : ℝ) ∅ =
        .ok often ∧
      once.map (·.value) = [3 / 8, 0, 0] ∧ Sharpened 3 once often := by
  have kind : "mean_reference" ∈ ["sum", "mean", "mean_reference", "pass_through"] := by decide
  have wide : (0.0 : ℝ) < 1e-7 := by norm_num
  have two : (Scalar.ofNat 2 : ℝ) = 2 := rfl
  have signal : Window.ofParams .signal 5 (1e-7 : ℝ) signalNormSchema.defaults = .ok ⟨0, 2⟩ :=
    Window.ofParams_of_bins 0.0 200e-9 rfl rfl (by norm_num) (by norm_num) (by decide) (by decide)
  have norm : Window.ofParams .norm 5 (1e-7 : ℝ) signalNormSchema.defaults = .ok ⟨3, 5⟩ :=
    Window.ofParams_of_bins 300e-9 500e-9 rfl rfl (by norm_num) (by norm_num) (by decide)
      (by decide)
  have evaluated (name : String) (rule : EvaluationRule ℝ) :
      evaluate ⟨name, signalNormSchema, rule⟩ darkRows (1e-7 : ℝ) ∅ =
        (rule 5 1e-7 signalNormSchema.defaults).map darkRows.rows.map := by
    rw [evaluate_eq, estimator, if_pos wide]
    rfl
  have differences := evaluated "mean_reference" meanReference
  rw [meanReference, signal, ok_bind, norm] at differences
  have ratios := evaluated "mean_norm" meanNorm
  rw [meanNorm, signal, ok_bind, norm] at ratios
  obtain ⟨adds, multiplies⟩ := evaluation_accumulates [] 1e-7 ∅ darkRows
  refine ⟨kind, by decide, ?_, ?_⟩
  · obtain ⟨f, failed, -⟩ | ⟨first, second, both, ran, again, summed, -, -, added⟩ :=
      adds _ kind _ ((Registry.find_builtin_iff ..).mpr rfl) darkRows rfl
    · cases differences.symm.trans failed
    · obtain rfl : first = second := Except.ok.inj (ran.symm.trans again)
      refine ⟨first, both, ran, summed, ?_, added⟩
      rw [← Except.ok.inj (differences.symm.trans ran)]
      norm_num [darkRows, Window.total_eq, Window.counted, Window.bins, two]
  · obtain ⟨f, failed, -⟩ | ⟨once, often, ran, again, -, sharpened⟩ :=
      multiplies _ ((Registry.find_builtin_iff ..).mpr rfl) 3 (by decide)
    · cases ratios.symm.trans failed
    · refine ⟨once, often, ran, again, ?_, sharpened⟩
      rw [← Except.ok.inj (ratios.symm.trans ran)]
      norm_num [darkRows, Window.total_eq, Window.counted, Window.bins, two]

end EvaluationMethod

end PulseBench
