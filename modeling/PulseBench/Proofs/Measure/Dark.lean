import Mathlib.Analysis.Real.Sqrt
import PulseBench.Measure.Refresh
import PulseBench.Proofs.Evaluation.Selected

/-!
# Lasers without counts

A refresh in which no laser has any count is not evaluated: all estimates are zero. This shortcut is
not seen from outside. Wherever the selected method gives estimates of dark lasers, these are zero,
for quotients, roots and empty tables as well. The shortcut only gives a result also where the
method would fail.

The counts of a window are added up exactly over the reals, so this is where the methods are
compared.

Results:
1. `Window.total_dark`, `dim_sum`, `dim_mean`, `dim_meanNorm`, `dim_meanReference`,
   `dim_passThrough`: rows without counts.
2. `evaluate_dark`: tables without counts.
3. `dark_lasers_evaluated_alike`: the shortcut.
4. `evaluateLasers_reordered`: a refresh of picked lasers.
-/

namespace PulseBench

/-! ## 1. Dark rows -/

/-- Nothing was counted. -/
def Dark (row : List Nat) : Prop := ∀ count ∈ row, count = 0

/-- The estimate of a row without counts is zero, and so is its error. -/
def Dim (estimate : List Nat → Estimate ℝ) : Prop := ∀ row, Dark row → estimate row = .zero

namespace Window

theorem total_dark (w : Window) {row : List Nat} (dark : Dark row) : (w.total row : ℝ) = 0 := by
  have inside : w.counted row = 0 := List.sum_eq_zero fun count member =>
    dark count (List.mem_of_mem_take (List.mem_of_mem_drop member))
  rw [total_eq, inside, Nat.cast_zero]

end Window

theorem Estimate.zero_eq : (Estimate.zero : Estimate ℝ) = ⟨0, 0⟩ := by
  have dark : (0.0 : ℝ) = 0 := Scalar.Reading.real.zero
  rw [Estimate.zero, dark]

namespace EvaluationMethod

variable {columns : Nat} {binWidth : ℝ} {params : ParamSet ℝ} {estimate : List Nat → Estimate ℝ}

theorem sqrt_zero : (Analytic.sqrt 0 : ℝ) = 0 := Real.sqrt_zero

theorem dim_sum (found : sum columns binWidth params = .ok estimate) : Dim estimate := by
  obtain ⟨signal, -, made⟩ := bind_eq_ok.mp found
  cases made
  intro row dark
  simp only [signal.total_dark dark, sqrt_zero, Estimate.zero_eq]

theorem dim_mean (found : mean columns binWidth params = .ok estimate) : Dim estimate := by
  obtain ⟨signal, -, made⟩ := bind_eq_ok.mp found
  cases made
  intro row dark
  simp only [signal.total_dark dark, sqrt_zero, zero_div, Estimate.zero_eq]

theorem dim_meanReference (found : meanReference columns binWidth params = .ok estimate) :
    Dim estimate := by
  obtain ⟨signal, -, rest⟩ := bind_eq_ok.mp found
  obtain ⟨norm, -, made⟩ := bind_eq_ok.mp rest
  cases made
  intro row dark
  simp only [signal.total_dark dark, norm.total_dark dark, zero_div, sub_zero, add_zero, sqrt_zero,
    Estimate.zero_eq]

/-- Without norm there is no quotient. -/
theorem dim_meanNorm (found : meanNorm columns binWidth params = .ok estimate) : Dim estimate := by
  obtain ⟨signal, -, rest⟩ := bind_eq_ok.mp found
  obtain ⟨norm, -, made⟩ := bind_eq_ok.mp rest
  cases made
  intro row dark
  have none : ¬ (0.0 : ℝ) < 0 := by norm_num
  simp only [signal.total_dark dark, norm.total_dark dark, none, false_and, if_false]
  rfl

theorem dim_passThrough (found : passThrough columns binWidth params = .ok estimate) :
    Dim estimate := by
  cases found
  intro row dark
  by_cases empty : columns = 0
  · exact if_pos empty
  · refine (if_neg empty).trans ?_
    rw [Window.total_dark _ dark, zero_div]
    exact congrArg (Estimate.mk 0) Scalar.Reading.real.zero |>.trans Estimate.zero_eq.symm

/-- All methods of a registry. -/
theorem dim_of_find {extra : List String} {name : String} {m : EvaluationMethod ℝ}
    (known : (registry extra).find name = .ok m)
    (found : m.estimator columns binWidth params = .ok estimate) : Dim estimate := by
  obtain ⟨own, rfl⟩ := basic_of_find known
  obtain ⟨resolved, made⟩ := rule_of_estimator found
  simp only [basic, List.mem_cons, List.not_mem_nil, or_false] at own
  rcases own with rfl | rfl | rfl | rfl | rfl
  · exact dim_meanNorm made
  · exact dim_sum made
  · exact dim_mean made
  · exact dim_meanReference made
  · replace made : passThrough columns binWidth resolved = .ok estimate := made
    exact dim_passThrough made

/-! ## 2. Dark tables -/

/-- Estimates of a table without counts are zero, if there are any. -/
theorem evaluate_dark {extra : List String} {name : String} {m : EvaluationMethod ℝ}
    (known : (registry extra).find name = .ok m) {lasers : Grid Nat} (dark : Dark lasers.values)
    {estimates : List (Estimate ℝ)} (done : m.evaluate lasers binWidth params = .ok estimates) :
    estimates = List.replicate lasers.rowCount .zero := by
  rw [evaluate_eq] at done
  cases found : m.estimator lasers.columns binWidth params with
  | error f => rw [found] at done; cases done
  | ok estimate =>
    rw [found] at done
    cases done
    refine List.eq_replicate_iff.mpr ⟨List.length_map estimate, fun e member => ?_⟩
    obtain ⟨row, own, rfl⟩ := List.mem_map.mp member
    exact dim_of_find known found row fun count counted =>
      dark count (List.mem_flatten.mpr ⟨row, own, counted⟩)

end EvaluationMethod

/-! ## 3. The shortcut -/

namespace Measurement

variable {κ μ : Type} {extra : List String} {lasers : Grid Nat}

theorem evaluateLasers_of_dark (m : Measurement ℝ κ μ) (dark : Dark lasers.values) :
    m.evaluateLasers lasers = .ok (List.replicate lasers.rowCount .zero) :=
  if_pos (List.all_eq_true.mpr fun count member => beq_iff_eq.mpr (dark count member))

theorem evaluateLasers_of_lit (m : Measurement ℝ κ μ) (lit : ¬ Dark lasers.values) :
    m.evaluateLasers lasers = (do
      let evaluation ← m.evaluation.method
      let params ← m.evaluation.parameters
      EvaluationMethod.evaluate evaluation lasers m.counterSettings.binWidth params) :=
  if_neg fun all => lit fun count member => beq_iff_eq.mp (List.all_eq_true.mp all count member)

/-- A refresh gives what the selected method gives, if that gives anything. -/
theorem evaluateLasers_of_evaluate {m : Measurement ℝ κ μ}
    (methods : m.evaluation.registry = EvaluationMethod.registry extra)
    {method : EvaluationMethod ℝ} (selected : m.evaluation.method = .ok method)
    {params : ParamSet ℝ} (stored : m.evaluation.parameters = .ok params)
    {estimates : List (Estimate ℝ)}
    (done : method.evaluate lasers m.counterSettings.binWidth params = .ok estimates) :
    m.evaluateLasers lasers = .ok estimates := by
  by_cases dark : Dark lasers.values
  · have known : (EvaluationMethod.registry extra).find m.evaluation.current = .ok method :=
      methods ▸ selected
    rw [evaluateLasers_of_dark m dark, EvaluationMethod.evaluate_dark known dark done]
  · rw [evaluateLasers_of_lit m dark, selected, stored]
    exact done

/-- Whatever method of a registry evaluates lasers without counts, with any bin width and any
parameters: if it gives estimates, all of them are zero, with errors that are zero. These are what a
refresh makes of the lasers without asking any method. -/
theorem dark_lasers_evaluated_alike (extra : List String) {name : String}
    {method : EvaluationMethod ℝ}
    (known : (EvaluationMethod.registry extra).find name = .ok method) (binWidth : ℝ)
    (params : ParamSet ℝ) {lasers : Grid Nat} (dark : ∀ count ∈ lasers.values, count = 0)
    {estimates : List (Estimate ℝ)} (done : method.evaluate lasers binWidth params = .ok estimates) :
    estimates = List.replicate lasers.rowCount .zero ∧
      ∀ m : Measurement ℝ κ μ, m.evaluateLasers lasers = .ok estimates := by
  have zeros := EvaluationMethod.evaluate_dark known dark done
  exact ⟨zeros, fun m => zeros ▸ evaluateLasers_of_dark m dark⟩

/-- Two lasers of five bins each. -/
def darkTable : Grid Nat := .fill 2 5 0

open EvaluationMethod (evaluate evaluate_eq estimator registry meanNorm signalNormSchema) in
/-- By the method that divides by the norm. -/
theorem dark_lasers_evaluated_alike_darkTable :
    (∀ count ∈ darkTable.values, count = 0) ∧ ∃ estimates : List (Estimate ℝ),
      evaluate ⟨"mean_norm", signalNormSchema, meanNorm⟩ darkTable 1e-7 ∅ = .ok estimates ∧
        estimates = [.zero, .zero] := by
  have dark : ∀ count ∈ darkTable.values, count = 0 := by decide
  have known : (registry []).find "mean_norm" =
      .ok (⟨"mean_norm", signalNormSchema, meanNorm⟩ : EvaluationMethod ℝ) :=
    (Registry.find_builtin_iff ..).mpr rfl
  have wide : (0.0 : ℝ) < 1e-7 := by norm_num
  have signal : Window.ofParams .signal 5 (1e-7 : ℝ) signalNormSchema.defaults = .ok ⟨0, 2⟩ :=
    Window.ofParams_of_bins 0.0 200e-9 rfl rfl (by norm_num) (by norm_num) (by decide) (by decide)
  have norm : Window.ofParams .norm 5 (1e-7 : ℝ) signalNormSchema.defaults = .ok ⟨3, 5⟩ :=
    Window.ofParams_of_bins 300e-9 500e-9 rfl rfl (by norm_num) (by norm_num) (by decide)
      (by decide)
  obtain ⟨estimates, done⟩ : ∃ estimates : List (Estimate ℝ),
      evaluate ⟨"mean_norm", signalNormSchema, meanNorm⟩ darkTable 1e-7 ∅ = .ok estimates := by
    have evaluated : evaluate ⟨"mean_norm", signalNormSchema, meanNorm⟩ darkTable (1e-7 : ℝ) ∅ =
        (meanNorm 5 1e-7 signalNormSchema.defaults).map darkTable.rows.map := by
      rw [evaluate_eq, estimator, if_pos wide]
      rfl
    rw [meanNorm, signal, ok_bind, norm] at evaluated
    exact ⟨_, evaluated⟩
  have zeros := dark_lasers_evaluated_alike (κ := Unit) (μ := Unit) [] known 1e-7 ∅ dark done
  exact ⟨dark, estimates, done, zeros.1⟩

/-! ## 4. Picked lasers -/

/-- Lasers that are picked from dark ones are dark. -/
theorem dark_reordered (dark : Dark lasers.values) (order : List Nat) :
    Dark (lasers.reordered order).values := by
  intro count counted
  obtain ⟨row, picked, member⟩ := List.mem_flatten.mp counted
  obtain ⟨i, -, here⟩ := List.mem_filterMap.mp picked
  exact dark count (List.mem_flatten.mpr ⟨row, List.mem_of_getElem? here, member⟩)

/-- If the lasers of a refresh can be evaluated then so can any of them, each to the same estimate;
also if only lasers without counts are left. -/
theorem evaluateLasers_reordered {m : Measurement ℝ κ μ}
    (methods : m.evaluation.registry = EvaluationMethod.registry extra) (order : List Nat)
    {whole : List (Estimate ℝ)} (done : m.evaluateLasers lasers = .ok whole) :
    m.evaluateLasers (lasers.reordered order) = .ok (order.filterMap (whole[·]?)) := by
  by_cases dark : Dark lasers.values
  · rw [evaluateLasers_of_dark m dark] at done
    cases done
    have zeros : List.replicate lasers.rowCount (.zero : Estimate ℝ) =
        lasers.rows.map fun _ => .zero := List.map_const'.symm
    rw [evaluateLasers_of_dark m (dark_reordered dark order), zeros, filterMap_getElem?_map,
      List.map_const']
    rfl
  · obtain ⟨method, selected, rest⟩ := bind_eq_ok.mp (evaluateLasers_of_lit m dark ▸ done)
    obtain ⟨params, stored, evaluated⟩ := bind_eq_ok.mp rest
    refine evaluateLasers_of_evaluate methods selected stored ?_
    rw [EvaluationMethod.evaluate_reordered, evaluated]
    rfl

theorem length_evaluateLasers {m : Measurement ℝ κ μ} {whole : List (Estimate ℝ)}
    (done : m.evaluateLasers lasers = .ok whole) : whole.length = lasers.rowCount := by
  by_cases dark : Dark lasers.values
  · rw [evaluateLasers_of_dark m dark] at done
    cases done
    exact List.length_replicate
  · obtain ⟨method, -, rest⟩ := bind_eq_ok.mp (evaluateLasers_of_lit m dark ▸ done)
    obtain ⟨params, -, evaluated⟩ := bind_eq_ok.mp rest
    exact EvaluationMethod.length_evaluate evaluated

/-- So a refresh that ignores lasers arranges what it would arrange if they had never been there. -/
theorem arrange_evaluateLasers_kept {m : Measurement ℝ κ μ}
    (methods : m.evaluation.registry = EvaluationMethod.registry extra)
    {whole : List (Estimate ℝ)} (done : m.evaluateLasers lasers = .ok whole) :
    (m.evaluateLasers (lasers.kept m.settings.ignored) >>=
        MeasurementSettings.arrange { m.settings with ignored := [] }) =
      m.settings.arrange whole := by
  rw [Grid.kept, evaluateLasers_reordered methods _ done, ← length_evaluateLasers done, ← keptItems_eq]
  exact m.settings.arrange_keptItems whole

end Measurement

end PulseBench
