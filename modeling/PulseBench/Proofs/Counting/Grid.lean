import Mathlib.Data.List.Perm.Basic
import PulseBench.Counting.Grid

/-!
# Tables changed as a whole

Two runs of a rule are compared by what is done to their tables: every value is changed in the
same way, or the rows are put in another order. Cutting columns out of a table does not interfere
with the order of its rows, and the sums of its columns do not depend on it.

Results:
1. `map`, `reordered`: changed tables.
2. `getElem?_slice`, `slice_reordered`: cutting columns out.
3. `length_columnSums`, `columnSums_reordered`: the sums of the columns.
-/

namespace PulseBench.Grid

variable {β γ : Type}

/-! ## 1. Changed tables -/

theorem eq_of_rows {a b : Grid β} (rows : a.rows = b.rows) (columns : a.columns = b.columns) :
    a = b := by
  obtain ⟨_, _, _⟩ := a
  obtain ⟨_, _, _⟩ := b
  cases rows
  cases columns
  rfl

/-- Every value changed in the same way. -/
def map (f : β → γ) (g : Grid β) : Grid γ where
  rows := g.rows.map (List.map f)
  columns := g.columns
  rectangular := by
    intro row member
    obtain ⟨whole, own, rfl⟩ := List.mem_map.mp member
    exact (List.length_map f).trans (g.rectangular whole own)

/-- The rows of the given numbers, in the given order. -/
def reordered (order : List Nat) (g : Grid β) : Grid β where
  rows := order.filterMap (g.rows[·]?)
  columns := g.columns
  rectangular := by
    intro row member
    obtain ⟨i, -, here⟩ := List.mem_filterMap.mp member
    exact g.rectangular row (List.mem_of_getElem? here)

theorem filterMap_range_getElem? (rows : List β) :
    (List.range rows.length).filterMap (rows[·]?) = rows := by
  have numbered : (List.range rows.length).map (rows[·]?) = rows.map some :=
    List.ext_getElem (by simp) fun i _ _ => by simp
  calc (List.range rows.length).filterMap (rows[·]?)
      = ((List.range rows.length).map (rows[·]?)).filterMap id := by
        rw [List.filterMap_map]
        rfl
    _ = (rows.map some).filterMap id := by rw [numbered]
    _ = rows := by
        rw [List.filterMap_map]
        exact List.filterMap_some

/-- Every row once, in another order. -/
theorem rows_reordered_perm {order : List Nat} {g : Grid β}
    (every : order.Perm (List.range g.rowCount)) : (g.reordered order).rows.Perm g.rows :=
  (every.filterMap (g.rows[·]?)).trans (.of_eq (filterMap_range_getElem? g.rows))

/-! ## 2. Columns -/

/-- The values of a cut table are those of the whole one. -/
theorem getElem?_slice (g : Grid β) (start stop : Nat) {row column : Nat}
    (inside : column < stop - start) :
    ((g.slice start stop).rows[row]?.bind (·[column]?)) =
      g.rows[row]?.bind (·[start + column]?) := by
  have place : start + column < stop := by omega
  rw [slice, List.getElem?_map, Option.bind_map]
  refine congrArg (Option.bind _) (funext fun whole => ?_)
  rw [Function.comp_apply, List.getElem?_drop, List.getElem?_take_of_lt place]

theorem slice_reordered (g : Grid β) (order : List Nat) (start stop : Nat) :
    (g.reordered order).slice start stop = (g.slice start stop).reordered order := by
  refine eq_of_rows ?_ rfl
  change (order.filterMap (g.rows[·]?)).map _ = order.filterMap ((g.rows.map _)[·]?)
  rw [List.map_filterMap]
  exact List.filterMap_congr fun i _ => List.getElem?_map.symm

/-! ## 3. Sums -/

theorem zipWith_add_right_comm (a b c : List Nat) :
    List.zipWith (· + ·) (List.zipWith (· + ·) a b) c =
      List.zipWith (· + ·) (List.zipWith (· + ·) a c) b := by
  refine List.ext_getElem (by simp only [List.length_zipWith]; omega) fun i _ _ => ?_
  simp only [List.getElem_zipWith]
  omega

instance : RightCommutative (List.zipWith (· + ·) : List Nat → List Nat → List Nat) where
  right_comm := zipWith_add_right_comm

theorem length_columnSums (g : Grid Nat) : g.columnSums.length = g.columns := by
  have kept {rows : List (List Nat)} (rectangular : ∀ row ∈ rows, row.length = g.columns)
      {start : List Nat} (fits : start.length = g.columns) :
      (rows.foldl (List.zipWith (· + ·)) start).length = g.columns := by
    induction rows generalizing start with
    | nil => exact fits
    | cons row rest ih =>
      refine ih (fun other member => rectangular other (List.mem_cons_of_mem _ member)) ?_
      rw [List.length_zipWith, fits, rectangular row List.mem_cons_self, Nat.min_self]
  exact kept g.rectangular List.length_replicate

/-- The sums of the columns do not depend on the order of the rows. -/
theorem columnSums_reordered {order : List Nat} {g : Grid Nat}
    (every : order.Perm (List.range g.rowCount)) :
    (g.reordered order).columnSums = g.columnSums :=
  (rows_reordered_perm every).foldl_eq _

end PulseBench.Grid
