import PulseBench.Proofs.Counting.Grid
import PulseBench.Proofs.Extraction.Smoothing
import PulseBench.Proofs.Extraction.Trains
import PulseBench.Proofs.Plugin.Declared

/-!
# Edges common to all gates

All gates are cut at the same two edges, and these are found in the sums of the columns. So
extraction from gates is a search in their sums, and then a cut that treats every gate alike: the
order of the gates shows in the order of the rows, and nowhere else. The edges are places of
slopes, and there are as many slopes as columns; so every cut stays within the gates.

The sums are whole numbers, which can be added in any order, and only then become numbers of the
type in which slopes are calculated. Nothing is asked of that type, so what is rounded or undefined
there does no harm.

Results:
1. `extremum_lt`, `steepestOf_lt`: edges are columns.
2. `extract_eq`: edges of the sums, and a cut.
3. `edges_of_sums`: the rule, and the method as it is found in a registry.
-/

namespace PulseBench

/-- The same pulses, with the rows of the gates in another order. -/
def Extraction.reordered (order : List Nat) (r : Extraction) : Extraction :=
  { r with counts := r.counts.reordered order }

namespace Gates

/-! ## 1. Edges are columns -/

section Edges

variable {α : Type}

/-- The extremum is one of the items. -/
theorem extremum_lt (beats : α → α → Bool) {items : List α} (filled : items ≠ []) :
    extremum beats items < items.length := by
  cases items with
  | nil => exact absurd rfl filled
  | cons first rest =>
    refine List.foldlRecOn (motive := fun best : α × Nat => best.2 < (first :: rest).length) _ _
      (Nat.succ_pos _) fun best inside numbered member => ?_
    dsimp only
    split
    · have here := (List.mem_zipIdx member).2.1
      rw [List.length_cons]
      omega
    · exact inside

theorem length_gradient [Scalar α] (data : List α) : (gradient data).length = data.length := by
  rw [gradient, List.length_map, List.length_range]

variable [Analytic α]

theorem length_smooth (deviation : α) (data : List α) :
    (smooth deviation data).length = data.length := by
  rw [smooth]
  split
  · rfl
  · exact length_convolve _ _ _

/-- The places of the steepest rise and fall of the smoothed sums. -/
def steepestOf (deviation : α) (sums : List Nat) : Nat × Nat :=
  steepest (gradient (smooth deviation (sums.map Scalar.ofNat)))

theorem steepestOf_lt (deviation : α) {sums : List Nat} (filled : 0 < sums.length) :
    (steepestOf deviation sums).1 < sums.length ∧ (steepestOf deviation sums).2 < sums.length := by
  let slopes := gradient (smooth deviation (sums.map Scalar.ofNat))
  have length : slopes.length = sums.length := by
    rw [length_gradient, length_smooth, List.length_map]
  have some : slopes ≠ [] := List.ne_nil_of_length_pos (length ▸ filled)
  have rise := extremum_lt (fun x best => decide (best < x)) some
  have fall := extremum_lt (fun x best => decide (x < best)) some
  rw [← length]
  exact ⟨rise, fall⟩

end Edges

/-! ## 2. Edges of the sums, and a cut -/

section Cut

variable {α : Type} [Analytic α]

/-- The edges that gates with these sums of columns have in common. -/
def edges (sums : List Nat) (params : ParamSet α) : Except (Failure α) (Nat × Nat) := do
  if sums.length < 2 then throw (.data .shortGates)
  let deviation ← params.number "conv_std_dev"
  let found := steepestOf deviation sums
  if found.2 ≤ found.1 then throw (.data (.noGatedPulse found.1 found.2))
  return found

theorem edges_of_wide {sums : List Nat} (wide : 2 ≤ sums.length) {params : ParamSet α} :
    edges sums params = params.number "conv_std_dev" >>= fun deviation =>
      let found := steepestOf deviation sums
      if found.2 ≤ found.1 then .error (.data (.noGatedPulse found.1 found.2)) else .ok found :=
  if_neg (not_lt.mpr wide)

/-- All gates between two edges. -/
def cut (gates : Grid Nat) (found : Nat × Nat) : Extraction :=
  ⟨gates.slice found.1 found.2, [found.1], [found.2]⟩

theorem extract_eq (gates : Grid Nat) (context : ExtractionContext α) (params : ParamSet α) :
    extract gates context params = (edges gates.columnSums params).map (cut gates) := by
  unfold extract edges
  rw [gates.length_columnSums]
  refine ite_eq_map Iff.rfl rfl (bind_eq_map fun deviation => ?_)
  exact ite_eq_map Iff.rfl rfl rfl

theorem cut_reordered (gates : Grid Nat) (order : List Nat) (found : Nat × Nat) :
    cut (gates.reordered order) found = (cut gates found).reordered order := by
  rw [cut, Grid.slice_reordered]
  rfl

end Cut

/-! ## 3. Extraction from gates -/

/-- All gates are cut from the column of one edge to the column of the other. -/
structure CutBetween (gates : Grid Nat) (rise fall : Nat) (r : Extraction) : Prop where
  rising : r.rising = [rise]
  falling : r.falling = [fall]
  rows : r.counts.rowCount = gates.rowCount
  columns : r.counts.columns = fall - rise
  cells : ∀ gate column : Nat, column < fall - rise →
    (r.counts.rows[gate]?.bind fun row => row[column]?) =
      gates.rows[gate]?.bind fun row => row[rise + column]?

theorem cutBetween_cut (gates : Grid Nat) {found : Nat × Nat} (within : found.2 < gates.columns) :
    CutBetween gates found.1 found.2 (cut gates found) where
  rising := rfl
  falling := rfl
  rows := List.length_map _
  columns := congrArg (· - found.1) (Nat.min_eq_left within.le)
  cells _ _ inside := gates.getElem?_slice _ _ inside

section Extracting

variable {α : Type} [Analytic α]

/-- Gates with the same sums of columns have the same edges, or fail alike. -/
theorem map_edges_extract {gates other : Grid Nat} (same : other.columnSums = gates.columnSums)
    (context : ExtractionContext α) (params : ParamSet α) :
    (extract other context params).map (fun r => (r.rising, r.falling)) =
      (extract gates context params).map fun r => (r.rising, r.falling) := by
  rw [extract_eq, extract_eq, same]
  cases edges gates.columnSums params with
  | error f => rfl
  | ok found => rfl

theorem extract_reordered {gates : Grid Nat} {order : List Nat}
    (every : order.Perm (List.range gates.rowCount)) (context : ExtractionContext α)
    (params : ParamSet α) :
    extract (gates.reordered order) context params =
      (extract gates context params).map (.reordered order) := by
  rw [extract_eq, extract_eq, Grid.columnSums_reordered every]
  cases edges gates.columnSums params with
  | error f => rfl
  | ok found => exact congrArg Except.ok (cut_reordered gates order found)

theorem extract_of_unread {gates : Grid Nat} (wide : 2 ≤ gates.columns)
    (context : ExtractionContext α) {params : ParamSet α} {f : Failure α}
    (unread : params.number "conv_std_dev" = .error f) :
    extract gates context params = .error f := by
  rw [extract_eq, edges_of_wide (wide.trans_eq gates.length_columnSums.symm), unread]
  rfl

/-- Gates are cut if the sums fall most steeply behind where they rise most steeply. -/
theorem extract_cases {gates : Grid Nat} (wide : 2 ≤ gates.columns)
    (context : ExtractionContext α) {params : ParamSet α} {deviation : α}
    (read : params.number "conv_std_dev" = .ok deviation) {rise fall : Nat}
    (steepest : steepestOf deviation gates.columnSums = (rise, fall)) :
    (fall ≤ rise ∧ extract gates context params = .error (.data (.noGatedPulse rise fall))) ∨
      rise < fall ∧ fall < gates.columns ∧
        ∃ r, extract gates context params = .ok r ∧ CutBetween gates rise fall r := by
  have columns := gates.length_columnSums
  have searched : edges gates.columnSums params =
      if fall ≤ rise then .error (.data (.noGatedPulse rise fall)) else .ok (rise, fall) := by
    rw [edges_of_wide (by omega), read]
    simp only [ok_bind, steepest]
  rw [extract_eq, searched]
  by_cases before : fall ≤ rise
  · rw [if_pos before]
    exact .inl ⟨before, rfl⟩
  · have inside : (steepestOf deviation gates.columnSums).2 < gates.columnSums.length :=
      (steepestOf_lt deviation (by omega)).2
    rw [steepest, columns] at inside
    rw [if_neg before]
    exact .inr ⟨not_le.mp before, inside, _, rfl, cutBetween_cut gates inside⟩

/-- The method for gates. -/
def method : ExtractionMethod α := ⟨"gated_conv_deriv", schema, .ofGates extract⟩

theorem find_method (extra : List String) :
    (ExtractionMethod.registry extra : Registry α (ExtractionRule α)).find "gated_conv_deriv" =
      .ok method :=
  (Registry.find_builtin_iff ..).mpr rfl

/-- Extraction from gates depends on them through the sums of their columns. By every set of
parameters with a deviation, all gates are cut, in their order, from the steepest rise of the
smoothed sums to their steepest fall if this is behind, and there is a failure to find a pulse if it
is not. Gates with the same sums have the same edges or fail alike, and if the gates are put in
another order then so are the rows. The method of this name does the same in every registry, by all
parameters that it accepts, and these have a deviation. -/
theorem edges_of_sums (gates : Grid Nat) (context : ExtractionContext α) (params : ParamSet α) :
    (2 ≤ gates.columns →
      (∃ f, params.number "conv_std_dev" = .error f ∧ extract gates context params = .error f) ∨
      ∃ deviation rise fall, params.number "conv_std_dev" = .ok deviation ∧
        steepestOf deviation gates.columnSums = (rise, fall) ∧
        ((fall ≤ rise ∧ ∃ f, extract gates context params = .error f ∧ f.kind = .processing) ∨
          rise < fall ∧ fall < gates.columns ∧
            ∃ r, extract gates context params = .ok r ∧ CutBetween gates rise fall r)) ∧
    (∀ other : Grid Nat, other.columnSums = gates.columnSums →
      (extract other context params).map (fun r => (r.rising, r.falling)) =
        (extract gates context params).map fun r => (r.rising, r.falling)) ∧
    (∀ order : List Nat, order.Perm (List.range gates.rowCount) →
      extract (gates.reordered order) context params =
        (extract gates context params).map (.reordered order)) ∧
    ∀ (extra : List String) (m : ExtractionMethod α),
      (ExtractionMethod.registry extra).find "gated_conv_deriv" = .ok m →
      (∀ resolved, 0.0 < context.binWidth → m.schema.resolve params = .ok resolved →
        m.extract (.gates gates) context params = extract gates context resolved ∧
          ∃ deviation, resolved.number "conv_std_dev" = .ok deviation) ∧
      ∀ order : List Nat, order.Perm (List.range gates.rowCount) →
        m.extract (.gates (gates.reordered order)) context params =
          (m.extract (.gates gates) context params).map (.reordered order) := by
  refine ⟨fun wide => ?_, fun other same => map_edges_extract same context params,
    fun order every => extract_reordered every context params, fun extra m found => ?_⟩
  · cases read : params.number "conv_std_dev" with
    | error f => exact .inl ⟨f, rfl, extract_of_unread wide context read⟩
    | ok deviation =>
      refine .inr ⟨deviation, _, _, rfl, rfl, ?_⟩
      exact (extract_cases wide context read rfl).imp_left fun ⟨before, failed⟩ =>
        ⟨before, _, failed, rfl⟩
  · obtain rfl : method = m := Except.ok.inj ((find_method extra).symm.trans found)
    refine ⟨fun resolved measured valid => ?_, fun order every => ?_⟩
    · replace valid : Schema.resolve schema params = .ok resolved := valid
      have distinct : (schema : Schema α).names.Nodup := List.nodup_singleton _
      have complete := Schema.completes_of_resolve distinct valid
      rw [method, ExtractionMethod.extract_gates, ExtractionMethod.accepted_eq measured valid,
        ok_bind]
      exact ⟨rfl, complete.real List.mem_cons_self⟩
    · rw [method, ExtractionMethod.extract_gates, ExtractionMethod.extract_gates]
      exact bind_eq_map fun resolved => extract_reordered every context resolved

/-- Three gates whose sums rise into the third column and fall behind the fourth, both by a slope
over two columns. -/
def threeGates : Grid Nat where
  rows := [[0, 0, 3, 4, 0, 1], [0, 1, 3, 2, 0, 0], [1, 0, 3, 3, 1, 0]]
  columns := 6
  rectangular := by decide

/-- No smoothing. -/
def unsmoothed : ParamSet ℚ := .ofList [("conv_std_dev", .real 0)]

/-- Of two equal slopes the first one counts. The gates are cut alike in every order. -/
theorem edges_of_sums_turned :
    2 ≤ threeGates.columns ∧ [2, 0, 1].Perm (List.range threeGates.rowCount) ∧
    ∃ r, extract threeGates ⟨1, 3, []⟩ unsmoothed = .ok r ∧ CutBetween threeGates 1 3 r ∧
      extract (threeGates.reordered [2, 0, 1]) ⟨1, 3, []⟩ unsmoothed = .ok (r.reordered [2, 0, 1]) ∧
      (r.reordered [2, 0, 1]).counts.rows = [[0, 3], [0, 3], [1, 3]] := by
  have wide : 2 ≤ threeGates.columns := by decide
  have turned : [2, 0, 1].Perm (List.range threeGates.rowCount) := by decide
  have read : unsmoothed.number "conv_std_dev" = .ok 0 := rfl
  have places : steepestOf (0 : ℚ) threeGates.columnSums = (1, 3) := by decide +kernel
  obtain ⟨found, -, everyOrder, -⟩ := edges_of_sums threeGates ⟨1, 3, []⟩ unsmoothed
  obtain ⟨f, unread, -⟩ | ⟨deviation, rise, fall, given, steepest, outcome⟩ := found wide
  · cases read.symm.trans unread
  obtain rfl : 0 = deviation := Except.ok.inj (read.symm.trans given)
  obtain ⟨rfl, rfl⟩ := Prod.mk.inj (places.symm.trans steepest)
  obtain ⟨before, -⟩ | ⟨-, -, r, extracted, between⟩ := outcome
  · exact absurd before (by decide)
  · have again := everyOrder [2, 0, 1] turned
    rw [extracted] at again
    refine ⟨wide, turned, r, extracted, between, again, ?_⟩
    have rows : (extract (threeGates.reordered [2, 0, 1]) ⟨1, 3, []⟩ unsmoothed).toOption.map
        (·.counts.rows) = some [[0, 3], [0, 3], [1, 3]] := by
      decide +kernel
    rw [again] at rows
    exact Option.some.inj rows

end Extracting

end Gates

end PulseBench
