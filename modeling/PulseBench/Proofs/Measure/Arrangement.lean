import Mathlib.Data.List.Basic
import PulseBench.Measure.Data
import PulseBench.Proofs.Exact

/-!
# Estimates over the axis

The lasers that are not ignored are counted through, and dealt to the points of the
axis in that order: as many to each point as there are rows. An ignored laser may be
named from the front or from the back, and more than once; a number that names no laser
is of no account. All of this is in `keptLasers`, which only looks at numbers.

Results:
1. `keptItems_map_some`: the items that are kept are those of the kept lasers.
2. `cell?_dealt`, `columnwise_dealt`: a dealt grid by its cells, and column by column.
3. `every_kept_laser_once`: estimates over the axis.
-/

namespace PulseBench

variable {α β γ : Type}

/-! ## 1. Kept lasers -/

/-- The lasers out of `count` that the list does not name, neither from the front nor from the
back. -/
def keptLasers (ignored : List Int) (count : Nat) : List Nat :=
  (List.range count).filter fun laser =>
    decide ((laser : Int) ∉ ignored ∧ (laser : Int) - count ∉ ignored)

theorem not_isIgnored (ignored : List Int) (count laser : Nat) :
    (!isIgnored ignored count laser) =
      decide ((laser : Int) ∉ ignored ∧ (laser : Int) - count ∉ ignored) := by
  rw [Bool.eq_iff_iff, Bool.not_eq_true', decide_eq_true_iff, isIgnored, List.any_eq_false]
  simp only [Bool.or_eq_true, beq_iff_eq, not_or]
  constructor
  · exact fun absent => ⟨fun named => (absent _ named).1 rfl, fun named => (absent _ named).2 rfl⟩
  · exact fun ⟨front, back⟩ i named =>
      ⟨fun same => front (same ▸ named), fun same => back (same ▸ named)⟩

theorem keptLasers_nil (count : Nat) : keptLasers [] count = List.range count :=
  List.filter_eq_self.mpr fun _ _ => decide_eq_true ⟨List.not_mem_nil, List.not_mem_nil⟩

theorem keptItems_map_some (ignored : List Int) (items : List β) :
    (keptItems ignored items).map some =
      (keptLasers ignored items.length).map fun laser => items[laser]? := by
  -- The numbers beside the kept items are the kept lasers.
  have numbers : (items.zipIdx.filter fun numbered =>
      !isIgnored ignored items.length numbered.2).map Prod.snd =
        keptLasers ignored items.length := by
    rw [keptLasers, List.range_eq_range', ← List.zipIdx_map_snd 0 items, List.filter_map]
    simp only [not_isIgnored]
    rfl
  rw [keptItems, List.map_map, ← numbers, List.map_map]
  refine List.map_congr_left fun numbered member => ?_
  exact (List.mk_mem_zipIdx_iff_getElem?.mp (List.mem_filter.mp member).1).symm

theorem keptItems_nil (items : List β) : keptItems [] items = items := by
  have all := List.filter_eq_self.mpr fun (numbered : β × Nat) (_ : numbered ∈ items.zipIdx) =>
    (rfl : (!isIgnored [] items.length numbered.2) = true)
  exact (congrArg (List.map Prod.fst) all).trans (List.zipIdx_map_fst 0 items)

theorem length_keptItems (ignored : List Int) (items : List β) :
    (keptItems ignored items).length = (keptLasers ignored items.length).length := by
  have same := congrArg List.length (keptItems_map_some ignored items)
  rwa [List.length_map, List.length_map] at same

theorem exists_kept {ignored : List Int} (items : List β) {place : Nat}
    (within : place < (keptLasers ignored items.length).length) :
    ∃ laser item, (keptLasers ignored items.length)[place]? = some laser ∧
      items[laser]? = some item ∧ (keptItems ignored items)[place]? = some item := by
  have same := congrArg (·[place]?) (keptItems_map_some ignored items)
  simp only [List.getElem?_map] at same
  obtain ⟨item, kept⟩ : ∃ item, (keptItems ignored items)[place]? = some item :=
    ⟨_, List.getElem?_eq_getElem (length_keptItems ignored items ▸ within)⟩
  obtain ⟨laser, numbered⟩ : ∃ laser, (keptLasers ignored items.length)[place]? = some laser :=
    ⟨_, List.getElem?_eq_getElem within⟩
  rw [kept, numbered] at same
  exact ⟨laser, item, numbered, (Option.some.inj same).symm, kept⟩

/-! ## 2. Dealt grids -/

namespace Grid

/-- The value at a row and a column. -/
def cell? (g : Grid β) (row column : Nat) : Option β := g.rows[row]?.bind (·[column]?)

/-- All values, column by column. -/
def columnwise (g : Grid β) : List β :=
  (List.range g.columns).flatMap fun column => g.rows.filterMap (·[column]?)

theorem cell?_ofFn {rowCount columns : Nat} (value : Nat → Nat → β) {row column : Nat}
    (inRows : row < rowCount) (inColumns : column < columns) :
    (ofFn rowCount columns value).cell? row column = some (value row column) := by
  simp [cell?, ofFn, inRows, inColumns]

theorem columnwise_ofFn (rowCount columns : Nat) (value : Nat → Nat → β) :
    (ofFn rowCount columns value).columnwise =
      (List.range columns).flatMap fun column => (List.range rowCount).map (value · column) := by
  refine List.flatMap_congr fun column member => ?_
  rw [ofFn, List.filterMap_map, ← List.filterMap_eq_map]
  refine List.filterMap_congr fun row _ => ?_
  have inColumns : column < columns := List.mem_range.mp member
  simp [inColumns]

end Grid

/-- Counting through groups of equal size, and through each of them, is counting through all. -/
theorem flatMap_range_map (groups size : Nat) (f : Nat → β) :
    (List.range groups).flatMap (fun group => (List.range size).map fun i => f (group * size + i)) =
      (List.range (groups * size)).map f := by
  induction groups with
  | zero => rw [Nat.zero_mul]; rfl
  | succ groups ih =>
    rw [List.range_succ, List.flatMap_append, ih, Nat.succ_mul, List.range_add, List.map_append,
      List.map_map, List.flatMap_singleton]
    rfl

theorem place_lt {rowCount columns row column : Nat} (inRows : row < rowCount)
    (inColumns : column < columns) : column * rowCount + row < rowCount * columns := by
  have below : (column + 1) * rowCount ≤ columns * rowCount :=
    Nat.mul_le_mul_right rowCount inColumns
  rw [Nat.succ_mul] at below
  rw [Nat.mul_comm rowCount]
  omega

theorem getElem?_flatMap_range {groups size group i : Nat} (value : Nat → Nat → β)
    (inSize : i < size) (inGroups : group < groups) :
    ((List.range groups).flatMap fun group => (List.range size).map (value group))[group * size + i]? =
      some (value group i) := by
  have divided {i : Nat} (inSize : i < size) (group : Nat) :
      (group * size + i) / size = group ∧ (group * size + i) % size = i := by
    have positive : 0 < size := by omega
    rw [Nat.add_comm, Nat.add_mul_div_right _ _ positive, Nat.div_eq_of_lt inSize,
      Nat.add_mul_mod_self_right, Nat.mod_eq_of_lt inSize, Nat.zero_add]
    exact ⟨rfl, rfl⟩
  have counted : ((List.range groups).flatMap fun group => (List.range size).map (value group)) =
      (List.range (groups * size)).map fun place => value (place / size) (place % size) := by
    rw [← flatMap_range_map]
    refine List.flatMap_congr fun group _ => List.map_congr_left fun i member => ?_
    obtain ⟨quotient, remainder⟩ := divided (List.mem_range.mp member) group
    rw [quotient, remainder]
  obtain ⟨quotient, remainder⟩ := divided inSize group
  rw [counted, Nat.mul_comm groups, List.getElem?_map,
    List.getElem?_range (place_lt inSize inGroups), Option.map_some, quotient, remainder]

section Dealing

variable [Scalar α] {rowCount columns : Nat} {items : List α}

theorem shape_dealt (rowCount columns : Nat) (items : List α) :
    (dealt rowCount columns items).shape = (rowCount, columns) := by
  rw [Grid.shape, Grid.rowCount, dealt, Grid.ofFn, List.length_map, List.length_range]

theorem cell?_dealt (fits : items.length = rowCount * columns) {row column : Nat}
    (inRows : row < rowCount) (inColumns : column < columns) :
    (dealt rowCount columns items).cell? row column = items[column * rowCount + row]? := by
  have within : column * rowCount + row < items.length := fits ▸ place_lt inRows inColumns
  rw [dealt, Grid.cell?_ofFn _ inRows inColumns, List.getElem?_eq_getElem within]
  simp [within]

/-- Column by column nothing is lost, and nothing is moved. -/
theorem columnwise_dealt (fits : items.length = rowCount * columns) :
    (dealt rowCount columns items).columnwise = items := by
  have read := flatMap_range_map columns rowCount fun place => items.toArray.getD place 0.0
  rw [dealt, Grid.columnwise_ofFn, read, Nat.mul_comm, ← fits]
  refine List.ext_getElem (by simp) fun place _ within => ?_
  simp [within]

end Dealing

/-! ## 3. Estimates -/

namespace MeasurementSettings

variable [Scalar α]

/-- Estimates are arranged in the shape that the settings ask for. -/
theorem arrange_shape {s : MeasurementSettings α} {estimates : List (Estimate α)}
    {signal errors : Grid α} (arranged : s.arrange estimates = .ok (signal, errors)) :
    signal.shape = (s.rowCount, s.axis.length) ∧ errors.shape = (s.rowCount, s.axis.length) := by
  unfold arrange at arranged
  dsimp only at arranged
  split at arranged
  · cases arranged
    exact ⟨shape_dealt _ _ _, shape_dealt _ _ _⟩
  · cases arranged

/-- Estimates that fit are dealt; all others are refused. -/
theorem arrange_eq (s : MeasurementSettings α) (estimates : List (Estimate α)) :
    s.arrange estimates =
      if (keptLasers s.ignored estimates.length).length = s.rowCount * s.axis.length then
        .ok (dealt s.rowCount s.axis.length ((keptItems s.ignored estimates).map Estimate.value),
          dealt s.rowCount s.axis.length ((keptItems s.ignored estimates).map Estimate.error))
      else
        .error (.data (.arrangement (keptLasers s.ignored estimates.length).length s.axis.length
          s.alternating)) := by
  rw [← length_keptItems]
  rfl

/-- A part of the estimates, dealt by itself, is found where its laser was dealt to. -/
theorem cell?_dealt_kept {s : MeasurementSettings α} {estimates : List (Estimate α)}
    (fits : (keptLasers s.ignored estimates.length).length = s.rowCount * s.axis.length)
    (part : Estimate α → α) {row point : Nat} (inRows : row < s.rowCount)
    (onAxis : point < s.axis.length) :
    (dealt s.rowCount s.axis.length ((keptItems s.ignored estimates).map part)).cell? row point =
      (keptItems s.ignored estimates)[point * s.rowCount + row]?.map part := by
  rw [cell?_dealt (by rw [List.length_map, length_keptItems, fits]) inRows onAxis, List.getElem?_map]

theorem columnwise_dealt_kept {s : MeasurementSettings α} {estimates : List (Estimate α)}
    (fits : (keptLasers s.ignored estimates.length).length = s.rowCount * s.axis.length)
    (part : Estimate α → α) :
    (dealt s.rowCount s.axis.length
        ((keptItems s.ignored estimates).map part)).columnwise.map some =
      (keptLasers s.ignored estimates.length).map fun laser => estimates[laser]?.map part := by
  rw [columnwise_dealt (by rw [List.length_map, length_keptItems, fits])]
  calc ((keptItems s.ignored estimates).map part).map some
      = ((keptItems s.ignored estimates).map some).map (Option.map part) := by
        rw [List.map_map, List.map_map]
        rfl
    _ = _ := by
        rw [keptItems_map_some, List.map_map]
        rfl

/-- Estimates fit the settings if as many lasers are kept as there are cells. They are refused
otherwise. If they fit, every kept laser has its cell: as many as there are rows belong to a point,
and column by column they come in their order, each of them once. -/
theorem every_kept_laser_once (s : MeasurementSettings α) (estimates : List (Estimate α)) :
    let kept := keptLasers s.ignored estimates.length
    let rows := if s.alternating then 2 else 1
    let points := s.axis.length
    ((∃ f, s.arrange estimates = .error f ∧ f.kind = .processing) ↔ kept.length ≠ rows * points) ∧
    (kept.length = rows * points → ∃ signal errors, s.arrange estimates = .ok (signal, errors) ∧
      signal.shape = (rows, points) ∧ errors.shape = (rows, points) ∧
      (∀ row < rows, ∀ point < points, ∃ laser estimate,
        kept[point * rows + row]? = some laser ∧ estimates[laser]? = some estimate ∧
        signal.cell? row point = some estimate.value ∧
        errors.cell? row point = some estimate.error) ∧
      signal.columnwise.map some = kept.map (fun laser => estimates[laser]?.map Estimate.value) ∧
      errors.columnwise.map some =
        kept.map (fun laser => estimates[laser]?.map Estimate.error)) := by
  intro kept rows points
  have outcome := arrange_eq s estimates
  change _ = if kept.length = rows * points then _ else _ at outcome
  by_cases fits : kept.length = rows * points
  · rw [if_pos fits] at outcome
    refine ⟨⟨fun ⟨f, refused, _⟩ => ?_, fun misfit => absurd fits misfit⟩, fun _ => ?_⟩
    · rw [outcome] at refused
      cases refused
    · refine ⟨_, _, outcome, shape_dealt _ _ _, shape_dealt _ _ _, ?_,
        columnwise_dealt_kept fits _, columnwise_dealt_kept fits _⟩
      intro row inRows point onAxis
      obtain ⟨laser, estimate, numbered, measured, found⟩ :=
        exists_kept estimates (fits ▸ place_lt inRows onAxis : _ < kept.length)
      refine ⟨laser, estimate, numbered, measured, ?_, ?_⟩
      · exact (cell?_dealt_kept fits _ inRows onAxis).trans (congrArg (Option.map _) found)
      · exact (cell?_dealt_kept fits _ inRows onAxis).trans (congrArg (Option.map _) found)
  · rw [if_neg fits] at outcome
    exact ⟨⟨fun _ => fits, fun _ => ⟨_, outcome, rfl⟩⟩, fun fit => absurd fit fits⟩

/-- Two points, two laser pulses each. The last laser is ignored, named from the back, and so is the
second one, named from both ends; two numbers name no laser. -/
def sparing : MeasurementSettings ℚ :=
  { (.default : MeasurementSettings ℚ) with
    axis := [1, 2], ignored := [-1, 1, -5, 17, -7], alternating := true }

/-- Lasers that are valued by their number. -/
def numberedLasers : List (Estimate ℚ) := (List.range 6).map fun laser => ⟨laser, 1 / 10⟩

theorem every_kept_laser_once_sparing :
    keptLasers sparing.ignored numberedLasers.length = [0, 2, 3, 4] ∧
      ∃ signal errors, sparing.arrange numberedLasers = .ok (signal, errors) ∧
        signal.columnwise.map some = [some 0, some 2, some 3, some 4] ∧
        signal.cell? 1 0 = some 2 ∧ signal.cell? 0 1 = some 3 := by
  have kept : keptLasers sparing.ignored numberedLasers.length = [0, 2, 3, 4] := by decide
  obtain ⟨-, fits⟩ := every_kept_laser_once sparing numberedLasers
  rw [kept] at fits
  obtain ⟨signal, errors, arranged, -, -, cells, columns, -⟩ := fits rfl
  have read : [0, 2, 3, 4].map (fun laser => numberedLasers[laser]?.map Estimate.value) =
      [some 0, some 2, some 3, some 4] := by decide +kernel
  refine ⟨kept, signal, errors, arranged, columns.trans read, ?_, ?_⟩
  · obtain ⟨_, estimate, ⟨⟩, ⟨⟩, found, -⟩ := cells 1 (by decide) 0 (by decide)
    exact found
  · obtain ⟨_, estimate, ⟨⟩, ⟨⟩, found, -⟩ := cells 0 (by decide) 1 (by decide)
    exact found

end MeasurementSettings

end PulseBench
