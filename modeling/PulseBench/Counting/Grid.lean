/-!
# Tables

A `Grid` has rows of equal length; the number of columns is known even if there is no row. Counts
by gate or by laser and time bin are grids, and so are signals by row and point.
-/

namespace PulseBench

structure Grid (β : Type) where
  rows : List (List β)
  columns : Nat
  rectangular : ∀ row ∈ rows, row.length = columns
deriving DecidableEq

namespace Grid

variable {β γ : Type}

instance [BEq β] : BEq (Grid β) where
  beq a b := a.rows == b.rows && a.columns == b.columns

/-- The grid of the values at row and column. -/
def ofFn (rowCount columns : Nat) (value : Nat → Nat → β) : Grid β where
  rows := (List.range rowCount).map fun row => (List.range columns).map (value row)
  columns := columns
  rectangular := by simp

/-- The grid of some rows; none unless they are equally long. -/
def ofRows? (rows : List (List β)) : Option (Grid β) :=
  let columns := (rows.head?.map List.length).getD 0
  if h : ∀ row ∈ rows, row.length = columns then some ⟨rows, columns, h⟩ else none

/-- A grid with the same row throughout. -/
def repeated (rowCount : Nat) (row : List β) : Grid β where
  rows := List.replicate rowCount row
  columns := row.length
  rectangular := by simp +contextual [List.mem_replicate]

/-- A grid with the same value throughout. -/
def fill (rowCount columns : Nat) (value : β) : Grid β where
  rows := List.replicate rowCount (List.replicate columns value)
  columns := columns
  rectangular := by simp +contextual [List.mem_replicate]

instance : Inhabited (Grid β) := ⟨[], 0, by simp⟩

def rowCount (g : Grid β) : Nat := g.rows.length

/-- Number of rows and of columns. -/
def shape (g : Grid β) : Nat × Nat := (g.rowCount, g.columns)

/-- All values, row by row. -/
def values (g : Grid β) : List β := g.rows.flatten

/-- Combines two grids value by value. -/
def zipWith (f : β → β → γ) (a b : Grid β) (same : a.columns = b.columns) : Grid γ where
  rows := List.zipWith (List.zipWith f) a.rows b.rows
  columns := a.columns
  rectangular := by
    intro row h
    obtain ⟨i, hi, rfl⟩ := List.mem_iff_getElem.mp h
    obtain ⟨inA, inB⟩ : i < a.rows.length ∧ i < b.rows.length := by
      simpa [List.length_zipWith, Nat.lt_min] using hi
    have ha : (a.rows[i]).length = a.columns := a.rectangular _ (List.getElem_mem inA)
    have hb : (b.rows[i]).length = b.columns := b.rectangular _ (List.getElem_mem inB)
    simp [ha, hb, same]

/-- The columns from `start` up to, but not including, `stop`. -/
def slice (g : Grid β) (start stop : Nat) : Grid β where
  rows := g.rows.map fun row => (row.take stop).drop start
  columns := min stop g.columns - start
  rectangular := by
    intro row h
    obtain ⟨whole, hw, rfl⟩ := List.mem_map.mp h
    simp [g.rectangular whole hw]

/-- The sums of the columns. -/
def columnSums (g : Grid Nat) : List Nat :=
  g.rows.foldl (List.zipWith (· + ·)) (List.replicate g.columns 0)

end Grid

end PulseBench
