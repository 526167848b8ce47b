import PulseBench.Counting.Grid
import PulseBench.Failure

/-!
# Derived views of a signal

A measured signal has one row, or two rows if the measurement alternates, over a swept axis. Two
views are derived from it: the difference of the two rows, and the magnitude spectrum of each row
over the frequencies that belong to the axis.
-/

namespace PulseBench

variable {α : Type}

/-- A derived view. -/
structure View (α : Type) where
  kind : ViewKind
  /-- The axis itself for a difference, the frequencies for a spectrum. -/
  axis : List α
  rows : Grid α
deriving BEq

namespace View

/-! ## Difference -/

/-- The first row less the second, if there are two. -/
def delta? [Scalar α] (axis : List α) (signal : Grid α) : Option (View α) :=
  match h : signal.rows with
  | first :: second :: _ =>
      some ⟨.delta, axis, ⟨[List.zipWith (· - ·) first second], signal.columns, by
        have hf := signal.rectangular first (by simp [h])
        have hs := signal.rectangular second (by simp [h])
        simp [hf, hs]⟩⟩
  | _ => none

/-! ## Spectrum -/

def mean [Scalar α] (items : List α) : α := Scalar.balancedSum items / Scalar.ofNat items.length

/-- The length of a vector, without overflow on the way. -/
def magnitude [Analytic α] (re im : α) : α :=
  let larger := if Scalar.abs re < Scalar.abs im then Scalar.abs im else Scalar.abs re
  if 0.0 < larger ∧ Scalar.isFinite larger then
    larger * Analytic.sqrt ((re / larger) * (re / larger) + (im / larger) * (im / larger))
  else larger

/-- The magnitude of the Fourier component that turns `k` times over all items. -/
def component [Analytic α] (items : List α) (k : Nat) : α :=
  let size := items.length
  let angle (i : Nat) : α :=
    2.0 * Analytic.pi * Scalar.ofNat (i * k % size) / Scalar.ofNat size
  let part (wave : α → α) : α :=
    Scalar.sum (items.zipIdx.map fun (x, i) => x * wave (angle i))
  magnitude (part Analytic.cos) (part Analytic.sin)

/-- The number of frequencies that a spectrum of `size` points shows: zero and the positive ones
below half the sampling frequency. -/
def halfSize (size : Nat) : Nat := (size + 1) / 2

/-- The magnitudes of a row about its mean. -/
def magnitudes [Analytic α] (row : List α) : List α :=
  let centre := mean row
  let centred := row.map (· - centre)
  (List.range (halfSize row.length)).map (component centred)

/-- The frequencies of `size` points in equal steps. -/
def frequencies [Scalar α] (step : α) (size : Nat) : List α :=
  (List.range (halfSize size)).map fun k => Scalar.ofNat k / (Scalar.ofNat size * step)

/-- The spectrum of every row. -/
def spectrum [Analytic α] (step : α) (signal : Grid α) : View α where
  kind := .spectrum
  axis := if signal.rows.isEmpty then [] else frequencies step signal.columns
  rows :=
    { rows := signal.rows.map magnitudes
      columns := if signal.rows.isEmpty then 0 else halfSize signal.columns
      rectangular := by
        intro row h
        obtain ⟨whole, hw, rfl⟩ := List.mem_map.mp h
        have nonempty : signal.rows.isEmpty = false := by
          cases hr : signal.rows with
          | nil => simp [hr] at hw
          | cons _ _ => rfl
        simp [magnitudes, nonempty, signal.rectangular whole hw] }

/-- The spectrum over an axis of at least two points, one for each column. The axis has to move
from its first point to its second. -/
def spectrum? [Analytic α] (axis : List α) (signal : Grid α) :
    Except (Failure α) (Option (View α)) :=
  match axis with
  | first :: second :: _ =>
      if signal.columns ≠ axis.length then .ok none
      else
        let step := second - first
        if step == 0.0 || !Scalar.isFinite step then .error (.data .unevenAxis)
        else .ok (some (spectrum (Scalar.abs step) signal))
  | _ => .ok none

/-- The view of a kind; none if the signal can not carry it. -/
def of? [Analytic α] (kind : ViewKind) (axis : List α) (signal : Grid α) :
    Except (Failure α) (Option (View α)) :=
  match kind with
  | .none => .ok Option.none
  | .delta => .ok (delta? axis signal)
  | .spectrum => spectrum? axis signal

end View

end PulseBench
