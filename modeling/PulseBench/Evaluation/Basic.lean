import PulseBench.Counting.Grid
import PulseBench.Plugin.Registry

/-!
# Evaluating laser pulses

Evaluation turns the counts of each laser pulse into one value with an error. A rule first reads
its parameters and sees how long the rows are; what it then does to a row depends on that row only.
-/

namespace PulseBench

variable {α : Type}

/-- A value with its standard error. -/
structure Estimate (α : Type) where
  value : α
  error : α
deriving BEq

/-- Nothing counted, nothing estimated. -/
def Estimate.zero [Scalar α] : Estimate α := ⟨0.0, 0.0⟩

/-- What is done to each row, for a number of columns, a bin width in seconds, and parameters. -/
abbrev EvaluationRule (α : Type) :=
  Nat → α → ParamSet α → Except (Failure α) (List Nat → Estimate α)

/-- A method of evaluation. -/
abbrev EvaluationMethod (α : Type) := Method α (EvaluationRule α)

/-- Evaluates every row of a grid of counts. -/
def EvaluationMethod.evaluate [Scalar α] (m : EvaluationMethod α) (counts : Grid Nat)
    (binWidth : α) (params : ParamSet α) : Except (Failure α) (List (Estimate α)) := do
  unless 0.0 < binWidth do throw (.measure .binWidthNotPositive)
  let resolved ← m.schema.resolve params
  let estimate ← m.rule counts.columns binWidth resolved
  return counts.rows.map estimate

/-! ## Windows -/

/-- A part of every row, `stop` not included. -/
structure Window where
  start : Nat
  stop : Nat
deriving DecidableEq

namespace Window

/-- The number of bins. -/
def bins [Scalar α] (w : Window) : α := Scalar.ofNat (w.stop - w.start)

/-- The sum of the counts in the window. -/
def total [Scalar α] (w : Window) (row : List Nat) : α :=
  Scalar.balancedSum (((row.take w.stop).drop w.start).map Scalar.ofNat)

/-- The window that parameters describe in seconds. It ends where the rows end, and it must not be
empty. -/
def ofParams [Scalar α] (role : WindowRole) (columns : Nat) (binWidth : α) (params : ParamSet α) :
    Except (Failure α) Window := do
  let first ← params.number (role.word ++ "_start")
  let last ← params.number (role.word ++ "_end")
  let start := Scalar.toBins (first / binWidth)
  let stop := min (Scalar.toBins (last / binWidth)) columns
  if stop ≤ start then throw (.measure (.emptyWindow role start stop columns))
  return ⟨start, stop⟩

end Window

end PulseBench
