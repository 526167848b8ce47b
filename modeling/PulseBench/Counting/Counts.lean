import PulseBench.Counting.Grid

/-!
# Photon counts

A counter without gates records one trace over time; a gated counter records a short trace for
every gate. Counts of the same shape can be added bin by bin.
-/

namespace PulseBench

/-- The counts of one acquisition. -/
inductive Counts where
  /-- Counts by time bin. -/
  | trace (bins : List Nat)
  /-- Counts by gate and time bin. -/
  | gates (grid : Grid Nat)
deriving DecidableEq

namespace Counts

/-- No counts; without gates, a trace. -/
def zeros (gateCount binCount : Nat) : Counts :=
  if gateCount = 0 then .trace (List.replicate binCount 0) else .gates (.fill gateCount binCount 0)

def isGated : Counts → Bool
  | .trace _ => false
  | .gates _ => true

/-- The number of bins, behind that of the gates if there are any. -/
def shape : Counts → List Nat
  | .trace bins => [bins.length]
  | .gates grid => [grid.rowCount, grid.columns]

/-- All counts, gate by gate. -/
def values : Counts → List Nat
  | .trace bins => bins
  | .gates grid => grid.values

def isZero (c : Counts) : Bool := c.values.all (· == 0)

def total (c : Counts) : Nat := c.values.foldl (· + ·) 0

/-- The sum bin by bin, if the shapes agree. -/
def add? : Counts → Counts → Option Counts
  | .trace a, .trace b => if a.length = b.length then some (.trace (a.zipWith (· + ·) b)) else none
  | .gates a, .gates b =>
      if h : a.rowCount = b.rowCount ∧ a.columns = b.columns then
        some (.gates (a.zipWith (· + ·) b h.2))
      else none
  | _, _ => none

end Counts

end PulseBench
