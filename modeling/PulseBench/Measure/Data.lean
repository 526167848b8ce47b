import PulseBench.Evaluation.Basic
import PulseBench.Measure.Settings
import PulseBench.View

/-!
# What a measurement finds

The result of a measurement: raw counts, the laser pulses extracted from them, and signal and errors
arranged over the swept axis. Every change is also announced in an `Outbox` of limited capacity.
-/

namespace PulseBench

variable {α : Type}

structure MeasurementData (α : Type) where
  /-- The swept quantity. -/
  axis : List α
  /-- One row, or two for alternating measurements. -/
  signal : Grid α
  errors : Grid α
  /-- Derived from the signal. -/
  view : Option (View α)
  /-- Counts by laser and time bin. -/
  lasers : Grid Nat
  counts : Counts
  sweeps : Nat
  /-- Refreshes that gave a result. -/
  refreshes : Nat

namespace MeasurementData

/-- No result yet, in the shape that the settings ask for. -/
def blank [Scalar α] (s : MeasurementSettings α) (c : CounterSettings α) : MeasurementData α where
  axis := s.axis
  signal := .fill s.rowCount s.axis.length 0.0
  errors := .fill s.rowCount s.axis.length 0.0
  view := none
  lasers := .fill s.lasers c.binCount 0
  counts := c.zeros
  sweeps := 0
  refreshes := 0

end MeasurementData

/-! ## Arrangement -/

/-- Whether a laser out of `count` is on the list of ignored ones. -/
def isIgnored (ignored : List Int) (count index : Nat) : Bool :=
  ignored.any fun i => i == (index : Int) || i == (index : Int) - count

/-- The items that are not ignored, in order. -/
def keptItems {β : Type} (ignored : List Int) (items : List β) : List β :=
  (items.zipIdx.filter fun (_, index) => !isIgnored ignored items.length index).map Prod.fst

/-- Deals kept items to the rows in turn. -/
def dealt [Scalar α] (rowCount columns : Nat) (items : List α) : Grid α :=
  let cells := items.toArray
  .ofFn rowCount columns fun row column => cells.getD (column * rowCount + row) 0.0

/-- Signal and errors over the swept axis: estimates of ignored lasers are dropped, and those of
alternating measurements are dealt to two rows. -/
def MeasurementSettings.arrange [Scalar α] (s : MeasurementSettings α)
    (estimates : List (Estimate α)) : Except (Failure α) (Grid α × Grid α) :=
  let kept := keptItems s.ignored estimates
  let points := s.axis.length
  if kept.length = s.rowCount * points then
    .ok (dealt s.rowCount points (kept.map Estimate.value),
      dealt s.rowCount points (kept.map Estimate.error))
  else .error (.data (.arrangement kept.length points s.alternating))

/-! ## Announcements -/

/-- What a measurement announces. -/
inductive Update (α : Type) where
  | state (state : RunState)
  | result (data : MeasurementData α)
  | failed (cause : Failure α)

/-- Whether the end of a run is announced. -/
def Update.isIdle : Update α → Bool
  | .state s => s == .idle
  | _ => false

/-- Announcements that nobody took yet. -/
structure Outbox (α : Type) where
  capacity : Nat
  pending : List (Update α)

namespace Outbox

/-- Nothing announced. -/
def ofCapacity (capacity : Nat) : Outbox α := ⟨capacity, []⟩

/-- Announces something, unless the outbox is full. -/
def post (o : Outbox α) (update : Update α) : Outbox α :=
  if o.pending.length < o.capacity then { o with pending := o.pending ++ [update] } else o

/-- The outbox after all announcements were taken. -/
def emptied (o : Outbox α) : Outbox α := { o with pending := [] }

end Outbox

end PulseBench
