import PulseBench.Counting.Counter
import PulseBench.Generator.Basic

/-!
# What a measurement is told

The settings of a measurement say how the laser pulses of the loaded asset map onto the result. They
can be taken from the asset itself, which comes with all that the compiler knows about it.
-/

namespace PulseBench

variable {α : Type}

/-- How laser pulses map onto the result. -/
structure MeasurementSettings (α : Type) where
  /-- Take the other settings from the loaded asset. -/
  invoke : Bool
  /-- The swept quantity. -/
  axis : List α
  lasers : Nat
  /-- Lasers that carry no result; negative numbers count from the end. -/
  ignored : List Int
  /-- Two laser pulses per point, to be told apart. -/
  alternating : Bool
  /-- Units of the axis and of the signal. -/
  units : String × String
  /-- Labels of the axis and of the signal. -/
  labels : String × String
deriving BEq

namespace MeasurementSettings

/-- Fifty points, one laser pulse each. -/
def default [Scalar α] : MeasurementSettings α where
  invoke := true
  axis := (List.range 50).map fun i => Scalar.ofNat (i + 1)
  lasers := 50
  ignored := []
  alternating := false
  units := ("s", "arb. u.")
  labels := ("Tau", "Signal")

/-- Rows of the result: one, or two to tell alternating pulses apart. -/
def rowCount (s : MeasurementSettings α) : Nat := if s.alternating then 2 else 1

/-- The settings with the ignored lasers in increasing order. -/
def sorted (s : MeasurementSettings α) : MeasurementSettings α :=
  { s with ignored := s.ignored.mergeSort }

/-- The settings of an asset. -/
def ofReadout (r : Readout α) : MeasurementSettings α :=
  sorted ⟨true, r.axis, r.lasers, r.ignored, r.alternating, r.units, r.labels⟩

end MeasurementSettings

/-- The loaded asset, as a measurement sees it. -/
structure AssetInfo (α : Type) where
  asset : LoadedAsset
  metadata : Metadata α
  /-- The digital channel whose rising edges mark the laser pulses. -/
  edgeChannel : String
deriving BEq

/-- A span of time in whole nanoseconds. -/
structure Interval where
  nanoseconds : Nat
deriving DecidableEq

namespace Interval

/-- Nanoseconds in a second. -/
def perSecond : Nat := Nat.pow 10 9

variable [Scalar α]

/-- The nearest interval to a number of seconds. -/
def ofSeconds (seconds : α) : Interval := ⟨Scalar.billionths seconds⟩

/-- The number of seconds: whole ones, and the fraction added to them. -/
def seconds (i : Interval) : α :=
  Scalar.ofNat (i.nanoseconds / perSecond) + Scalar.ofNat (i.nanoseconds % perSecond) / 1e9

end Interval

end PulseBench
