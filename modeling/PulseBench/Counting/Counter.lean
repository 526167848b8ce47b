import PulseBench.Counting.Counts
import PulseBench.Plugin.Selection

/-!
# The photon counter

`Counter` is what a measurement needs of a counter: it is configured while it does not run, started
and stopped, paused and resumed, and read at any time. Requested settings are held against the
limits of the counter; the counter answers with the settings it really uses.
-/

namespace PulseBench

variable {α : Type}

/-- How the counter counts. Without gates, it records one trace. -/
structure CounterSettings (α : Type) where
  /-- In seconds. -/
  binWidth : α
  /-- In seconds. -/
  recordLength : α
  gates : Nat
deriving BEq

namespace CounterSettings

variable [Scalar α]

/-- Bins of a nanosecond over three microseconds. -/
def default : CounterSettings α := ⟨1e-9, 3e-6, 0⟩

/-- The whole number of bins nearest to the record length. -/
def binCount (s : CounterSettings α) : Nat :=
  if s.binWidth ≤ 0.0 then 0 else Scalar.toBins (s.recordLength / s.binWidth)

/-- No counts, in the shape of these settings. -/
def zeros (s : CounterSettings α) : Counts := .zeros s.gates s.binCount

end CounterSettings

/-- Limits of a counter. -/
structure CounterLimits (α : Type) where
  /-- The bin widths that can be selected, in seconds. -/
  binWidths : List α
  /-- In seconds. -/
  maxRecordLength : α
  maxGates : Nat

/-- Holds settings against the limits. -/
def CounterLimits.check [Scalar α] (l : CounterLimits α) (gated : Bool) (s : CounterSettings α) :
    Except (Failure α) Unit := do
  unless 0.0 < s.binWidth ∧ 0.0 < s.recordLength do
    throw (.measure (.counterTimes s.binWidth s.recordLength))
  if l.maxRecordLength < s.recordLength then
    throw (.measure (.recordTooLong s.recordLength l.maxRecordLength))
  if gated ∧ s.gates = 0 then throw (.measure .noGates)
  if l.maxGates < s.gates then throw (.exceeded .gates s.gates l.maxGates)

/-- What a read of the counter gives. -/
structure Reading where
  /-- Counts accumulated since the start. -/
  counts : Counts
  /-- Sweeps since the start, if the counter keeps track of them. -/
  sweeps : Option Nat
deriving DecidableEq

/-- The calls of a counter. -/
inductive CounterCall where
  | configure
  | read
  | start
  | stop
  | pause
  | resume
deriving DecidableEq, Repr

/-- The name of a call in call logs and messages. -/
def CounterCall.name : CounterCall → String
  | .configure => "configure"
  | .read => "get_trace"
  | .start => "start"
  | .stop => "stop"
  | .pause => "pause"
  | .resume => "resume"

/-- A counter with states `κ` for numbers `α`. -/
class Counter (α : outParam Type) (κ : Type) where
  limits : κ → CounterLimits α
  isGated : κ → Bool
  /-- Returns the settings that are used from now on. -/
  configure : CounterSettings α → Action α κ (CounterSettings α)
  read : Action α κ Reading
  start : Action α κ Unit
  stop : Action α κ Unit
  pause : Action α κ Unit
  resume : Action α κ Unit

end PulseBench
