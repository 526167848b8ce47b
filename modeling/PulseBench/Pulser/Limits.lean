import PulseBench.Program.Object

/-!
# What a pulse generator can do

A device reports its limits once. A request is held against them before the device hears of it.
-/

namespace PulseBench

/-- Whether a device plays sequencer programs. -/
inductive Sequencer where
  /-- Only plain waveforms. -/
  | absent
  /-- Programs and plain waveforms. -/
  | available
  /-- Every waveform has to be part of a program. -/
  | required
deriving DecidableEq, Repr

/-- The values between two limits, both included. -/
structure Range (β : Type) where
  least : β
  greatest : β
deriving DecidableEq

/-- Whether a value is in a range. -/
def Range.allows {β : Type} [LE β] [DecidableLE β] (r : Range β) (x : β) : Bool :=
  decide (r.least ≤ x) && decide (x ≤ r.greatest)

/-- Limits of a pulse generator. -/
structure Limits (α : Type) where
  /-- Sample rates, in samples per second. -/
  rates : Range α
  /-- Peak-to-peak voltages of analog channels. -/
  amplitudes : Range α
  /-- Numbers of samples of a waveform. -/
  samples : Range Nat
  /-- Greatest number of steps of a program. -/
  maxSteps : Nat
  /-- Sets of channels that can be active together, by name. -/
  activations : Roster NameSet
  sequencer : Sequencer
  /-- Sequencer options that steps may use. -/
  stepOptions : NameSet

namespace Limits

variable {α : Type}

/-- All channels of the device. -/
def channels (l : Limits α) : NameSet := l.activations.values.foldl NameSet.union ∅

/-- The name of the first activation with exactly these channels. -/
def activationName? (l : Limits α) (channels : NameSet) : Option String :=
  (l.activations.entries.find? fun (_, active) => active == channels).map Prod.fst

end Limits

end PulseBench
