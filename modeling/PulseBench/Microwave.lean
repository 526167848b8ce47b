import PulseBench.Plugin.Selection

/-!
# The microwave source

A source of continuous microwaves that is switched together with a measurement. `MemoryMicrowave`
keeps its settings in memory, with a log of all calls, and can be told to reject every call.
-/

namespace PulseBench

variable {α : Type}

inductive TriggerEdge where
  | rising
  | falling
deriving DecidableEq, Repr

/-- When the source reacts to a trigger of the pulse generator. -/
structure TriggerTiming (α : Type) where
  edge : TriggerEdge
  /-- From the trigger to the output, in seconds. -/
  delay : α
deriving BEq

structure MicrowaveSettings (α : Type) where
  /-- The source is switched together with the measurement. -/
  external : Bool
  /-- In Hz. -/
  frequency : α
  /-- In dBm. -/
  power : α
  timing : Option (TriggerTiming α)
deriving BEq

def MicrowaveSettings.default [Scalar α] : MicrowaveSettings α := ⟨false, 2.87e9, -30.0, none⟩

/-- The calls of a microwave source. -/
inductive MicrowaveCall where
  | setCarrier
  | setTiming
  | on
  | off
deriving DecidableEq, Repr

/-- The name of a call in call logs and messages. -/
def MicrowaveCall.name : MicrowaveCall → String
  | .setCarrier => "set_cw"
  | .setTiming => "set_trigger_timing"
  | .on => "on"
  | .off => "off"

/-- A microwave source with states `μ` for numbers `α`. -/
class Microwave (α : outParam Type) (μ : Type) where
  /-- Sets frequency and power; returns those that are used. -/
  setCarrier : α → α → Action α μ (α × α)
  /-- Returns the timing that is used. -/
  setTiming : TriggerTiming α → Action α μ (TriggerTiming α)
  switchOn : Action α μ Unit
  switchOff : Action α μ Unit
  isOn : μ → Bool

/-! ## A source in memory -/

structure MemoryMicrowave (α : Type) where
  frequency : α
  power : α
  timing : Option (TriggerTiming α)
  on : Bool
  /-- Reject every call. -/
  rejects : Bool
  log : List MicrowaveCall

namespace MemoryMicrowave

/-- A source that was just switched on, without output. -/
def fresh [Scalar α] : MemoryMicrowave α := ⟨0.0, 0.0, none, false, false, []⟩

/-- Greatest power, in dBm. -/
def maxPower [Scalar α] : α := 25.0

/-- Notes a call, and fails if the source rejects it. -/
def accept (call : MicrowaveCall) : Action α (MemoryMicrowave α) Unit := do
  modify fun m => { m with log := m.log ++ [call] }
  if (← get).rejects then throw (.device (.microwaveRejected call.name))

def setCarrier [Scalar α] (frequency power : α) : Action α (MemoryMicrowave α) (α × α) := do
  accept .setCarrier
  let power := Scalar.capped maxPower power
  modify fun m => { m with frequency, power }
  return (frequency, power)

def setTiming (timing : TriggerTiming α) :
    Action α (MemoryMicrowave α) (TriggerTiming α) := do
  accept .setTiming
  modify fun m => { m with timing := some timing }
  return timing

def switchOn : Action α (MemoryMicrowave α) Unit := do
  accept .on
  modify fun m => { m with on := true }

def switchOff : Action α (MemoryMicrowave α) Unit := do
  accept .off
  modify fun m => { m with on := false }

instance [Scalar α] : Microwave α (MemoryMicrowave α) where
  setCarrier := setCarrier
  setTiming := setTiming
  switchOn := switchOn
  switchOff := switchOff
  isOn := on

end MemoryMicrowave

end PulseBench
