import PulseBench.Pulser.Memory

/-!
# A pulse generator that fails

`FaultyPulser` puts a `FaultPlan` in front of another pulse generator. A call that the plan fails
never reaches the device; a shortened write does reach it, but is reported with one sample less.
-/

namespace PulseBench

/-- Which calls go wrong. Calls and writes are numbered from one, since the plan was made. -/
structure FaultPlan where
  fails : PulserCall → Nat → Bool
  shortens : Nat → Bool
  /-- The active channels that the device reports, whatever they are. -/
  reports : Option NameSet

/-- Nothing goes wrong. -/
def FaultPlan.none : FaultPlan := ⟨fun _ _ => false, fun _ => false, Option.none⟩

structure FaultyPulser (δ : Type) where
  inner : δ
  plan : FaultPlan
  calls : Nat
  /-- Writes of waveform chunks that reached the device. -/
  chunks : Nat

namespace FaultyPulser

variable {α δ : Type}

/-- A device under a new plan. -/
def under (plan : FaultPlan) (inner : δ) : FaultyPulser δ := ⟨inner, plan, 0, 0⟩

/-- An action of the device behind the plan. -/
def reach {β : Type} (act : Action α δ β) : Action α (FaultyPulser δ) β := fun p =>
  match act p.inner with
  | .ok b inner => .ok b { p with inner }
  | .error e inner => .error e { p with inner }

/-- The count of calls, and that of chunks if the call writes one. -/
def passed (call : PulserCall) (p : FaultyPulser δ) : FaultyPulser δ :=
  if call = .writeWaveform then { p with chunks := p.chunks + 1 } else p

/-- A call, if the plan lets it pass. -/
def attempt {β : Type} (call : PulserCall) (act : Action α δ β) :
    Action α (FaultyPulser δ) β := do
  modify fun p => { p with calls := p.calls + 1 }
  let p ← get
  if p.plan.fails call p.calls then throw (.device (.injected call.name))
  modify (passed call)
  reach act

variable [Pulser α δ]

def setActiveChannels (channels : NameSet) : Action α (FaultyPulser δ) NameSet := do
  let active ← attempt .setActiveChannels (Pulser.setActiveChannels channels)
  return (← get).plan.reports.getD active

def writeWaveform (name : String) (chunk : Chunk α) : Action α (FaultyPulser δ) Nat := do
  let written ← attempt .writeWaveform (Pulser.writeWaveform name chunk)
  let p ← get
  return if p.plan.shortens p.chunks then written - 1 else written

instance : Pulser α (FaultyPulser δ) where
  limits p := Pulser.limits p.inner
  activeChannels p := p.plan.reports.getD (Pulser.activeChannels p.inner)
  rate p := Pulser.rate p.inner
  amplitudes p := Pulser.amplitudes p.inner
  waveformNames p := Pulser.waveformNames p.inner
  sequenceNames p := Pulser.sequenceNames p.inner
  setActiveChannels := setActiveChannels
  setRate rate := attempt .setRate (Pulser.setRate rate)
  setAmplitudes amplitudes := attempt .setAmplitudes (Pulser.setAmplitudes amplitudes)
  writeWaveform := writeWaveform
  writeSequence name steps := attempt .writeSequence (Pulser.writeSequence name steps)
  upload name := attempt .upload (Pulser.upload name)
  load name := attempt .load (Pulser.load name)
  deleteWaveform name := attempt .deleteWaveform (Pulser.deleteWaveform name)
  deleteSequence name := attempt .deleteSequence (Pulser.deleteSequence name)
  clear := attempt .clear Pulser.clear
  setOutput on := attempt .setOutput (Pulser.setOutput on)

end FaultyPulser

end PulseBench
