import PulseBench.Pulser.Device

/-!
# A pulse generator in memory

`MemoryPulser` keeps in memory what a device would hold and play, together with a log of all calls
that it accepted. It follows the write protocol: a first chunk starts a waveform anew, every other
chunk continues one that is already there, and a program can only play waveforms that are there.

It can be told to refuse writing and switching after a number of writes.
-/

namespace PulseBench

variable {α : Type}

/-- A waveform on the device. -/
structure Waveform (α : Type) where
  analog : Roster (List α)
  digital : Roster (List Bool)
  /-- Samples that the first chunk announced. -/
  total : Nat
  /-- The last chunk was written. -/
  complete : Bool

def Waveform.size (w : Waveform α) : Nat := channelSize w.analog w.digital

/-- An accepted call, as the log shows it. -/
inductive PulserEntry (α : Type) where
  | setActiveChannels
  | setRate (rate : α)
  | setAmplitudes
  | writeWaveform (name : String) (start stop : Nat)
  | writeSequence (name : String) (steps : Nat)
  | upload (name : String)
  | load (name : String)
  | deleteWaveform (name : String)
  | deleteSequence (name : String)
  | clear
  | setOutput (on : Bool)

/-- The line of a log entry. -/
def PulserEntry.line [Numeral α] : PulserEntry α → String
  | .setActiveChannels => PulserCall.setActiveChannels.name
  | .setRate rate => PulserCall.setRate.name ++ " " ++ Numeral.plain rate
  | .setAmplitudes => PulserCall.setAmplitudes.name
  | .writeWaveform name start stop =>
      PulserCall.writeWaveform.name ++ s!" {name} {start}..{stop}"
  | .writeSequence name steps => PulserCall.writeSequence.name ++ s!" {name} {steps}"
  | .upload name => PulserCall.upload.name ++ " " ++ name
  | .load name => PulserCall.load.name ++ " " ++ name
  | .deleteWaveform name => PulserCall.deleteWaveform.name ++ " " ++ name
  | .deleteSequence name => PulserCall.deleteSequence.name ++ " " ++ name
  | .clear => PulserCall.clear.name
  | .setOutput on => PulserCall.setOutput.name ++ (if on then " true" else " false")

structure MemoryPulser (α : Type) where
  limits : Limits α
  active : NameSet
  rate : α
  amplitudes : Roster α
  waveforms : Roster (Waveform α)
  programs : Roster (List ProgramStep)
  uploaded : NameSet
  loaded : Option String
  outputOn : Bool
  /-- Refuse writing and switching once this many writes were made. -/
  refuseAfter : Option Nat
  writes : Nat
  log : List (PulserEntry α)

namespace MemoryPulser

/-- Limits of a small device: two analog and eight digital channels, 1 MSa/s to 1 GSa/s, a memory
of 16 MSa. -/
def defaultLimits [Scalar α] : Limits α where
  rates := ⟨1e6, 1e9⟩
  amplitudes := ⟨0.02, 2.0⟩
  samples := ⟨1, 16 * 1024 * 1024⟩
  maxSteps := 8000
  activations :=
    let digital (n : Nat) := (List.range n).map fun i => s!"d_ch{i + 1}"
    Roster.ofList
      [ ("all", NameSet.ofList (["a_ch1", "a_ch2"] ++ digital 8)),
        ("analog1_digital4", NameSet.ofList (["a_ch1"] ++ digital 4)),
        ("digital_only", NameSet.ofList (digital 8)) ]
  sequencer := .available
  stepOptions := NameSet.ofList
    ["repetitions", "go_to", "event_jump_to", "event_trigger", "wait_for", "flag_trigger",
      "flag_high"]

/-- A device that was just switched on: the first activation is active, at full rate, with 1 V on
every analog channel. -/
def fresh [Scalar α] (limits : Limits α) : MemoryPulser α :=
  let active := (limits.activations.values.head?).getD ∅
  { limits, active
    rate := limits.rates.greatest
    amplitudes := Roster.ofList
      ((active.names.filter (·.startsWith "a_")).map fun channel => (channel, 1.0))
    waveforms := ∅
    programs := ∅
    uploaded := ∅
    loaded := none
    outputOn := false
    refuseAfter := none
    writes := 0
    log := [] }

/-- Appends an entry to the log. -/
def note (entry : PulserEntry α) (p : MemoryPulser α) : MemoryPulser α :=
  { p with log := p.log ++ [entry] }

def refuses (p : MemoryPulser α) : Bool := p.refuseAfter.any fun limit => decide (limit ≤ p.writes)

/-- Fails if the device refuses writing and switching. -/
def ensureAccepted (call : PulserCall) : Action α (MemoryPulser α) Unit := do
  if (← get).refuses then throw (.device (.refused call.name))

def setActiveChannels (channels : NameSet) : Action α (MemoryPulser α) NameSet := do
  modify (note .setActiveChannels)
  if ((← get).limits.activationName? channels).isNone then
    throw (.device (.noActivation channels))
  modify fun p => { p with active := channels }
  return channels

def setRate [Scalar α] (rate : α) : Action α (MemoryPulser α) α := do
  let p ← get
  let applied := Scalar.clamped p.limits.rates.least p.limits.rates.greatest rate
  set { note (.setRate rate) p with rate := applied }
  return applied

/-- Channels that are not mentioned keep their amplitude. -/
def setAmplitudes (amplitudes : Roster α) : Action α (MemoryPulser α) (Roster α) := do
  let p ← get
  let applied := amplitudes.entries.foldl (fun r entry => r.insert entry.1 entry.2) p.amplitudes
  set { note .setAmplitudes p with amplitudes := applied }
  return applied

/-- Samples appended to those that a channel already has. -/
def extend {β : Type} (stored : Roster (List β)) (samples : Roster (List β)) : Roster (List β) :=
  samples.entries.foldl (fun r (channel, values) =>
    r.insert channel (((r.get? channel).getD []) ++ values)) stored

/-- A waveform with one more chunk. -/
def grown (w : Waveform α) (chunk : Chunk α) : Waveform α :=
  { w with
    analog := extend w.analog chunk.analog
    digital := extend w.digital chunk.digital
    complete := chunk.isLast }

/-- The waveform that a chunk continues, and the waveforms it is kept among. A first chunk starts
anew in the place of an earlier waveform of that name; any other chunk moves its waveform to the
end. -/
def continued? (p : MemoryPulser α) (name : String) (chunk : Chunk α) :
    Option (Waveform α × Roster (Waveform α)) :=
  if chunk.isFirst then some (⟨∅, ∅, chunk.total, false⟩, p.waveforms)
  else (p.waveforms.get? name).map fun w => (w, p.waveforms.erase name)

def writeWaveform (name : String) (chunk : Chunk α) : Action α (MemoryPulser α) Nat := do
  ensureAccepted .writeWaveform
  let p ← get
  match p.continued? name chunk with
  | none => throw (.device (.unknownContinuation name))
  | some (w, others) =>
      let start := w.size
      set { note (.writeWaveform name start (start + chunk.size)) p with
        waveforms := others.insert name (grown w chunk)
        writes := p.writes + 1 }
      return chunk.size

def writeSequence (name : String) (steps : List ProgramStep) :
    Action α (MemoryPulser α) Nat := do
  ensureAccepted .writeSequence
  let p ← get
  match (steps.flatMap ProgramStep.waveforms).find? fun w => !p.waveforms.contains w with
  | some absent => throw (.device (.missingWaveform name absent))
  | none =>
      set { note (.writeSequence name steps.length) p with
        programs := p.programs.insert name steps
        writes := p.writes + 1 }
      return steps.length

def upload (name : String) : Action α (MemoryPulser α) Unit := do
  let p ← get
  if p.waveforms.contains name || p.programs.contains name then
    set { note (.upload name) p with uploaded := p.uploaded.insert name }
  else throw (.device (.noAsset name))

def load (name : String) : Action α (MemoryPulser α) Unit := do
  let p ← get
  if p.uploaded.contains name then set { note (.load name) p with loaded := some name }
  else throw (.device (.notUploaded name))

/-- Forgets that an asset was uploaded and loaded. -/
def unload (name : String) (p : MemoryPulser α) : MemoryPulser α :=
  { p with
    uploaded := p.uploaded.filter (· != name)
    loaded := if p.loaded == some name then none else p.loaded }

def deleteWaveform (name : String) : Action α (MemoryPulser α) (List String) := do
  let p ← get
  set (unload name { note (.deleteWaveform name) p with waveforms := p.waveforms.erase name })
  return if p.waveforms.contains name then [name] else []

def deleteSequence (name : String) : Action α (MemoryPulser α) (List String) := do
  let p ← get
  set (unload name { note (.deleteSequence name) p with programs := p.programs.erase name })
  return if p.programs.contains name then [name] else []

def clear : Action α (MemoryPulser α) Unit :=
  modify fun p =>
    { note .clear p with waveforms := ∅, programs := ∅, uploaded := ∅, loaded := none }

def setOutput (on : Bool) : Action α (MemoryPulser α) Bool := do
  ensureAccepted .setOutput
  modify fun p => { note (.setOutput on) p with outputOn := on }
  return on

instance [Scalar α] : Pulser α (MemoryPulser α) where
  limits := limits
  activeChannels := active
  rate := rate
  amplitudes := amplitudes
  waveformNames p := p.waveforms.names
  sequenceNames p := p.programs.names
  setActiveChannels := setActiveChannels
  setRate := setRate
  setAmplitudes := setAmplitudes
  writeWaveform := writeWaveform
  writeSequence := writeSequence
  upload := upload
  load := load
  deleteWaveform := deleteWaveform
  deleteSequence := deleteSequence
  clear := clear
  setOutput := setOutput

end MemoryPulser

end PulseBench
