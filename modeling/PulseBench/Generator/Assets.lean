import PulseBench.Generator.Basic

/-!
# Settings, waveforms and programs on the device

Settings are held against the limits of the device before the device hears of them, and what the
device reports back is kept. Compiling an object first drops every record that the new waveforms
make stale, and attaches the new record last, so an error in between leaves no record behind.
-/

namespace PulseBench.Generator

variable {α δ : Type} [Pulser α δ]

/-! ## Settings -/

/-- The requested activation with its channels. -/
def requestedActivation (g : Generator α δ) (request : SettingsRequest α) :
    Except (Failure α) (Option (String × NameSet)) :=
  match request.activation with
  | none => .ok none
  | some name =>
      match g.limits.activations.get? name with
      | some channels => .ok (some (name, channels))
      | none => .error (.generator (.unknownActivation name g.limits.activations.names))

/-- Holds a requested rate against the limits. -/
def checkRate [Scalar α] (g : Generator α δ) (rate : α) : Except (Failure α) Unit :=
  if g.limits.rates.allows rate then .ok ()
  else .error (.program (.rateOutOfRange rate g.limits.rates.least g.limits.rates.greatest))

/-- Holds a requested amplitude against the limits. -/
def checkAmplitude [Scalar α] (g : Generator α δ) (channel : String) (amplitude : α) :
    Except (Failure α) Unit := do
  unless Channel.isAnalog channel do throw (.generator (.notAnalog channel))
  unless g.limits.amplitudes.allows amplitude do
    throw (.generator (.amplitudeOutOfRange amplitude channel g.limits.amplitudes.least
      g.limits.amplitudes.greatest))

/-- Holds a request against the limits; gives the channels to activate. -/
def checkRequest [Scalar α] (g : Generator α δ) (request : SettingsRequest α) :
    Except (Failure α) (Option (String × NameSet)) := do
  let activation ← g.requestedActivation request
  request.rate.toList.forM g.checkRate
  (request.amplitudes.getD ∅).entries.forM fun (channel, amplitude) =>
    g.checkAmplitude channel amplitude
  return activation

/-- Activates channels. The activation is then called as the reported channels are, or as
requested if no activation has just these. -/
def applyActivation (name : String) (channels : NameSet) : Action α (Generator α δ) Unit := do
  let active ← onDevice (Pulser.setActiveChannels channels)
  modify fun g => { g with settings :=
    { g.settings with
      activation := (g.limits.activationName? active).getD name
      active := active } }

def applyRate (rate : α) : Action α (Generator α δ) Unit := do
  let rate ← onDevice (Pulser.setRate rate)
  modify fun g => { g with settings := { g.settings with rate } }

def applyAmplitudes (amplitudes : Roster α) : Action α (Generator α δ) Unit := do
  let amplitudes ← onDevice (Pulser.setAmplitudes amplitudes)
  modify fun g => { g with settings := { g.settings with amplitudes } }

/-- Applies a request, if all of it is allowed. Returns the settings that the device reports. -/
def setSettings [Scalar α] (request : SettingsRequest α) :
    Action α (Generator α δ) (PulserSettings α) := do
  let activation ← Action.lift ((← get).checkRequest request)
  match activation with
  | some (name, channels) => applyActivation name channels
  | none => pure ()
  match request.rate with
  | some rate => applyRate rate
  | none => pure ()
  match request.amplitudes with
  | some amplitudes => applyAmplitudes amplitudes
  | none => pure ()
  return (← get).settings

/-! ## Compiling -/

/-- The program that a sequencer needs to play one waveform, for ever if it can. -/
def singleStep (limits : Limits α) (name : String) : ProgramStep :=
  let repetitions : Repetitions :=
    if limits.stepOptions.contains "repetitions" then .infinite else .finite 1
  ⟨[name], Step.plain name repetitions⟩

/-- Writes the program for a waveform if the device can not play it otherwise. If that fails the
waveform is deleted, and an error of the deletion takes precedence. -/
def writeSingleStep (name : String) : Action α (Generator α δ) Unit := do
  let limits := (← get).limits
  if limits.sequencer = .required then
    try
      let _ ← onDevice (Pulser.writeSequence name [singleStep limits name])
    catch e =>
      let _ ← onDevice (Pulser.deleteWaveform name)
      throw e

section Compiling

variable [Analytic α]

/-- Compiles an ensemble into a waveform of its name. -/
def sampleEnsemble (name : String) : Action α (Generator α δ) (Record α) := do
  let e ← Action.lift ((← get).findEnsemble name)
  invalidateEnsemble name
  let g ← get
  let (_, record) ← onDevice (g.compiler.sampleEnsemble e g.blocks name 0)
  writeSingleStep name
  let sampled := { e with record := some record }
  persist sampled
  modify fun g => { g with ensembles := g.ensembles.insert name sampled }
  return record

/-- Attaches the record of a waveform to the ensemble of its name. -/
def attachRecord (name : String) (record : Record α) : Action α (Generator α δ) Unit := do
  match (← get).ensembles.get? name with
  | some e =>
      let sampled := { e with record := some record }
      modify fun g => { g with ensembles := g.ensembles.insert name sampled }
      persist sampled
  | none => pure ()

/-- Compiles a sequence with all ensembles that it plays. -/
def sampleSequence (name : String) : Action α (Generator α δ) (Record α) := do
  let s ← Action.lift ((← get).findSequence name)
  clearSequenceRecord name
  s.ensembleNames.forM clearEnsembleRecord
  let g ← get
  let (record, records) ← onDevice (g.compiler.sampleSequence s g.ensembles g.blocks)
  records.forM fun (ensemble, r) => attachRecord ensemble r
  let sampled := { s with record := some record }
  persist sampled
  modify fun g => { g with sequences := g.sequences.insert name sampled }
  return record

/-- Compiles an object of a kind. -/
def sample (name : String) : AssetKind → Action α (Generator α δ) (Record α)
  | .ensemble => sampleEnsemble name
  | .sequence => sampleSequence name

end Compiling

/-! ## Loading -/

/-- Uploads and loads an asset. -/
def loadAsset (asset : LoadedAsset) : Action α (Generator α δ) LoadedAsset := do
  onDevice (Pulser.upload asset.name)
  onDevice (Pulser.load asset.name)
  modify fun g => { g with loaded := some asset }
  return asset

/-- Loads a sampled ensemble for playback. -/
def loadEnsemble (name : String) : Action α (Generator α δ) LoadedAsset := do
  let e ← Action.lift ((← get).findEnsemble name)
  unless e.isSampled do throw (.generator (.notSampled .ensemble name))
  loadAsset ⟨name, .ensemble⟩

/-- Loads a sampled sequence for playback. -/
def loadSequence (name : String) : Action α (Generator α δ) LoadedAsset := do
  let s ← Action.lift ((← get).findSequence name)
  unless s.isSampled do throw (.generator (.notSampled .sequence name))
  loadAsset ⟨name, .sequence⟩

/-- Loads an object of a kind. -/
def load (name : String) : AssetKind → Action α (Generator α δ) LoadedAsset
  | .ensemble => loadEnsemble name
  | .sequence => loadSequence name

/-! ## Deleting -/

section Deleting

variable [Scalar α]

/-- Deletes a waveform, and every record that names one of the deleted waveforms. -/
def deleteWaveform (name : String) : Action α (Generator α δ) (List String) := do
  let deleted ← onDevice (Pulser.deleteWaveform name)
  let g ← get
  let ensembles := g.ensemblesWhere fun e => mentions e.record deleted.contains
  let sequences := g.sequencesWhere fun s => mentions s.record deleted.contains
  ensembles.forM fun ensemble => do
    clearEnsembleRecord ensemble
    modify (unload ⟨ensemble, .ensemble⟩)
  sequences.forM clearSequenceRecord
  return deleted

/-- Deletes a program from the device, and the records of the deleted ones. -/
def deleteProgram (name : String) : Action α (Generator α δ) (List String) := do
  let deleted ← onDevice (Pulser.deleteSequence name)
  deleted.forM clearSequenceRecord
  return deleted

/-- Deletes everything on the device, and all records. -/
def clear : Action α (Generator α δ) Unit := do
  onDevice Pulser.clear
  (← get).ensembles.names.forM clearEnsembleRecord
  (← get).sequences.names.forM clearSequenceRecord
  modify fun g => { g with loaded := none }

end Deleting

/-- Switches the output. -/
def setOutput (on : Bool) : Action α (Generator α δ) Bool := onDevice (Pulser.setOutput on)

end PulseBench.Generator
