import PulseBench.Plugin.Selection
import PulseBench.Pulser.Limits

/-!
# The pulse generator

`Pulser` is what the compiler needs of a pulse generator: configuration, waveforms that arrive in
chunks, sequencer programs, and named assets that are uploaded, loaded and deleted. Every call may
fail, and a failed call may still have changed the device.
-/

namespace PulseBench

variable {α : Type}

/-- A part of a waveform, written in one call. Samples of analog channels are fractions of the
channel's amplitude. -/
structure Chunk (α : Type) where
  analog : Roster (List α)
  digital : Roster (List Bool)
  isFirst : Bool
  isLast : Bool
  /-- Samples of the whole waveform. -/
  total : Nat

/-- The number of samples per channel: that of the first channel, analog ones first. -/
def channelSize (analog : Roster (List α)) (digital : Roster (List Bool)) : Nat :=
  ((analog.values.map List.length ++ digital.values.map List.length).head?).getD 0

def Chunk.size (c : Chunk α) : Nat := channelSize c.analog c.digital

/-- A step of a program on the device, with the waveforms it plays. -/
structure ProgramStep where
  waveforms : List String
  step : Step
deriving DecidableEq

/-- The calls that change a pulse generator. -/
inductive PulserCall where
  | setActiveChannels
  | setRate
  | setAmplitudes
  | writeWaveform
  | writeSequence
  | upload
  | load
  | deleteWaveform
  | deleteSequence
  | clear
  | setOutput
deriving DecidableEq, Repr

/-- The name of a call in call logs and messages. -/
def PulserCall.name : PulserCall → String
  | .setActiveChannels => "set_active_channels"
  | .setRate => "set_sample_rate"
  | .setAmplitudes => "set_analog_amplitudes"
  | .writeWaveform => "write_waveform"
  | .writeSequence => "write_sequence"
  | .upload => "upload_asset"
  | .load => "load_asset"
  | .deleteWaveform => "delete_waveform"
  | .deleteSequence => "delete_sequence"
  | .clear => "clear_all"
  | .setOutput => "set_output"

def PulserCall.all : List PulserCall :=
  [.setActiveChannels, .setRate, .setAmplitudes, .writeWaveform, .writeSequence, .upload, .load,
    .deleteWaveform, .deleteSequence, .clear, .setOutput]

/-- A pulse generator with states `δ` for numbers `α`. -/
class Pulser (α : outParam Type) (δ : Type) where
  limits : δ → Limits α
  activeChannels : δ → NameSet
  rate : δ → α
  amplitudes : δ → Roster α
  waveformNames : δ → List String
  sequenceNames : δ → List String
  /-- Returns the channels that are active afterwards. -/
  setActiveChannels : NameSet → Action α δ NameSet
  /-- Returns the rate that is set afterwards. -/
  setRate : α → Action α δ α
  /-- Returns all amplitudes that are set afterwards. -/
  setAmplitudes : Roster α → Action α δ (Roster α)
  /-- Returns the number of samples written. -/
  writeWaveform : String → Chunk α → Action α δ Nat
  /-- Returns the number of steps written. -/
  writeSequence : String → List ProgramStep → Action α δ Nat
  upload : String → Action α δ Unit
  load : String → Action α δ Unit
  /-- Returns the names of the waveforms that were deleted. -/
  deleteWaveform : String → Action α δ (List String)
  /-- Returns the names of the programs that were deleted. -/
  deleteSequence : String → Action α δ (List String)
  /-- Deletes all waveforms and programs. -/
  clear : Action α δ Unit
  /-- Returns whether the output is on afterwards. -/
  setOutput : Bool → Action α δ Bool

end PulseBench
