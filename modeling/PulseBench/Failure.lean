import PulseBench.Param.Spec
import PulseBench.Program.Shape

/-!
# Failures

Every operation that can fail says why: `Failure` lists the causes, with the values that a message
about them shows. `Failure.kind` sorts the causes into the classes that callers tell apart, and
`Failure.message` words them.

- *Configuration*: a request that is invalid or out of range. Nothing was done.
- *Resource*: a valid request that does not fit the device.
- *Hardware*: a device failed, refused or did less than it was told. These stop a measurement.
- *Lookup*: an unknown name.
- *Processing*: counts that hold no result.
- *Io*, *Serialization*: a file that can not be read, or holds something else.
-/

namespace PulseBench

/-- The classes of failures. -/
inductive FailureKind where
  | configuration
  | resource
  | hardware
  | lookup
  | processing
  | io
  | serialization
deriving DecidableEq, Repr

/-- The kinds of pulse objects that are kept by name. -/
inductive ObjectKind where
  | block
  | ensemble
  | sequence
deriving DecidableEq, Repr

/-- The word for a kind in file names. -/
def ObjectKind.word : ObjectKind → String
  | .block => "block"
  | .ensemble => "ensemble"
  | .sequence => "sequence"

/-- What the kind is called in messages about its names. -/
def ObjectKind.title : ObjectKind → String
  | .block => "Pulse block"
  | .ensemble => "Pulse block ensemble"
  | .sequence => "Pulse sequence"

/-- The collection of all objects of a kind. -/
def ObjectKind.collection : ObjectKind → String
  | .block => "pulse blocks"
  | .ensemble => "pulse block ensembles"
  | .sequence => "pulse sequences"

/-- Objects that can be played: a single waveform, or a sequencer program. -/
inductive AssetKind where
  | ensemble
  | sequence
deriving DecidableEq, Repr

def AssetKind.word : AssetKind → String
  | .ensemble => "Ensemble"
  | .sequence => "Sequence"

/-- The states of a measurement. -/
inductive RunState where
  | idle
  | running
  | paused
  | stopping
deriving DecidableEq, Repr

def RunState.word : RunState → String
  | .idle => "Idle"
  | .running => "Running"
  | .paused => "Paused"
  | .stopping => "Stopping"

/-- The derived views of a measured signal. -/
inductive ViewKind where
  | none
  | delta
  | spectrum
deriving DecidableEq, Repr

def ViewKind.word : ViewKind → String
  | .none => "None"
  | .delta => "Delta"
  | .spectrum => "Fft"

/-- The parts of a laser window that an evaluation reads. -/
inductive WindowRole where
  | signal
  | norm
deriving DecidableEq, Repr

def WindowRole.word : WindowRole → String
  | .signal => "signal"
  | .norm => "norm"

/-! ## Causes -/

/-- Parameters that do not fit their declaration. -/
inductive ParamFault (α : Type) where
  | wrongType (name : String) (kind : ParamKind) (value : ParamValue α)
  | notAnOption (name : String) (options : List String) (value : String)
  | outOfRange (name : String) (value : α) (min max : Option (Bound α))
  | missing (key : String)
  | negative (key : String)
  | methodNotText (value : ParamValue α)

/-- Pulse programs that can not be compiled. -/
inductive ProgramFault (α : Type) where
  | channelName (name : String)
  | channelDigits (name : String)
  | channelTooLarge (name : String)
  | rateNotPositive (rate : α)
  | noRepetitions (block ensemble : String)
  | mixedElement (index : Nat) (block : String)
  | noElements (ensemble : String)
  | mixedBlocks (ensemble : String) (first other : NameSet)
  | invalidDuration (ensemble : String) (duration : α)
  | rateOutOfRange (rate low high : α)
  | unknownChannel (user channel : String)
  | channelsNotActive (user : String) (used active : NameSet)
  | noAmplitude (channel : String)
  | tooShort (user : String) (samples least : Nat)
  | noShape (channel : String)
  | overdriven (shape : Shape α) (channel : String) (voltage amplitude : α)
  | noSequencer
  | stepOption (sequence option : String)
  | jumpTarget (sequence : String) (target steps : Nat)

/-- Requests to the pulse generator and its objects that are refused. -/
inductive GeneratorFault (α : Type) where
  | emptyName (kind : ObjectKind)
  | unusableFileName (name : String) (kind : ObjectKind)
  | unknownActivation (name : String) (available : List String)
  | notAnalog (channel : String)
  | amplitudeOutOfRange (amplitude : α) (channel : String) (low high : α)
  | notSampled (kind : AssetKind) (name : String)
  | channelInactive (channel : String)
  | decouplingFrequency (frequency : α)

/-- Requests to the measurement that are refused. -/
inductive MeasureFault (α : Type) where
  | counterTimes (binWidth recordLength : α)
  | recordTooLong (recordLength limit : α)
  | noGates
  | countsNotExpected (method : String) (gated : Bool)
  | binWidthNotPositive
  | thresholdsCrossed (low high : α)
  | emptyWindow (role : WindowRole) (start stop columns : Nat)
  | notIdle (what : String) (state : RunState)
  | deltaNeedsAlternating (kept : ViewKind)
  | noMicrowave
  | timerNotPositive (seconds : α)
  | noAsset
  | noReadout (asset : String)
  | assetBusy (asset : String)
  | pauseNeedsRun (state : RunState)
  | resumeNeedsPause (state : RunState)
  | unusableTag (tag : String)
  | noDirectory

/-- Settings files that are refused. -/
inductive ConfigFault (α : Type) where
  | invalid
  | notPositive (name : String) (value : α)
  | negativeWait (value : α)
  | noCapacity
  | importFailed

/-- Resources that can run out. -/
inductive Resource where
  | waveformSamples (waveform : String)
  | sequenceSteps (sequence : String)
  | gates
deriving DecidableEq, Repr

/-- Ways in which a device fails. -/
inductive DeviceFault where
  | injected (call : String)
  | refused (call : String)
  | noActivation (channels : NameSet)
  | unknownContinuation (waveform : String)
  | missingWaveform (sequence waveform : String)
  | noAsset (name : String)
  | notUploaded (name : String)
  | shortWrite (waveform : String) (written buffered : Nat)
  | wrongTotal (waveform : String) (written expected : Nat)
  | counterBusy
  | counterSilent
  | microwaveRejected (call : String)
deriving DecidableEq

/-- Counts that hold no result. -/
inductive DataFault where
  | noCounts
  | pulseCount (found expected : Nat)
  | noKnownEdges
  | edgeCount (known expected : Nat)
  | shortGates
  | noGatedPulse (rising falling : Nat)
  | unevenAxis
  | arrangement (kept points : Nat) (alternating : Bool)
deriving DecidableEq, Repr

/-- Why an operation failed. -/
inductive Failure (α : Type) where
  | param (fault : ParamFault α)
  | program (fault : ProgramFault α)
  | generator (fault : GeneratorFault α)
  | measure (fault : MeasureFault α)
  | config (fault : ConfigFault α)
  | exceeded (resource : Resource) (requested limit : Nat)
  | device (fault : DeviceFault)
  | unknown (collection name : String)
  | data (fault : DataFault)
  | io
  | unreadable

/-! ## Classes -/

namespace Failure

variable {α : Type}

/-- The class of a failure. -/
def kind : Failure α → FailureKind
  | .param _ | .program _ | .generator _ | .measure _ | .config _ => .configuration
  | .exceeded .. => .resource
  | .device _ => .hardware
  | .unknown .. => .lookup
  | .data _ => .processing
  | .io => .io
  | .unreadable => .serialization

/-- Whether the failure has to stop a running measurement. -/
def isHardware (f : Failure α) : Bool := f.kind == .hardware

end Failure

/-! ## Messages -/

section Messages

variable {α : Type} [Numeral α]

open Numeral Text

def ParamFault.message : ParamFault α → String
  | .wrongType name kind value =>
      s!"Parameter '{name}' expects {kind.label}, got '{value.plain}'"
  | .notAnOption name options value =>
      s!"Parameter '{name}' must be one of {quotedList options}, got '{value}'"
  | .outOfRange name value min max =>
      let low := Bound.label "-inf" min
      let high := Bound.label "inf" max
      s!"Parameter '{name}' = {plain value} outside of [{low}, {high}]"
  | .missing key => s!"Missing or mistyped parameter '{key}'"
  | .negative key => s!"Parameter '{key}' must be >= 0"
  | .methodNotText value => s!"'method' must be a string, got '{value.plain}'"

def ProgramFault.message : ProgramFault α → String
  | .channelName name => s!"Channel name {name} does not match a_ch<N> or d_ch<N>"
  | .channelDigits name => s!"Channel name {name}: invalid digit found in string"
  | .channelTooLarge name => s!"Channel name {name}: number too large to fit in target type"
  | .rateNotPositive rate => s!"Sample rate {plain rate} must be positive"
  | .noRepetitions block ensemble =>
      s!"Block {block} in ensemble {ensemble} has repetition count 0"
  | .mixedElement index block =>
      s!"Element {index} of block {block} uses a different channel set than the first element"
  | .noElements ensemble => s!"Ensemble {ensemble} contains no elements"
  | .mixedBlocks ensemble first other =>
      let sets := quotedSet first.names ++ " vs " ++ quotedSet other.names
      s!"Blocks of ensemble {ensemble} use different channel sets: {sets}"
  | .invalidDuration ensemble duration =>
      s!"Element of ensemble {ensemble} has invalid duration {plain duration}"
  | .rateOutOfRange rate low high =>
      let range := scientific low ++ ".." ++ scientific high
      s!"Sample rate {scientific rate} outside of hardware range {range}"
  | .unknownChannel user channel => s!"{user} references unknown channel {channel}"
  | .channelsNotActive user used active =>
      let listed := quotedSet used.names ++ " but the active channels are " ++
        quotedSet active.names
      s!"{user} uses channels {listed}"
  | .noAmplitude channel => s!"No valid amplitude set for analog channel {channel}"
  | .tooShort user samples least =>
      s!"{user} has {samples} samples, the hardware needs at least {least}"
  | .noShape channel => s!"Element has no shape on channel {channel}"
  | .overdriven shape channel voltage amplitude =>
      let reached := s!"{plain voltage} V, beyond the {plain amplitude} Vpp amplitude"
      s!"Shape {shape.plain} on {channel} reaches {reached}"
  | .noSequencer => "Pulse generator has no sequencer, sequences can not be sampled"
  | .stepOption sequence option =>
      s!"Sequence {sequence} uses step option {option} unsupported by the hardware"
  | .jumpTarget sequence target steps =>
      s!"Sequence {sequence} jumps to step {target} of {steps}"

def GeneratorFault.message : GeneratorFault α → String
  | .emptyName kind => s!"{kind.title} name must not be empty"
  | .unusableFileName name kind => s!"'{name}' can not be used as a {kind.word} file name"
  | .unknownActivation name available =>
      s!"Unknown activation config {name}, available: {quotedList available}"
  | .notAnalog channel => s!"{channel} is not an analog channel"
  | .amplitudeOutOfRange amplitude channel low high =>
      let range := plain low ++ ".." ++ plain high
      s!"Amplitude {plain amplitude} V on {channel} outside of {range} V"
  | .notSampled kind name =>
      s!"{kind.word} {name} has not been sampled, sample it before loading"
  | .channelInactive channel =>
      s!"Channel {channel} used by the generation parameters is not active"
  | .decouplingFrequency frequency =>
      s!"XY8 frequency must be positive, got {plain frequency} Hz"

def MeasureFault.message : MeasureFault α → String
  | .counterTimes binWidth recordLength =>
      let both := s!"{plain binWidth} s and record length {plain recordLength} s"
      s!"Bin width {both} must both be positive"
  | .recordTooLong recordLength limit =>
      let maximum := s!"the counter maximum of {plain limit} s"
      s!"Record length {plain recordLength} s exceeds {maximum}"
  | .noGates => "A gated counter needs at least one gate"
  | .countsNotExpected method gated =>
      let expected := if gated then "gated" else "ungated"
      s!"Extraction method {method} expects {expected} counter data"
  | .binWidthNotPositive => "Counter bin width must be positive"
  | .thresholdsCrossed low high =>
      s!"Low threshold {plain low} is above the high threshold {plain high}"
  | .emptyWindow role start stop columns =>
      let bins := s!"[{start}, {stop}) bins"
      s!"The {role.word} window {bins} is empty for laser windows of {columns} bins"
  | .notIdle what state => s!"Can not change {what} while the measurement is {state.word}"
  | .deltaNeedsAlternating kept =>
      s!"Delta alternative data needs an alternating measurement, keeping {kept.word}"
  | .noMicrowave => "No microwave source is connected"
  | .timerNotPositive seconds =>
      s!"Timer interval must be a positive number of seconds, got {plain seconds}"
  | .noAsset => "Invoking settings requires a loaded asset"
  | .noReadout asset => s!"Asset {asset} carries no measurement information to invoke"
  | .assetBusy asset => s!"Asset {asset} is being compiled or uploaded"
  | .pauseNeedsRun state => s!"Only a running measurement can be paused, it is {state.word}"
  | .resumeNeedsPause state => s!"Only a paused measurement can be resumed, it is {state.word}"
  | .unusableTag tag => s!"'{tag}' can not be used as a file name tag"
  | .noDirectory => "No directory given and no data_path or storage_path configured"

def ConfigFault.message : ConfigFault α → String
  | .invalid => "Invalid configuration"
  | .notPositive name value => s!"{name} must be positive, got {plain value}"
  | .negativeWait value => s!"asset_wait_s must not be negative, got {plain value}"
  | .noCapacity => "write_chunk_samples and queue_capacity must be at least 1"
  | .importFailed => "import failed"

def Resource.label : Resource → String
  | .waveformSamples waveform => s!"waveform {waveform} samples"
  | .sequenceSteps sequence => s!"sequence {sequence} steps"
  | .gates => "number of gates"

def DeviceFault.message : DeviceFault → String
  | .injected call => s!"injected {call}"
  | .refused call => s!"dummy pulser refused {call}"
  | .noActivation channels =>
      s!"dummy pulser has no activation config {quotedSet channels.names}"
  | .unknownContinuation waveform => s!"continuation chunk for unknown waveform {waveform}"
  | .missingWaveform sequence waveform =>
      s!"sequence {sequence} references missing waveform {waveform}"
  | .noAsset name => s!"no asset {name} to upload"
  | .notUploaded name => s!"asset {name} not uploaded"
  | .shortWrite waveform written buffered =>
      s!"Waveform {waveform}: generator wrote {written} of {buffered} samples"
  | .wrongTotal waveform written expected =>
      s!"Waveform {waveform}: {written} samples written, {expected} expected"
  | .counterBusy => "counter is busy"
  | .counterSilent => "counter did not answer"
  | .microwaveRejected call => s!"microwave source rejected {call}"

def DataFault.message : DataFault → String
  | .noCounts => "trace holds no counts"
  | .pulseCount found expected => s!"found {found} laser pulses, expected {expected}"
  | .noKnownEdges => "no laser edges are known for the loaded asset"
  | .edgeCount known expected =>
      s!"the loaded asset has {known} laser edges, expected {expected}"
  | .shortGates => "gates are too short to find edges"
  | .noGatedPulse rising falling =>
      let edges := s!"rising edge {rising}, falling edge {falling}"
      s!"no laser pulse found in the gates ({edges})"
  | .unevenAxis => "FFT needs an evenly stepped controlled variable"
  | .arrangement kept points alternating =>
      let layout := if alternating then " (alternating)" else ""
      s!"{kept} analysed lasers do not fit {points} controlled variable points{layout}"

/-- The text of a failure, its class first. -/
def Failure.message : Failure α → String
  | .param fault => s!"Configuration error: {fault.message}"
  | .program fault => s!"Configuration error: {fault.message}"
  | .generator fault => s!"Configuration error: {fault.message}"
  | .measure fault => s!"Configuration error: {fault.message}"
  | .config fault => s!"Configuration error: {fault.message}"
  | .exceeded resource requested limit =>
      s!"Resource exceeded: {resource.label} requires {requested} but the limit is {limit}"
  | .device fault => s!"Hardware communication error: {fault.message}"
  | .unknown collection name => s!"No entry named '{name}' in {collection}"
  | .data fault => s!"Processing error: {fault.message}"
  | .io => "IO error"
  | .unreadable => "Serialization error"

end Messages

end PulseBench
