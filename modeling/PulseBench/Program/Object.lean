import PulseBench.Program.Shape

/-!
# Pulse programs

A pulse program is described without any hardware, from the leaf to the root:

1. `Element`: one segment with a shape on every analog channel and a level on every digital one.
   Its duration may grow with every repetition of its block.
2. `Block`: a named list of elements.
3. `Ensemble`: a named list of blocks with repetitions, played as one waveform.
4. `Sequence`: a named list of `Step`s, each playing an ensemble under sequencer control.

Ensembles and sequences carry two optional records. `Readout` tells a measurement how to read the
counts; `Record` says which waveforms on the device hold the object's samples, and is there exactly
while they do.
-/

namespace PulseBench

variable {α : Type}

/-! ## Elements and blocks -/

/-- One segment of a block. -/
structure Element (α : Type) where
  /-- Duration at the first repetition, in seconds. -/
  length : α
  /-- What every further repetition adds to the duration, in seconds. -/
  increment : α
  shapes : Roster (Shape α)
  levels : Roster Bool
  /-- The laser is on: counts taken here belong to a readout. -/
  laser : Bool
deriving BEq

namespace Element

/-- Ideal duration at a repetition, the first being number zero. -/
def lengthAt [Scalar α] (e : Element α) (repetition : Nat) : α :=
  e.length + Scalar.ofNat repetition * e.increment

def analogChannels (e : Element α) : NameSet := e.shapes.nameSet

def digitalChannels (e : Element α) : NameSet := e.levels.nameSet

def channels (e : Element α) : NameSet := e.analogChannels.union e.digitalChannels

/-- The level of a channel; channels without a level are low. -/
def isHigh (e : Element α) (channel : String) : Bool := (e.levels.get? channel).getD false

end Element

/-- A named list of elements. -/
structure Block (α : Type) where
  name : String
  elements : List (Element α)
deriving BEq

namespace Block

def append (b : Block α) (e : Element α) : Block α := { b with elements := b.elements ++ [e] }

/-- Duration of the first repetition. -/
def length [Scalar α] (b : Block α) : α := Scalar.sum (b.elements.map Element.length)

def increment [Scalar α] (b : Block α) : α := Scalar.sum (b.elements.map Element.increment)

/-- Ideal duration of `repetitions` consecutive plays, in closed form. -/
def totalLength [Scalar α] (b : Block α) (repetitions : Nat) : α :=
  let n : α := Scalar.ofNat repetitions
  b.length * n + b.increment * n * (n - 1.0) / 2.0

/-- The channels of the first element stand for those of the block. -/
def analogChannels (b : Block α) : NameSet :=
  (b.elements.head?.map Element.analogChannels).getD ∅

def digitalChannels (b : Block α) : NameSet :=
  (b.elements.head?.map Element.digitalChannels).getD ∅

def channels (b : Block α) : NameSet := (b.elements.head?.map Element.channels).getD ∅

/-- The first element whose channels differ from those of the block. -/
def inconsistentElement? (b : Block α) : Option Nat :=
  b.elements.findIdx? fun e => e.channels != b.channels

end Block

/-! ## Records -/

/-- How the counts of a program are to be read. -/
structure Readout (α : Type) where
  /-- Two laser pulses per point, to be told apart. -/
  alternating : Bool
  /-- Lasers that carry no result; negative numbers count from the end. -/
  ignored : List Int
  /-- The swept quantity. -/
  axis : List α
  /-- Units of the axis and of the signal. -/
  units : String × String
  /-- Labels of the axis and of the signal. -/
  labels : String × String
  lasers : Nat
  /-- How long the counter has to record one playback, in seconds. -/
  countingLength : α
deriving BEq

/-- State of the pulse generator that a waveform is compiled for. -/
structure PulserSettings (α : Type) where
  rate : α
  /-- Name of the set of active channels. -/
  activation : String
  active : NameSet
  /-- Peak-to-peak voltage per analog channel. -/
  amplitudes : Roster α
deriving BEq

/-- What was written to the device for an object. -/
structure Record (α : Type) where
  samples : Nat
  elements : Nat
  /-- Bins of every element in playback order. -/
  bins : List Nat
  /-- Bins at which a digital channel goes high. -/
  rising : Roster (List Nat)
  /-- Bins at which a digital channel goes low. -/
  falling : Roster (List Nat)
  analog : NameSet
  digital : NameSet
  settings : PulserSettings α
  waveforms : List String
deriving BEq

/-- The record of nothing, written under the given settings. -/
def Record.blank (settings : PulserSettings α) : Record α :=
  ⟨0, 0, [], ∅, ∅, ∅, ∅, settings, []⟩

/-! ## Ensembles and sequences -/

/-- Blocks played one after the other as one waveform. -/
structure Ensemble (α : Type) where
  name : String
  /-- Block names with the number of times each is played. -/
  plays : List (String × Nat)
  /-- The phase of sines runs on across elements instead of restarting with each. -/
  rotating : Bool
  readout : Option (Readout α)
  record : Option (Record α)
deriving BEq

namespace Ensemble

/-- An edited ensemble is no longer what the device holds. -/
def append (e : Ensemble α) (block : String) (repetitions : Nat) : Ensemble α :=
  { e with plays := e.plays ++ [(block, repetitions)], record := none }

def isSampled (e : Ensemble α) : Bool := e.record.isSome

/-- Whether the ensemble plays a block. -/
def uses (e : Ensemble α) (block : String) : Bool := e.plays.any fun play => play.1 == block

end Ensemble

/-- How often a step is played. -/
inductive Repetitions where
  | finite (n : Nat)
  | infinite
deriving DecidableEq, Repr

/-- One step of a sequencer program. -/
structure Step where
  ensemble : String
  repetitions : Repetitions
  /-- Step to go on with; the next one if there is none. -/
  goTo : Option Nat
  eventJumpTo : Option Nat
  eventTrigger : Option String
  waitFor : Option String
  flagTrigger : List String
  flagHigh : List String
deriving DecidableEq

namespace Step

/-- A step that plays an ensemble and does nothing else. -/
def plain (ensemble : String) (repetitions : Repetitions) : Step :=
  ⟨ensemble, repetitions, none, none, none, none, [], []⟩

/-- The sequencer options that the step relies on. -/
def usedOptions (s : Step) : List String :=
  [ (s.goTo.isSome, "go_to"), (s.eventJumpTo.isSome, "event_jump_to"),
    (s.eventTrigger.isSome, "event_trigger"), (s.waitFor.isSome, "wait_for"),
    (!s.flagTrigger.isEmpty, "flag_trigger"), (!s.flagHigh.isEmpty, "flag_high"),
    (s.repetitions == .infinite, "repetitions") ].filterMap
    fun (used, option) => if used then some option else none

/-- The steps that playback may jump to from here. -/
def jumps (s : Step) : List Nat := s.goTo.toList ++ s.eventJumpTo.toList

end Step

/-- A sequencer program. -/
structure Sequence (α : Type) where
  name : String
  steps : List Step
  rotating : Bool
  readout : Option (Readout α)
  record : Option (Record α)
deriving BEq

namespace Sequence

/-- An edited sequence is no longer what the device holds. -/
def append (s : Sequence α) (step : Step) : Sequence α :=
  { s with steps := s.steps ++ [step], record := none }

def isSampled (s : Sequence α) : Bool := s.record.isSome

/-- Whether playback ends by itself. -/
def isFinite (s : Sequence α) : Bool := s.steps.all fun step => step.repetitions != .infinite

/-- The ensembles that are played, in order of first use. -/
def ensembleNames (s : Sequence α) : List String :=
  s.steps.foldl (fun names step =>
    if names.contains step.ensemble then names else names ++ [step.ensemble]) []

/-- Whether some step plays an ensemble. -/
def uses (s : Sequence α) (ensemble : String) : Bool :=
  s.steps.any fun step => step.ensemble == ensemble

end Sequence

end PulseBench
