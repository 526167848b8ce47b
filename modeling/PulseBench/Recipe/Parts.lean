import PulseBench.Channel
import PulseBench.Plugin.Registry
import PulseBench.Program.Object

/-!
# Parts of measurement recipes

A recipe builds the pulse program of a standard measurement from a few kinds of elements: laser,
microwave and idle elements, the readout, and a trigger. `RecipeContext` makes them for the active
channels of the device and the generation parameters that all recipes share.

Every element starts with all analog channels idle and all digital channels low; a pulse then sets
the channel it needs.
-/

namespace PulseBench

variable {α : Type}

/-- Parameters that all recipes share. -/
structure GenerationParameters (α : Type) where
  laserChannel : String
  syncChannel : Option String
  gateChannel : Option String
  microwaveChannel : String
  /-- In Hz. -/
  microwaveFrequency : α
  /-- Peak amplitude, in volts. -/
  microwaveAmplitude : α
  /-- Durations, in seconds. -/
  laserLength : α
  laserDelay : α
  waitTime : α
  rabiPeriod : α
  /-- Voltage of a laser on an analog channel. -/
  triggerVoltage : α
deriving BEq

namespace GenerationParameters

def default [Scalar α] : GenerationParameters α where
  laserChannel := "d_ch1"
  syncChannel := none
  gateChannel := none
  microwaveChannel := "a_ch1"
  microwaveFrequency := 2.87e9
  microwaveAmplitude := 0.25
  laserLength := 3e-6
  laserDelay := 500e-9
  waitTime := 1e-6
  rabiPeriod := 200e-9
  triggerVoltage := 0.0

/-- The channels that recipes refer to. -/
def channels (g : GenerationParameters α) : List String :=
  [g.laserChannel, g.microwaveChannel] ++ g.syncChannel.toList ++ g.gateChannel.toList

/-- The channel whose rising edges mark the laser pulses. -/
def edgeChannel (g : GenerationParameters α) : String := g.gateChannel.getD g.laserChannel

end GenerationParameters

/-- The objects that a recipe makes. -/
structure Generated (α : Type) where
  blocks : List (Block α)
  ensembles : List (Ensemble α)
  sequences : List (Sequence α)

/-- What a recipe can read. -/
structure RecipeContext (α : Type) where
  settings : PulserSettings α
  generation : GenerationParameters α

namespace RecipeContext

/-- Fails unless all channels that recipes refer to are active. -/
def checkChannels (c : RecipeContext α) : Except (Failure α) Unit :=
  match c.generation.channels.find? fun channel => !c.settings.active.contains channel with
  | some channel => .error (.generator (.channelInactive channel))
  | none => .ok ()

def analogChannels (c : RecipeContext α) : List String :=
  c.settings.active.names.filter Channel.isAnalog

def digitalChannels (c : RecipeContext α) : List String :=
  c.settings.active.names.filter Channel.isDigital

/-! ## Elements -/

/-- All analog channels idle, all digital channels low. -/
def idle (c : RecipeContext α) (length increment : α) : Element α where
  length := length
  increment := increment
  shapes := Roster.ofList (c.analogChannels.map fun channel => (channel, Shape.idle))
  levels := Roster.ofList (c.digitalChannels.map fun channel => (channel, false))
  laser := false

/-- The element with a digital channel high. -/
def raised (e : Element α) (channel : String) : Element α :=
  { e with levels := e.levels.insert channel true }

/-- The element with a shape on an analog channel. -/
def shaped (e : Element α) (channel : String) (shape : Shape α) : Element α :=
  { e with shapes := e.shapes.insert channel shape }

/-- The element with the laser on. -/
def withLaser (c : RecipeContext α) (e : Element α) : Element α :=
  let g := c.generation
  let lit :=
    if Channel.isAnalog g.laserChannel then
      shaped e g.laserChannel (Shape.constant g.triggerVoltage)
    else raised e g.laserChannel
  { lit with laser := true }

/-- The element with the counter gate open, if there is one. -/
def withGate (c : RecipeContext α) (e : Element α) : Element α :=
  c.generation.gateChannel.elim e (raised e)

def laser (c : RecipeContext α) (length increment : α) : Element α :=
  c.withLaser (c.idle length increment)

/-- A microwave pulse: a high level on a digital channel, a sine on an analog one. -/
def microwave (c : RecipeContext α) (length increment amplitude frequency phase : α) :
    Element α :=
  let channel := c.generation.microwaveChannel
  let e := c.idle length increment
  if Channel.isDigital channel then raised e channel
  else shaped e channel (Shape.sine amplitude frequency phase)

/-- A microwave pulse at the configured amplitude and frequency. -/
def drive [Scalar α] (c : RecipeContext α) (length increment : α) : Element α :=
  let g := c.generation
  c.microwave length increment g.microwaveAmplitude g.microwaveFrequency 0.0

/-- A pulse that lasts a fraction of the Rabi period: a half for a pi pulse. -/
def rotation [Scalar α] (c : RecipeContext α) (fraction phase : α) : Element α :=
  let g := c.generation
  c.microwave (g.rabiPeriod * fraction) 0.0 g.microwaveAmplitude g.microwaveFrequency phase

def halfPi [Scalar α] (c : RecipeContext α) : Element α := c.rotation 0.25 0.0

/-- A 3π/2 pulse: on an analog channel a π/2 pulse of opposite phase, on a digital one a longer
pulse. -/
def threeHalfPi [Scalar α] (c : RecipeContext α) : Element α :=
  if Channel.isAnalog c.generation.microwaveChannel then c.rotation 0.25 180.0
  else c.rotation 0.75 0.0

/-- Laser, delay and wait: what ends every part of a measurement that is read out. -/
def readout [Scalar α] (c : RecipeContext α) : List (Element α) :=
  let g := c.generation
  [ c.withGate (c.laser g.laserLength 0.0), c.withGate (c.idle g.laserDelay 0.0),
    c.idle g.waitTime 0.0 ]

/-! ## Finishing -/

/-- Length of the trigger element, in seconds. -/
def syncLength [Scalar α] : α := 50e-9

/-- The block that triggers other devices at the end of a playback. -/
def syncBlock [Scalar α] (c : RecipeContext α) (channel : String) : Block α :=
  ⟨"sync_trigger", [raised (c.idle syncLength 0.0) channel]⟩

/-- How long the counter has to record: one laser pulse with its delay if the counter is gated,
otherwise the whole ensemble. -/
def countingLength [Scalar α] (c : RecipeContext α) (plays : List (String × Nat))
    (blocks : List (Block α)) : Except (Failure α) α :=
  if c.generation.gateChannel.isSome then
    .ok (c.generation.laserLength + c.generation.laserDelay)
  else
    plays.foldlM (fun length (name, repetitions) =>
      match blocks.find? fun b => b.name == name with
      | some b => .ok (length + b.totalLength repetitions)
      | none => .error (.unknown "generated blocks" name)) 0.0

/-- One block as an ensemble, with the trigger behind it if a sync channel is configured. -/
def finish [Scalar α] (c : RecipeContext α) (name : String) (block : Block α)
    (repetitions : Nat) (rotating : Bool) (readout : Readout α) :
    Except (Failure α) (Generated α) := do
  let trigger := (c.generation.syncChannel.map c.syncBlock).toList
  let blocks := block :: trigger
  let plays := (block.name, repetitions) :: trigger.map fun b => (b.name, 1)
  let countingLength ← c.countingLength plays blocks
  let ensemble : Ensemble α :=
    ⟨name, plays, rotating, some { readout with countingLength }, none⟩
  return ⟨blocks, [ensemble], []⟩

end RecipeContext

end PulseBench
