import PulseBench.Compile.Pieces
import PulseBench.Compile.Playback
import PulseBench.Program.ShapeFunction
import PulseBench.Pulser.Device

/-!
# Compiling an ensemble

`Compiler.sampleEnsemble` turns an ensemble into a waveform on a pulse generator.

1. The ensemble is analysed and held against the settings and the limits of the device. Nothing is
   written unless all of that passes.
2. Every element is cut into pieces of at most `chunk` bins, and consecutive pieces are grouped
   into chunks: a piece joins the chunk before it if it still fits.
3. Chunk by chunk, the samples are evaluated and written. The value of a sample depends on its
   element and its place in it, never on the chunks.

If evaluation or writing fails later than the first chunk, the part already written is deleted.
-/

namespace PulseBench

variable {α : Type}

/-- What a compilation depends on besides the program. -/
structure Compiler (α : Type) where
  functions : Registry α (ShapeRule α)
  settings : PulserSettings α
  limits : Limits α
  /-- Greatest number of samples written in one call; zero counts as one. -/
  chunk : Nat

/-- Consecutive bins of an element. -/
structure Piece (α : Type) where
  element : Element α
  /-- The bin that time is counted from, for the first bin of the element. -/
  origin : Nat
  span : Span α
  /-- First bin of the piece within the element. -/
  first : Nat
  size : Nat

namespace Compiler

/-! ## Validation -/

/-- Holds an analysed ensemble against settings and limits, without touching the device. -/
def validate [Scalar α] (c : Compiler α) (user : String) (a : Analysis α) :
    Except (Failure α) Unit := do
  let rate := c.settings.rate
  unless c.limits.rates.allows rate do
    throw (.program (.rateOutOfRange rate c.limits.rates.least c.limits.rates.greatest))
  let known := c.limits.channels
  match a.channels.names.find? fun channel => !known.contains channel with
  | some channel => throw (.program (.unknownChannel user channel))
  | none => pure ()
  unless a.channels == c.settings.active do
    throw (.program (.channelsNotActive user a.channels c.settings.active))
  let unset (channel : String) : Bool :=
    ((c.settings.amplitudes.get? channel).map fun v => decide (v ≤ 0.0)).getD true
  match a.analog.names.find? unset with
  | some channel => throw (.program (.noAmplitude channel))
  | none => pure ()
  if c.limits.samples.greatest < a.samples then
    throw (.exceeded (.waveformSamples user) a.samples c.limits.samples.greatest)
  if a.samples < c.limits.samples.least then
    throw (.program (.tooShort user a.samples c.limits.samples.least))

/-! ## Samples -/

/-- Voltages may exceed the amplitude by rounding errors only. -/
def fullScale [Scalar α] : α := 1.0 + 1e-9

/-- A voltage as a fraction of the amplitude of its channel. -/
def normalise [Analytic α] (shape : Shape α) (channel : String) (amplitude voltage : α) :
    Except (Failure α) α :=
  let fraction := voltage / amplitude
  if fullScale < Scalar.abs fraction || !Scalar.isFinite fraction then
    .error (.program (.overdriven shape channel voltage amplitude))
  else .ok (Analytic.narrow fraction)

/-- The times of the bins of a piece. -/
def times [Scalar α] (c : Compiler α) (p : Piece α) : List α :=
  (List.range p.size).map fun i => Scalar.ofNat (p.origin + (p.first + i)) / c.settings.rate

/-- The samples of an analog channel. -/
def analogSamples [Analytic α] (c : Compiler α) (p : Piece α) (channel : String) :
    Except (Failure α) (List α) := do
  let shape ← (p.element.shapes.get? channel).elim (.error (.program (.noShape channel))) .ok
  let amplitude := (c.settings.amplitudes.get? channel).getD 1.0
  let voltages ← shape.voltages c.functions p.span (c.times p)
  voltages.mapM (normalise shape channel amplitude)

/-- The samples of a digital channel. -/
def digitalSamples (p : Piece α) (channel : String) : List Bool :=
  List.replicate p.size (p.element.isHigh channel)

/-- The samples of a piece on all analog channels. -/
def analogPart [Analytic α] (c : Compiler α) (analog : NameSet) (p : Piece α) :
    Except (Failure α) (List (String × List α)) :=
  analog.names.mapM fun channel => do return (channel, ← c.analogSamples p channel)

/-! ## Pieces and chunks -/

/-- The pieces of played elements. In a rotating frame time is counted from bin `offset` before the
first element, otherwise from the start of each element. -/
def pieces [Scalar α] (c : Compiler α) (rotating : Bool) (offset : Nat)
    (played : List (Played α)) (bins : List Nat) : List (Piece α) :=
  ((played.zip bins).zip (firstBins 0 bins)).flatMap fun ((p, n), first) =>
    let origin := if rotating then offset + first else 0
    let span : Span α :=
      ⟨Scalar.ofNat origin / c.settings.rate, Scalar.ofNat (n - 1) / c.settings.rate⟩
    (PulseBench.pieces n c.chunk).map fun (start, size) => ⟨p.element, origin, span, start, size⟩

/-- Groups pieces into chunks of at most `capacity` bins; `taken` is the chunk being filled, last
piece first, and `used` its bins. -/
def groups (capacity : Nat) : List (Piece α) → List (Piece α) → Nat → List (List (Piece α))
  | [], taken, _ => if taken.isEmpty then [] else [taken.reverse]
  | p :: rest, taken, used =>
      if used + p.size ≤ capacity then groups capacity rest (p :: taken) (used + p.size)
      else if taken.isEmpty then groups capacity rest [p] p.size
      else taken.reverse :: groups capacity rest [p] p.size

/-- The bins of a group of pieces. -/
def groupSize (group : List (Piece α)) : Nat := group.foldl (fun bins p => bins + p.size) 0

/-- The chunk of a group of pieces, `written` samples being written before it. -/
def chunkOf [Analytic α] (c : Compiler α) (a : Analysis α) (written : Nat)
    (group : List (Piece α)) : Except (Failure α) (Chunk α) := do
  let parts ← group.mapM (c.analogPart a.analog)
  let size := groupSize group
  return {
    analog := Roster.ofList (a.analog.names.map fun channel =>
      (channel, parts.flatMap fun part => (part.lookup channel).getD []))
    digital := Roster.ofList (a.digital.names.map fun channel =>
      (channel, group.flatMap (digitalSamples · channel)))
    isFirst := written == 0
    isLast := written + size == a.samples
    total := a.samples }

/-! ## Writing -/

variable {δ : Type} [Pulser α δ]

/-- Deletes a waveform whatever comes of it. -/
def discard (name : String) (device : δ) : δ :=
  match (Pulser.deleteWaveform name : Action α δ (List String)) device with
  | .ok _ device => device
  | .error _ device => device

/-- If an action fails after `written` samples were written, these are deleted. -/
def orDiscard {β : Type} (name : String) (written : Nat) (act : Action α δ β) :
    Action α δ β := fun device =>
  match act device with
  | .ok b device => .ok b device
  | .error e device => .error e (if 0 < written then discard name device else device)

/-- Evaluates and writes one group of pieces; returns the number of its samples. -/
def writeGroup [Analytic α] (c : Compiler α) (name : String) (a : Analysis α) (written : Nat)
    (group : List (Piece α)) : Action α δ Nat := do
  let chunk ← Action.lift (c.chunkOf a written group)
  let size := groupSize group
  let reported ← Pulser.writeWaveform name chunk
  if reported ≠ size then throw (.device (.shortWrite name reported size))
  return size

/-- Writes all groups after `written` samples, and checks the total. -/
def writeGroups [Analytic α] (c : Compiler α) (name : String) (a : Analysis α) :
    Nat → List (List (Piece α)) → Action α δ Unit
  | written, [] =>
      orDiscard name written do
        if written ≠ a.samples then throw (.device (.wrongTotal name written a.samples))
  | written, group :: rest => do
      let size ← orDiscard name written (c.writeGroup name a written group)
      c.writeGroups name a (written + size) rest

/-- Compiles an ensemble into a waveform. Returns the offset behind it and its record; the offset
only moves in a rotating frame. -/
def sampleEnsemble [Analytic α] (c : Compiler α) (e : Ensemble α) (blocks : Roster (Block α))
    (name : String) (offset : Nat) : Action α δ (Nat × Record α) := do
  let a ← Action.lift (e.analyse blocks c.settings.rate)
  Action.lift (c.validate e.name a)
  let played ← Action.lift (e.played blocks)
  let pieces := c.pieces e.rotating offset played a.bins
  c.writeGroups name a 0 (groups (max c.chunk 1) pieces [] 0)
  return (if e.rotating then offset + a.samples else offset,
    { samples := a.samples
      elements := a.bins.length
      bins := a.bins
      rising := a.rising
      falling := a.falling
      analog := a.analog
      digital := a.digital
      settings := c.settings
      waveforms := [name] })

end Compiler

end PulseBench
