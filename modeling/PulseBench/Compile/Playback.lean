import PulseBench.Compile.Timeline
import PulseBench.Failure
import PulseBench.Program.Object

/-!
# What an ensemble plays

`Ensemble.played` lists the elements of an ensemble in playback order, block by block and
repetition by repetition. `Ensemble.analyse` puts that list on the quantised timeline: it gives the
bins of every element and the bins at which a digital channel changes.

An ensemble is played in a loop, so the level before bin zero is the one of the last element. An
element without bins has no level.
-/

namespace PulseBench

variable {α : Type}

/-- An element at one of the repetitions of its block. -/
structure Played (α : Type) where
  element : Element α
  repetition : Nat

namespace Played

/-- Ideal duration. -/
def length [Scalar α] (p : Played α) : α := p.element.lengthAt p.repetition

end Played

/-- Playback of one block. -/
def Block.played (b : Block α) (repetitions : Nat) : List (Played α) :=
  (List.range repetitions).flatMap fun repetition => b.elements.map (⟨·, repetition⟩)

namespace Ensemble

variable [Scalar α]

/-- One entry of the block list, played. -/
def play (e : Ensemble α) (blocks : Roster (Block α)) (block : String) (repetitions : Nat) :
    Except (Failure α) (List (Played α)) :=
  match blocks.get? block with
  | none => .error (.unknown ObjectKind.block.collection block)
  | some b =>
      if repetitions = 0 then .error (.program (.noRepetitions block e.name))
      else
        match b.inconsistentElement? with
        | some index => .error (.program (.mixedElement index block))
        | none => .ok (b.played repetitions)

/-- The elements in playback order. -/
def played (e : Ensemble α) (blocks : Roster (Block α)) :
    Except (Failure α) (List (Played α)) := do
  let plays ← e.plays.mapM fun (block, repetitions) => e.play blocks block repetitions
  return plays.flatten

end Ensemble

/-! ## Edges -/

/-- A level together with the bin at which it starts. -/
structure LevelStart where
  bin : Nat
  high : Bool

/-- The starts at which the level changes to `target`, the level before being `previous`. -/
def edges (target : Bool) : Bool → List LevelStart → List Nat
  | _, [] => []
  | previous, s :: rest =>
      if s.high == target && previous != target then s.bin :: edges target s.high rest
      else edges target s.high rest

/-- The first bin of every element, from the bins of the elements before it. -/
def firstBins (start : Nat) : List Nat → List Nat
  | [] => []
  | n :: rest => start :: firstBins (start + n) rest

/-- Where the levels of the elements start, by any two-valued property of an element. Elements
without bins are left out. -/
def levelStarts (level : Element α → Bool) (played : List (Played α)) (bins : List Nat) :
    List LevelStart :=
  ((played.zip bins).zip (firstBins 0 bins)).filterMap fun ((p, n), first) =>
    if n = 0 then none else some ⟨first, level p.element⟩

/-- The level before bin zero in a loop: the one of the last element, with bins or without. -/
def loopLevel (level : Element α → Bool) (played : List (Played α)) : Bool :=
  (played.getLast?.map fun p => level p.element).getD false

/-- The bins at which a property of the played elements changes to `target`. -/
def edgesOf (target : Bool) (level : Element α → Bool) (played : List (Played α))
    (bins : List Nat) : List Nat :=
  edges target (loopLevel level played) (levelStarts level played bins)

/-! ## Analysis -/

/-- An ensemble on the timeline. -/
structure Analysis (α : Type) where
  samples : Nat
  /-- Ideal duration, in seconds. -/
  ideal : α
  /-- Bins of every element in playback order. -/
  bins : List Nat
  rising : Roster (List Nat)
  falling : Roster (List Nat)
  analog : NameSet
  digital : NameSet

namespace Analysis

def channels (a : Analysis α) : NameSet := a.analog.union a.digital

/-- How often a digital channel goes high. -/
def countRising (a : Analysis α) (channel : String) : Nat :=
  ((a.rising.get? channel).map List.length).getD 0

end Analysis

namespace Ensemble

variable [Scalar α]

/-- Playback of an ensemble whose blocks agree on the channels, with its first element. -/
def consistentPlayback (e : Ensemble α) (blocks : Roster (Block α)) :
    Except (Failure α) (Played α × List (Played α)) := do
  let played ← e.played blocks
  match played with
  | [] => .error (.program (.noElements e.name))
  | first :: _ =>
      match played.find? fun p => p.element.channels != first.element.channels with
      | some other =>
          .error (.program (.mixedBlocks e.name first.element.channels other.element.channels))
      | none => .ok (first, played)

/-- The durations of played elements, if all of them are finite and not negative. -/
def durations (e : Ensemble α) (played : List (Played α)) : Except (Failure α) (List α) :=
  played.mapM fun p =>
    if (0.0 : α) ≤ p.length && Scalar.isFinite p.length then .ok p.length
    else .error (.program (.invalidDuration e.name p.length))

/-- The ensemble on the timeline at a sample rate. -/
def analyse (e : Ensemble α) (blocks : Roster (Block α)) (rate : α) :
    Except (Failure α) (Analysis α) := do
  unless Scalar.isPositive rate do throw (.program (.rateNotPositive rate))
  let (first, played) ← e.consistentPlayback blocks
  let durations ← e.durations played
  let timeline := Timeline.start rate
  let bins := timeline.bins durations
  let digital := first.element.digitalChannels
  let changes (target : Bool) : Roster (List Nat) :=
    Roster.ofList (digital.names.map fun channel =>
      (channel, edgesOf target (·.isHigh channel) played bins))
  return {
    samples := (timeline.run durations).emitted
    ideal := (timeline.run durations).ideal
    bins
    rising := changes true
    falling := changes false
    analog := first.element.analogChannels
    digital }

end Ensemble

/-! ## Summaries -/

/-- Realised length of a program and the number of its laser pulses. -/
structure Summary (α : Type) where
  /-- In seconds. -/
  length : α
  bins : Nat
  lasers : Nat

/-- Laser pulses are the rising edges of the gate channel, else of the laser channel. If that is
not a digital channel, they are the changes to elements that are marked as laser. -/
def Ensemble.summary [Scalar α] (e : Ensemble α) (blocks : Roster (Block α)) (rate : α)
    (laser : String) (gate : Option String) : Except (Failure α) (Summary α) := do
  let analysis ← e.analyse blocks rate
  let counted := gate.getD laser
  let lasers ←
    if analysis.digital.contains counted then pure (analysis.countRising counted)
    else do
      let played ← e.played blocks
      pure (edgesOf true Element.laser played analysis.bins).length
  return ⟨Scalar.ofNat analysis.samples / rate, analysis.samples, lasers⟩

/-- The sum over the steps; a step that is repeated for ever counts once. -/
def Sequence.summary [Scalar α] (s : Sequence α) (ensembles : Roster (Ensemble α))
    (blocks : Roster (Block α)) (rate : α) (laser : String) (gate : Option String) :
    Except (Failure α) (Summary α) := do
  let parts ← s.steps.mapM fun step => do
    let e ← (ensembles.get? step.ensemble).elim
      (.error (.unknown ObjectKind.ensemble.collection step.ensemble)) .ok
    let part ← e.summary blocks rate laser gate
    let times := match step.repetitions with
      | .finite n => n
      | .infinite => 1
    return (part.bins * times, part.lasers * times)
  let (bins, lasers) := parts.foldl (fun (bins, lasers) (b, l) => (bins + b, lasers + l)) (0, 0)
  return ⟨Scalar.ofNat bins / rate, bins, lasers⟩

end PulseBench
