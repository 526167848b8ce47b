import PulseBench.Compile.Waveform

/-!
# Compiling a sequence

A sequence is compiled in three passes: its steps are held against the device, every ensemble it
plays is analysed and validated, and only then the waveforms and the program are written.

In a rotating frame every step gets a waveform of its own, numbered by the step, so that its phase
goes on from the step before. Otherwise steps with the same ensemble share one waveform.
-/

namespace PulseBench

namespace Compiler

variable {α : Type}

/-- Holds the steps of a sequence against the sequencer of the device. -/
def checkSteps (c : Compiler α) (s : Sequence α) : Except (Failure α) Unit := do
  if c.limits.sequencer = .absent then throw (.program .noSequencer)
  if c.limits.maxSteps < s.steps.length then
    throw (.exceeded (.sequenceSteps s.name) s.steps.length c.limits.maxSteps)
  s.steps.forM fun step => do
    match step.usedOptions.find? fun option => !c.limits.stepOptions.contains option with
    | some option => throw (.program (.stepOption s.name option))
    | none => pure ()
    match step.jumps.find? fun target => decide (s.steps.length ≤ target) with
    | some target => throw (.program (.jumpTarget s.name target s.steps.length))
    | none => pure ()

/-- An ensemble by name. -/
def findEnsemble (ensembles : Roster (Ensemble α)) (name : String) :
    Except (Failure α) (Ensemble α) :=
  (ensembles.get? name).elim (.error (.unknown ObjectKind.ensemble.collection name)) .ok

/-- Everything that can be said about a sequence before the device is touched. -/
def checkSequence [Scalar α] (c : Compiler α) (s : Sequence α)
    (ensembles : Roster (Ensemble α)) (blocks : Roster (Block α)) :
    Except (Failure α) Unit := do
  c.checkSteps s
  s.ensembleNames.forM fun name => do
    let e ← findEnsemble ensembles name
    let a ← e.analyse blocks c.settings.rate
    c.validate name a

/-- The program written so far. -/
structure Draft (α : Type) where
  /-- Records by waveform name. -/
  sampled : Roster (Record α)
  offset : Nat
  steps : List ProgramStep

/-- The waveform of a step. -/
def waveformName (s : Sequence α) (e : Ensemble α) (number : Nat) : String :=
  if s.rotating then s!"{e.name}_{number}" else e.name

variable {δ : Type} [Pulser α δ]

/-- Compiles the ensemble of one step, unless its waveform is there already. -/
def addStep [Analytic α] (c : Compiler α) (s : Sequence α) (ensembles : Roster (Ensemble α))
    (blocks : Roster (Block α)) (draft : Draft α) (numbered : Step × Nat) :
    Action α δ (Draft α) := do
  let (step, number) := numbered
  let e ← Action.lift (findEnsemble ensembles step.ensemble)
  let name := waveformName s e number
  let steps := draft.steps ++ [⟨[name], step⟩]
  if draft.sampled.contains name then return { draft with steps }
  let framed := { e with rotating := s.rotating }
  let (offset, record) ← c.sampleEnsemble framed blocks name draft.offset
  return ⟨draft.sampled.insert name record, offset, steps⟩

/-- The record of a sequence from those of its waveforms. -/
def joinRecords (settings : PulserSettings α) (records : List (Record α)) : Record α :=
  records.foldl (fun total r =>
    { total with
      samples := total.samples + r.samples
      elements := total.elements + r.elements
      analog := total.analog.union r.analog
      digital := total.digital.union r.digital
      waveforms := total.waveforms ++ r.waveforms }) (Record.blank settings)

/-- Compiles a sequence. Returns its record, and the records of those ensembles whose waveform
carries their own name. -/
def sampleSequence [Analytic α] (c : Compiler α) (s : Sequence α)
    (ensembles : Roster (Ensemble α)) (blocks : Roster (Block α)) :
    Action α δ (Record α × List (String × Record α)) := do
  Action.lift (c.checkSequence s ensembles blocks)
  let draft ← s.steps.zipIdx.foldlM (c.addStep s ensembles blocks) ⟨∅, 0, []⟩
  let _ ← Pulser.writeSequence s.name draft.steps
  return (joinRecords c.settings draft.sampled.values,
    draft.sampled.entries.filter fun (name, _) => ensembles.contains name)

end Compiler

end PulseBench
