import PulseBench.Generator.Objects
import PulseBench.Measure.Export
import PulseBench.Measure.Run

/-!
# Commands

Two workers run the bench, one for the generator and one for the measurement. Everything that is
asked of them is a command, and every command has an answer. This module says what each command does
to the part that its worker owns; `Session.Basic` lets the workers talk to each other.
-/

namespace PulseBench

variable {α δ κ μ : Type}

/-! ## Generator -/

/-- What can be asked of the generator. -/
inductive GeneratorCommand (α : Type) where
  | saveBlock (b : Block α)
  | saveEnsemble (e : Ensemble α)
  | saveSequence (s : Sequence α)
  | getBlock (name : String)
  | getEnsemble (name : String)
  | getSequence (name : String)
  | deleteBlock (name : String)
  | deleteEnsemble (name : String)
  | deleteSequence (name : String)
  | getNames
  | getSettings
  | setSettings (request : SettingsRequest α)
  | setGeneration (parameters : GenerationParameters α)
  /-- Compiles an object, and loads it if `andLoad` says so. -/
  | sample (name : String) (kind : AssetKind) (andLoad : Bool)
  | load (name : String) (kind : AssetKind)
  | deleteWaveform (name : String)
  | clear
  | setOutput (on : Bool)
  | getRecipes
  | generate (recipe name : String) (params : ParamSet α)
  | summarise (ensemble : String)

/-- What the generator answers. -/
inductive GeneratorAnswer (α : Type) where
  | done
  | block (b : Block α)
  | ensemble (e : Ensemble α)
  | sequence (s : Sequence α)
  | objects (blocks ensembles sequences : List String)
  | settings (s : PulserSettings α)
  | record (r : Record α)
  | loaded (asset : LoadedAsset)
  /-- What was deleted or made. -/
  | names (names : List String)
  | output (on : Bool)
  | recipes (names : List String)
  | summary (s : Summary α)

namespace GeneratorCommand

/-- The asset that is busy while a command runs. -/
def busyAsset? : GeneratorCommand α → Option String
  | .sample name _ _ | .load name _ => some name
  | _ => none

/-- Compiles an object, and perhaps loads it. -/
def sampleAndLoad [Analytic α] [Pulser α δ] (name : String) (kind : AssetKind) (andLoad : Bool) :
    Action α (Generator α δ) (Record α) := do
  let record ← Generator.sample name kind
  if andLoad then
    let _ ← Generator.load name kind
  return record

/-- What a command does. -/
def run [Analytic α] [Pulser α δ] :
    GeneratorCommand α → Action α (Generator α δ) (GeneratorAnswer α)
  | .saveBlock b => (fun _ => .done) <$> Generator.saveBlock b
  | .saveEnsemble e => (fun _ => .done) <$> Generator.saveEnsemble e
  | .saveSequence s => (fun _ => .done) <$> Generator.saveSequence s
  | .getBlock name => do return .block (← Action.lift ((← get).findBlock name))
  | .getEnsemble name => do return .ensemble (← Action.lift ((← get).findEnsemble name))
  | .getSequence name => do return .sequence (← Action.lift ((← get).findSequence name))
  | .deleteBlock name => (fun _ => .done) <$> Generator.deleteBlock name
  | .deleteEnsemble name => (fun _ => .done) <$> Generator.deleteEnsemble name
  | .deleteSequence name => (fun _ => .done) <$> Generator.deleteSequence name
  | .getNames => do
      let g ← get
      return .objects g.blocks.names g.ensembles.names g.sequences.names
  | .getSettings => do return .settings (← get).settings
  | .setSettings request => .settings <$> Generator.setSettings request
  | .setGeneration generation => do
      modify fun g => { g with generation }
      return .done
  | .sample name kind andLoad => .record <$> sampleAndLoad name kind andLoad
  | .load name kind => .loaded <$> Generator.load name kind
  | .deleteWaveform name => .names <$> Generator.deleteWaveform name
  | .clear => (fun _ => .done) <$> Generator.clear
  | .setOutput on => .output <$> Generator.setOutput on
  | .getRecipes => do return .recipes (← get).recipes.registry.names
  | .generate recipe name params => .names <$> Generator.generate recipe name params
  | .summarise ensemble => do return .summary (← Action.lift ((← get).ensembleSummary ensemble))

end GeneratorCommand

/-! ## Measurement -/

/-- What can be asked of the measurement. -/
inductive MeasurementCommand (α : Type) where
  | start (tag : Option String)
  | stop (tag : Option String)
  | pause
  | resume
  /-- Refreshes now instead of waiting for the next time. -/
  | refresh
  | getData
  | getState
  | getSettings
  | setSettings (settings : MeasurementSettings α)
  | setCounterSettings (settings : CounterSettings α)
  | setMicrowaveSettings (settings : MicrowaveSettings α)
  | getExtractions
  | setExtraction (params : ParamSet α)
  | getEvaluations
  | setEvaluation (params : ParamSet α)
  | setInterval (seconds : α)
  | setView (kind : ViewKind)
  | save (directory tag : String)
  /-- The generator loaded another asset, or changed what is loaded. -/
  | setAsset (asset : Option (AssetInfo α))

/-- What the measurement answers. -/
inductive MeasurementAnswer (α : Type) where
  | done
  | data (d : MeasurementData α)
  | state (s : RunState)
  | settings (s : MeasurementSettings α)
  | counter (s : CounterSettings α)
  | microwave (s : MicrowaveSettings α)
  | methods (names : List String)
  | params (p : ParamSet α)
  | interval (i : Interval)
  | view (kind : ViewKind)
  /-- The files in a directory by name. -/
  | files (directory : String) (files : List (String × Json α))

namespace MeasurementCommand

/-- What a command does. -/
def run [Analytic α] [Counter α κ] [Microwave α μ] (guard : AssetGuard) :
    MeasurementCommand α → Measurement.Act α κ μ (MeasurementAnswer α)
  | .start tag => (fun _ => .done) <$> Measurement.start guard tag
  | .stop tag => (fun _ => .done) <$> Measurement.stop tag
  | .pause => (fun _ => .done) <$> Measurement.pause
  | .resume => (fun _ => .done) <$> Measurement.resume guard
  | .refresh => do
      Measurement.refresh
      return .data (← get).data
  | .getData => do return .data (← get).data
  | .getState => do return .state (← get).state
  | .getSettings => do return .settings (← get).settings
  | .setSettings settings => .settings <$> Measurement.setSettings settings
  | .setCounterSettings settings => .counter <$> Measurement.setCounterSettings settings
  | .setMicrowaveSettings settings => .microwave <$> Measurement.setMicrowaveSettings settings
  | .getExtractions => do return .methods (← get).extraction.registry.names
  | .setExtraction params => .params <$> Measurement.setExtraction params
  | .getEvaluations => do return .methods (← get).evaluation.registry.names
  | .setEvaluation params => .params <$> Measurement.setEvaluation params
  | .setInterval seconds => .interval <$> Measurement.setInterval seconds
  | .setView kind => .view <$> Measurement.setView kind
  | .save directory tag => do return .files directory (← Action.lift ((← get).files tag))
  | .setAsset asset => (fun _ => .done) <$> Measurement.setAsset asset

/-- How the output of the pulse generator follows a command, by the run state before it, whether it
succeeded, and the run state behind it: switched on with a run, off when no run is left to play
for. -/
def switch? (before : RunState) (succeeded : Bool) (behind : RunState) :
    MeasurementCommand α → Option Bool
  | .start _ => if succeeded then some true else none
  | .stop _ => if before.isActive then some false else none
  | .pause => if behind ≠ .running then some false else none
  | .resume =>
      if succeeded then some true
      else if behind.isActive then none
      else some false
  | .refresh => if before.isActive && !behind.isActive then some false else none
  | _ => none

end MeasurementCommand

end PulseBench
