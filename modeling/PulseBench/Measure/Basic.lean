import PulseBench.AssetGuard
import PulseBench.Evaluation.Methods
import PulseBench.Extraction.Methods
import PulseBench.Measure.Data
import PulseBench.Microwave

/-!
# The measurement

A `Measurement` owns a counter and perhaps a microwave source. It is idle, running or paused, and
passes through a last state while it stops. This module holds its parts and the changes of its
settings, which are only allowed while it is idle; `Measure.Refresh` turns counts into a result, and
`Measure.Run` starts and stops it.
-/

namespace PulseBench

variable {α κ μ : Type}

/-- Counts of an earlier run that a new one can go on with. -/
structure StashedRun where
  counts : Counts
  sweeps : Nat
deriving DecidableEq

structure Measurement (α κ μ : Type) where
  counter : κ
  microwave : Option μ
  extraction : Selection α (ExtractionRule α)
  evaluation : Selection α (EvaluationRule α)
  settings : MeasurementSettings α
  /-- Settings that the counter reported last. -/
  counterSettings : CounterSettings α
  microwaveSettings : MicrowaveSettings α
  asset : Option (AssetInfo α)
  state : RunState
  data : MeasurementData α
  /-- Stopped runs by tag. -/
  stash : Roster StashedRun
  /-- The stashed run that the present one goes on with. -/
  recalled : Option StashedRun
  /-- Time from one refresh to the next. -/
  interval : Interval
  /-- The selected view of the signal. -/
  viewKind : ViewKind
  /-- Where changes are announced, if anybody listens. -/
  outbox : Option (Outbox α)

/-- Neither started nor yet to be stopped. -/
def RunState.isActive (s : RunState) : Bool := s != .idle

/-- What a measurement is started with. -/
structure MeasurementOptions where
  /-- Roots of methods besides the built-in ones. -/
  extractionRoots : List String
  evaluationRoots : List String
  /-- The method selected first, unless the counter is gated. -/
  extraction : String
  evaluation : String
  interval : Interval

namespace Measurement

/-- An action of the measurement. -/
abbrev Act (α κ μ β : Type) := Action α (Measurement α κ μ) β

/-- The tags of the stashed runs. -/
def stashedTags (m : Measurement α κ μ) : NameSet := m.stash.nameSet

/-! ## Devices -/

/-- A call of the counter. -/
def onCounter {β : Type} (act : Action α κ β) : Act α κ μ β := fun m =>
  match act m.counter with
  | .ok b counter => .ok b { m with counter }
  | .error e counter => .error e { m with counter }

/-- A call of the microwave source, if one is connected. -/
def onMicrowave {β : Type} (act : Action α μ β) : Act α κ μ (Option β) := fun m =>
  match m.microwave with
  | none => .ok none m
  | some source =>
      match act source with
      | .ok b source => .ok (some b) { m with microwave := some source }
      | .error e source => .error e { m with microwave := some source }

/-- Switches the microwave source, if it takes part in the measurement. -/
def switchMicrowave [Microwave α μ] (on : Bool) : Act α κ μ Unit := do
  if (← get).microwaveSettings.external then
    let _ ← onMicrowave (if on then Microwave.switchOn else Microwave.switchOff)

/-! ## Announcements -/

/-- Announces a change. -/
def announce (update : Update α) : Act α κ μ Unit :=
  modify fun m => { m with outbox := m.outbox.map (·.post update) }

/-- Goes over to a state. -/
def setState (state : RunState) : Act α κ μ Unit := do
  modify fun m => { m with state }
  announce (.state state)

/-! ## Settings -/

/-- Refuses a change of `what` during a run. -/
def ensureIdle (what : String) (m : Measurement α κ μ) : Except (Failure α) Unit :=
  if m.state.isActive then .error (.measure (.notIdle what m.state)) else .ok ()

/-- Forgets the result. -/
def clearData [Scalar α] (m : Measurement α κ μ) : Measurement α κ μ :=
  { m with data := .blank m.settings m.counterSettings }

/-- The carrier and the timing that a connected source uses for the requested ones. -/
def applyMicrowave [Microwave α μ] (settings : MicrowaveSettings α) :
    Act α κ μ (MicrowaveSettings α) := do
  match ← onMicrowave (Microwave.setCarrier settings.frequency settings.power) with
  | none => throw (.measure .noMicrowave)
  | some (frequency, power) =>
      match settings.timing with
      | none => return { settings with frequency, power }
      | some requested =>
          let timing ← onMicrowave (Microwave.setTiming requested)
          return { settings with frequency, power, timing }

/-- Changes the settings of the microwave source; returns those that it uses. -/
def setMicrowaveSettings [Microwave α μ] (settings : MicrowaveSettings α) :
    Act α κ μ (MicrowaveSettings α) := do
  Action.lift (ensureIdle "microwave settings" (← get))
  let microwaveSettings ← if settings.external then applyMicrowave settings else pure settings
  modify fun m => { m with microwaveSettings }
  return microwaveSettings

/-! ## Methods, interval and view -/

/-- The parameters of the selected method, with the method itself behind them. -/
def parametersOf [Scalar α] {ρ : Type} (s : Selection α ρ) : Except (Failure α) (ParamSet α) := do
  return (← s.parameters).insert Selection.methodKey (.text s.current)

/-- An action on the selection of extraction methods. -/
def onExtraction {β : Type} (act : Action α (Selection α (ExtractionRule α)) β) : Act α κ μ β :=
  fun m =>
    match act m.extraction with
    | .ok b extraction => .ok b { m with extraction }
    | .error e extraction => .error e { m with extraction }

/-- An action on the selection of evaluation methods. -/
def onEvaluation {β : Type} (act : Action α (Selection α (EvaluationRule α)) β) : Act α κ μ β :=
  fun m =>
    match act m.evaluation with
    | .ok b evaluation => .ok b { m with evaluation }
    | .error e evaluation => .error e { m with evaluation }

/-- Changes extraction method and parameters; returns all of them. -/
def setExtraction [Scalar α] (params : ParamSet α) : Act α κ μ (ParamSet α) := do
  let _ ← onExtraction (Selection.setParameters params)
  Action.lift (parametersOf (← get).extraction)

/-- Changes evaluation method and parameters; returns all of them. -/
def setEvaluation [Scalar α] (params : ParamSet α) : Act α κ μ (ParamSet α) := do
  let _ ← onEvaluation (Selection.setParameters params)
  Action.lift (parametersOf (← get).evaluation)

/-- Changes the time from one refresh to the next. -/
def setInterval [Scalar α] (seconds : α) : Act α κ μ Interval := do
  unless Scalar.isPositive seconds do throw (.measure (.timerNotPositive seconds))
  let interval := Interval.ofSeconds seconds
  modify fun m => { m with interval }
  return interval

/-- The view of a kind of the present signal. -/
def viewOf [Analytic α] (m : Measurement α κ μ) (kind : ViewKind) :
    Except (Failure α) (Option (View α)) :=
  View.of? kind m.data.axis m.data.signal

/-- The measurement without a view. -/
def withoutView (m : Measurement α κ μ) : Measurement α κ μ :=
  { m with viewKind := .none, data := { m.data with view := none } }

/-- Selects a view. The difference of rows is refused unless the measurement alternates; if it was
selected before, no view is selected any more. -/
def setView [Analytic α] (kind : ViewKind) : Act α κ μ ViewKind := do
  let m ← get
  if kind = .delta ∧ ¬ m.settings.alternating then
    if m.viewKind = .delta then set m.withoutView
    throw (.measure (.deltaNeedsAlternating (← get).viewKind))
  let view ← Action.lift (m.viewOf kind)
  set { m with viewKind := kind, data := { m.data with view } }
  return kind

/-! ## Counter and asset -/

variable [Counter α κ]

/-- Configures the counter and keeps the settings that it reports. -/
def configure (requested : CounterSettings α) : Act α κ μ Unit := do
  let counterSettings ← onCounter (Counter.configure requested)
  modify fun m => { m with counterSettings }

/-- Changes the settings; a gated counter has one gate per laser. -/
def setSettings [Scalar α] (settings : MeasurementSettings α) :
    Act α κ μ (MeasurementSettings α) := do
  Action.lift (ensureIdle "measurement settings" (← get))
  let settings := settings.sorted
  modify fun m => { m with settings }
  let m ← get
  if Counter.isGated m.counter ∧ settings.lasers ≠ m.counterSettings.gates then
    configure { m.counterSettings with gates := settings.lasers }
  modify clearData
  return settings

/-- Changes the settings of the counter; returns those that it uses. -/
def setCounterSettings [Scalar α] (settings : CounterSettings α) :
    Act α κ μ (CounterSettings α) := do
  Action.lift (ensureIdle "counter settings" (← get))
  configure settings
  modify clearData
  return (← get).counterSettings

/-- Takes over the settings of the loaded asset. The counter records as long as the asset asks for,
and is only configured if that changes its settings. -/
def invokeReadout [Scalar α] : Act α κ μ Unit := do
  match (← get).asset with
  | none => throw (.measure .noAsset)
  | some info =>
      match info.metadata.readout with
      | none => throw (.measure (.noReadout info.asset.name))
      | some readout =>
          modify fun m => { m with settings := .ofReadout readout }
          let m ← get
          let c := m.counterSettings
          let requested : CounterSettings α :=
            { c with
              recordLength := if 0.0 < readout.countingLength then readout.countingLength
                else c.recordLength
              gates := if Counter.isGated m.counter then readout.lasers else c.gates }
          if requested != c then configure requested
          modify clearData

/-- Notes which asset is loaded. While the measurement is idle the settings of the asset are taken
over at once, if the settings say so; a failure to do that is passed over. -/
def setAsset [Scalar α] (asset : Option (AssetInfo α)) : Act α κ μ Unit := do
  modify fun m => { m with asset }
  let hasReadout := asset.any fun info => info.metadata.readout.isSome
  let m ← get
  if m.settings.invoke && !m.state.isActive && hasReadout then
    let _ ← Action.outcome (invokeReadout : Act α κ μ Unit)

end Measurement

end PulseBench
