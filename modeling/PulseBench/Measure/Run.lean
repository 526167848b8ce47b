import PulseBench.Measure.Refresh

/-!
# Running a measurement

`start` begins a run, `pause` and `resume` interrupt it, `stop` ends it. While it runs, `tick`
refreshes the result. A failing device stops the run: counter and microwave source are halted, the
failure is announced, and the last result stays. Counts that can not be evaluated only skip the
refresh.
-/

namespace PulseBench.Measurement

variable {α κ μ : Type} [Analytic α] [Counter α κ] [Microwave α μ]

/-- Halts the devices and ends the run after a failure. Further failures are passed over. -/
def failStop (cause : Failure α) : Act α κ μ Unit := do
  let _ ← Action.outcome (onCounter Counter.stop : Act α κ μ Unit)
  let _ ← Action.outcome (switchMicrowave false : Act α κ μ Unit)
  modify fun m => { m with recalled := none }
  announce (.failed cause)
  setState .idle

/-- Fails while the loaded asset is compiled or uploaded. -/
def ensureAssetReady (guard : AssetGuard) (m : Measurement α κ μ) : Except (Failure α) Unit :=
  match m.asset with
  | some info =>
      if guard.isBusy info.asset.name then .error (.measure (.assetBusy info.asset.name)) else .ok ()
  | none => .ok ()

/-- Switches the devices on, the microwave source first. If the counter fails the source is switched
off again. -/
def startDevices : Act α κ μ Unit := do
  switchMicrowave true
  match ← Action.outcome (onCounter Counter.start : Act α κ μ Unit) with
  | .ok _ => pure ()
  | .error e =>
      let _ ← Action.outcome (switchMicrowave false : Act α κ μ Unit)
      throw e

/-- Starts a run, going on with the one stashed under a tag if there is one. -/
def start (guard : AssetGuard) (tag : Option String) : Act α κ μ Unit := do
  Action.lift (ensureIdle "the run state" (← get))
  Action.lift ((← get).ensureAssetReady guard)
  if (← get).settings.invoke then invokeReadout
  modify fun m => { m.clearData with recalled := tag.bind m.stash.get? }
  startDevices
  setState .running

/-- The measurement with its present counts stashed under a tag. -/
def withStash (tag : Option String) (m : Measurement α κ μ) : Measurement α κ μ :=
  match tag with
  | some tag => { m with stash := m.stash.insert tag ⟨m.data.counts, m.data.sweeps⟩ }
  | none => m

/-- Ends a run: refreshes a last time if it is not paused, halts the devices and stashes the counts
under a tag if one is given. A failure of the last refresh is passed over; failures of the devices
are reported when all is done, that of the counter first. -/
def stop (tag : Option String) : Act α κ μ Unit := do
  let state := (← get).state
  unless state = .idle do
    setState .stopping
    if state = .running then
      let _ ← Action.outcome (pull : Act α κ μ Unit)
    let counter ← Action.outcome (onCounter Counter.stop : Act α κ μ Unit)
    let microwave ← Action.outcome (switchMicrowave false : Act α κ μ Unit)
    modify fun m => { m.withStash tag with recalled := none }
    setState .idle
    Action.lift counter
    Action.lift microwave

/-- A change of the devices during a run; if it fails, the run ends. -/
def orFailStop (act : Act α κ μ Unit) : Act α κ μ Unit := do
  match ← Action.outcome act with
  | .ok _ => pure ()
  | .error e =>
      failStop e
      throw e

/-- Interrupts a run. -/
def pause : Act α κ μ Unit := do
  let state := (← get).state
  unless state = .running do throw (.measure (.pauseNeedsRun state))
  orFailStop do
    onCounter Counter.pause
    switchMicrowave false
  setState .paused

/-- Goes on with an interrupted run. -/
def resume (guard : AssetGuard) : Act α κ μ Unit := do
  let state := (← get).state
  unless state = .paused do throw (.measure (.resumeNeedsPause state))
  Action.lift ((← get).ensureAssetReady guard)
  orFailStop do
    switchMicrowave true
    onCounter Counter.resume
  setState .running

/-- The refresh of a running measurement; tells whether there was one. Every failure is announced,
and one of a device ends the run. -/
def tick : Act α κ μ Bool := do
  if (← get).state = .running then
    match ← Action.outcome (pull : Act α κ μ Unit) with
    | .ok _ => return true
    | .error e =>
        if e.isHardware then failStop e else announce (.failed e)
        throw e
  else return false

/-- A refresh at any time. A failing device ends the run, if there is one. -/
def refresh : Act α κ μ Unit := do
  match ← Action.outcome (pull : Act α κ μ Unit) with
  | .ok _ => pure ()
  | .error e =>
      if e.isHardware ∧ (← get).state.isActive then failStop e
      throw e

/-! ## The beginning -/

/-- The extraction method of gated counters. -/
def gatedExtraction : String := "gated_conv_deriv"

/-- A measurement with a counter, which is configured for the default settings. -/
def ofDevices (options : MeasurementOptions) (counter : κ) (microwave : Option μ) :
    Except (Failure α) (Measurement α κ μ) := do
  let settings : MeasurementSettings α := .default
  let gated := Counter.isGated counter
  let requested : CounterSettings α :=
    { CounterSettings.default with gates := if gated then settings.lasers else 0 }
  let (counterSettings, counter) ←
    match Counter.configure requested counter with
    | .ok used counter => .ok (used, counter)
    | .error e _ => .error e
  let extraction ← Selection.ofRegistry (ExtractionMethod.registry options.extractionRoots)
    (if gated then gatedExtraction else options.extraction)
  let evaluation ← Selection.ofRegistry (EvaluationMethod.registry options.evaluationRoots)
    options.evaluation
  return {
    counter, microwave, extraction, evaluation, settings, counterSettings
    microwaveSettings := .default
    asset := none
    state := .idle
    data := .blank settings counterSettings
    stash := ∅
    recalled := none
    interval := options.interval
    viewKind := .none
    outbox := none }

end PulseBench.Measurement
