import PulseBench.Measure.Basic

/-!
# Refreshing the result

A refresh reads the counter, adds the counts of a recalled run, extracts the laser pulses, evaluates
them and arranges the estimates over the axis. The counts are kept as soon as they are read; all
other parts of the result change together, and only if every step succeeds.
-/

namespace PulseBench.Measurement

variable {α κ μ : Type}

/-- The counts of a run that goes on with a recalled one. As long as nothing was counted the
recalled counts stand alone; none if the shapes differ. -/
def continued? (recalled : StashedRun) (counts : Counts) : Option Counts :=
  if counts.isZero then some recalled.counts else counts.add? recalled.counts

/-- The measurement with the counts of a reading. A recalled run is forgotten if it does not fit. A
counter that does not count sweeps leaves their number as it was. -/
def withReading (reading : Reading) (m : Measurement α κ μ) : Measurement α κ μ :=
  let sweeps := reading.sweeps.getD m.data.sweeps
  let keep (counts : Counts) (sweeps : Nat) : Measurement α κ μ :=
    { m with data := { m.data with counts, sweeps } }
  match m.recalled with
  | none => keep reading.counts sweeps
  | some recalled =>
      match continued? recalled reading.counts with
      | some counts => keep counts (sweeps + recalled.sweeps)
      | none => { keep reading.counts sweeps with recalled := none }

/-- What extraction can know about the loaded asset. -/
def extractionContext [Scalar α] (m : Measurement α κ μ) : ExtractionContext α :=
  .ofRecord m.counterSettings.binWidth m.settings.lasers
    (m.asset.bind fun info => info.metadata.record)
    ((m.asset.map AssetInfo.edgeChannel).getD "")

/-- The laser pulses in the present counts, by the selected method. -/
def extractLasers [Scalar α] (m : Measurement α κ μ) : Except (Failure α) Extraction := do
  let extraction ← m.extraction.method
  let params ← m.extraction.parameters
  ExtractionMethod.extract extraction m.data.counts m.extractionContext params

/-- The estimates of laser pulses, by the selected method. Without any count all are zero. -/
def evaluateLasers [Scalar α] (m : Measurement α κ μ) (lasers : Grid Nat) :
    Except (Failure α) (List (Estimate α)) := do
  if lasers.values.all (· == 0) then return List.replicate lasers.rowCount .zero
  let evaluation ← m.evaluation.method
  let params ← m.evaluation.parameters
  EvaluationMethod.evaluate evaluation lasers m.counterSettings.binWidth params

/-- The result of the present counts. A view that can not be derived is left out. -/
def analysed [Analytic α] (m : Measurement α κ μ) : Except (Failure α) (MeasurementData α) := do
  let lasers := (← m.extractLasers).counts
  let estimates ← m.evaluateLasers lasers
  let (signal, errors) ← m.settings.arrange estimates
  let view := match View.of? m.viewKind m.data.axis signal with
    | .ok view => view
    | .error _ => none
  return { m.data with signal, errors, lasers, view, refreshes := m.data.refreshes + 1 }

/-- Reads the counter and works out the result. -/
def pull [Analytic α] [Counter α κ] : Act α κ μ Unit := do
  let reading ← onCounter Counter.read
  modify (withReading reading)
  let data ← Action.lift (← get).analysed
  modify fun m => { m with data }
  announce (.result data)

end PulseBench.Measurement
