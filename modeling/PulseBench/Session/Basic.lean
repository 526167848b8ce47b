import PulseBench.Session.Command

/-!
# The session

A session lets generator and measurement work together. Each has a worker with a queue of commands,
which it handles one after the other. The workers talk to each other through the same queues:

- when a command changes what is loaded, or what is known about it, the generator worker tells the
  measurement before it answers, so a run that is started on the answer sees the new asset;
- when a run begins, is interrupted, goes on or ends, the measurement worker has the output of the
  pulse generator switched.

`handleGenerator`, `handleMeasurement` and `tick` are the steps of the workers. Between two calls of
`askGenerator` and `askMeasurement` both queues are empty.
-/

namespace PulseBench

variable {α δ κ μ : Type}

structure Session (α δ κ μ : Type) where
  generator : Generator α δ
  measurement : Measurement α κ μ
  guard : AssetGuard
  /-- The loaded asset as the measurement was told last. -/
  forwarded : Option (AssetInfo α)
  generatorQueue : List (GeneratorCommand α)
  measurementQueue : List (MeasurementCommand α)
  /-- Greatest length of a queue. -/
  capacity : Nat
  /-- Directory of saved results. -/
  dataDirectory : Option String

/-- The loaded asset, as a measurement sees it. Laser pulses are marked by the gate channel, if
there is one. -/
def Generator.loadedInfo (g : Generator α δ) : Option (AssetInfo α) := do
  let asset ← g.loaded
  let metadata ← (g.metadata asset.name).toOption
  return ⟨asset, metadata, g.generation.gateChannel.getD g.generation.laserChannel⟩

namespace Session

/-! ## What the workers tell each other -/

/-- Tells the measurement about the loaded asset, if anything about it changed. -/
def forward [BEq α] (s : Session α δ κ μ) : Session α δ κ μ :=
  let current := s.generator.loadedInfo
  if current == s.forwarded then s
  else
    { s with
      forwarded := current
      measurementQueue := s.measurementQueue ++ [.setAsset current] }

/-- Has the output of the pulse generator switched, unless the queue is full. -/
def switchPulser (on : Bool) (s : Session α δ κ μ) : Session α δ κ μ :=
  if s.generatorQueue.length < s.capacity then
    { s with generatorQueue := s.generatorQueue ++ [.setOutput on] }
  else s

/-! ## Announcements -/

/-- What the measurement announced and nobody took yet. -/
def updates (s : Session α δ κ μ) : List (Update α) :=
  (s.measurement.outbox.map Outbox.pending).getD []

/-- The session with other announcements waiting. -/
def withUpdates (s : Session α δ κ μ) (pending : List (Update α)) : Session α δ κ μ :=
  { s with
    measurement :=
      { s.measurement with outbox := s.measurement.outbox.map fun o => { o with pending } } }

/-- Takes all announcements. -/
def takeUpdates (s : Session α δ κ μ) : List (Update α) × Session α δ κ μ :=
  (s.updates, s.withUpdates [])

/-! ## Steps of the workers -/

variable [Analytic α]

/-- Handles a command of the generator. An asset that is compiled or uploaded is busy meanwhile and
idle afterwards, whoever else marked it. -/
def handleGenerator [Pulser α δ] (command : GeneratorCommand α) (s : Session α δ κ μ) :
    Except (Failure α) (GeneratorAnswer α) × Session α δ κ μ :=
  let guard := (command.busyAsset?).elim s.guard s.guard.release
  match command.run s.generator with
  | .ok answer generator => (.ok answer, { s with generator, guard }.forward)
  | .error e generator => (.error e, { s with generator, guard }.forward)

variable [Counter α κ] [Microwave α μ]

/-- Handles a command of the measurement. -/
def handleMeasurement (command : MeasurementCommand α) (s : Session α δ κ μ) :
    Except (Failure α) (MeasurementAnswer α) × Session α δ κ μ :=
  let before := s.measurement.state
  let finish (succeeded : Bool) (measurement : Measurement α κ μ) : Session α δ κ μ :=
    (command.switch? before succeeded measurement.state).elim { s with measurement }
      fun on => { s with measurement }.switchPulser on
  match command.run s.guard s.measurement with
  | .ok answer measurement => (.ok answer, finish true measurement)
  | .error e measurement => (.error e, finish false measurement)

/-- The refresh of a running measurement. A failing device switches the output off. -/
def tick (s : Session α δ κ μ) : Session α δ κ μ :=
  match (Measurement.tick : Measurement.Act α κ μ Bool) s.measurement with
  | .ok _ measurement => { s with measurement }
  | .error e measurement =>
      if e.isHardware then { s with measurement }.switchPulser false else { s with measurement }

variable [Pulser α δ]

/-- Handles all commands in the queue of the generator. -/
def drainGenerator (s : Session α δ κ μ) : Session α δ κ μ :=
  s.generatorQueue.foldl (fun s command => (s.handleGenerator command).2)
    { s with generatorQueue := [] }

/-- Handles all commands in the queue of the measurement. -/
def drainMeasurement (s : Session α δ κ μ) : Session α δ κ μ :=
  s.measurementQueue.foldl (fun s command => (s.handleMeasurement command).2)
    { s with measurementQueue := [] }

/-- Handles everything that waits. The measurement may have the output switched, and the generator
may then have news about the asset, which switch nothing. -/
def settle (s : Session α δ κ μ) : Session α δ κ μ :=
  s.drainGenerator.drainMeasurement.drainGenerator.drainMeasurement

/-! ## Calls -/

/-- Asks the generator. -/
def askGenerator (command : GeneratorCommand α) (s : Session α δ κ μ) :
    Except (Failure α) (GeneratorAnswer α) × Session α δ κ μ :=
  let (answer, s) := s.handleGenerator command
  (answer, s.settle)

/-- Asks the measurement. -/
def askMeasurement (command : MeasurementCommand α) (s : Session α δ κ μ) :
    Except (Failure α) (MeasurementAnswer α) × Session α δ κ μ :=
  let (answer, s) := s.handleMeasurement command
  (answer, s.settle)

/-- Saves the result into a directory, by default into that of the settings. -/
def save (tag : String) (directory : Option String) (s : Session α δ κ μ) :
    Except (Failure α) (MeasurementAnswer α) × Session α δ κ μ :=
  match directory.or s.dataDirectory with
  | some directory => s.askMeasurement (.save directory tag)
  | none => (.error (.measure .noDirectory), s)

/-- Waits for the next refresh. -/
def awaitTick (s : Session α δ κ μ) : Session α δ κ μ := s.tick.settle

/-- Takes the announcements up to the end of the run, and waits for at most `ticks` refreshes until
the run ends. -/
def takeUntilIdle : Nat → Session α δ κ μ → List (Update α) × Session α δ κ μ
  | 0, s => s.takeUpdates
  | ticks + 1, s =>
      match s.updates.dropWhile (!·.isIdle) with
      | idle :: later => (s.updates.takeWhile (!·.isIdle) ++ [idle], s.withUpdates later)
      | [] =>
          let (rest, after) := takeUntilIdle ticks (s.takeUpdates.2).awaitTick
          (s.updates ++ rest, after)

/-- Ends the session: a run is stopped, and in the end the output is switched off. -/
def shutdown (s : Session α δ κ μ) : Session α δ κ μ :=
  let s := if s.measurement.state.isActive then (s.handleMeasurement (.stop none)).2 else s
  (s.drainGenerator.handleGenerator (.setOutput false)).2

end Session

end PulseBench
