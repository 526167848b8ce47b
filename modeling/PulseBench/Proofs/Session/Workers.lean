import PulseBench.Session.Start
import PulseBench.Proofs.Generator.Loaded
import PulseBench.Proofs.Measure.Operation

/-!
# What the workers of a session do with a command

The generator worker runs a command, tells the measurement if the loaded asset
changed, and only then answers. The measurement worker handles a command or
refreshes a run, and perhaps has the output switched. Each touches its own part
of the session and the end of the queue of the other, nothing else.

Results:
1. `Steady.command`: what every step of a measurement keeps is kept by every
   command that does not name an asset.
2. `command_asset`, `tick_asset`: an asset that a command names replaces the old
   one, and nothing else changes it.
3. `handleGenerator_eq`, `forward_cases`, `handleMeasurement_eq`, `tick_eq`: the
   session behind a command.
4. `start_new`: a session begins with nothing loaded and nothing to do.
-/

namespace PulseBench

variable {α δ κ μ : Type}

open Action (Moves after after_of_ok after_of_error)

/-! ## 1. Commands of the measurement -/

/-- The asset that a command names, or that none is loaded. -/
def MeasurementCommand.named? : MeasurementCommand α → Option (Option (AssetInfo α))
  | .setAsset asset => some asset
  | _ => none

namespace Measurement

section Commands

variable [Analytic α] [Counter α κ] [Microwave α μ]

theorem Steady.command {R : Measurement α κ μ → Measurement α κ μ → Prop} (h : Steady R)
    (guard : AssetGuard) {command : MeasurementCommand α} (other : command.named? = none) :
    Moves R (command.run guard) := by
  -- Commands that only ask for something read the state and leave it.
  have reading (f : Measurement α κ μ → MeasurementAnswer α) :
      Moves R (do return f (← get) : Act α κ μ (MeasurementAnswer α)) :=
    Moves.get_bind h.refl
  cases command with
  | start tag => exact Moves.map (h.careful.start guard tag) _
  | stop tag => exact Moves.map (h.careful.stop tag) _
  | pause => exact Moves.map h.careful.pause _
  | resume => exact Moves.map (h.careful.resume guard) _
  | refresh => exact Moves.bind h.trans h.careful.refresh fun _ => reading _
  | getData => exact reading _
  | getState => exact reading _
  | getSettings => exact reading _
  | setSettings settings => exact Moves.map (h.gentle.setSettings settings) _
  | setCounterSettings settings => exact Moves.map (h.gentle.setCounterSettings settings) _
  | setMicrowaveSettings settings => exact Moves.map (h.careful.setMicrowaveSettings settings) _
  | getExtractions => exact reading _
  | setExtraction params => exact Moves.map (h.gentle.mild.setExtraction params) _
  | getEvaluations => exact reading _
  | setEvaluation params => exact Moves.map (h.gentle.mild.setEvaluation params) _
  | setInterval seconds => exact Moves.map (h.gentle.mild.setInterval seconds) _
  | setView kind => exact Moves.map (h.gentle.setView kind) _
  | save directory tag =>
    exact Moves.get_bind fun m => Action.lift_bind_after (h.refl m) _ fun _ _ => h.refl m
  | setAsset asset => cases other

/-! ## 2. The asset -/

omit [Microwave α μ] in
/-- No step but the naming of an asset changes it. -/
theorem sameAsset_steady :
    Steady fun before after : Measurement α κ μ => after.asset = before.asset where
  refl _ := rfl
  trans _ _ _ first second := second.trans first
  configure _ m := by rw [onCounter_after]
  read m := by rw [onCounter_after]
  startCounter m := by rw [onCounter_after]
  stopCounter m := by rw [onCounter_after]
  pauseCounter m := by rw [onCounter_after]
  resumeCounter m := by rw [onCounter_after]
  extraction _ m := by rw [onExtraction_after]
  evaluation _ m := by rw [onEvaluation_after]
  change _ _ same := same.asset

omit [Microwave α μ] in
theorem setAsset_asset (asset : Option (AssetInfo α)) (m : Measurement α κ μ) :
    ((setAsset asset).after m).asset = asset := by
  have kept : Mild fun before after : Measurement α κ μ =>
      before.asset = asset → after.asset = asset := by
    have same := (sameAsset_steady (α := α) (κ := κ) (μ := μ)).gentle
    exact {
      refl := fun _ => id
      trans := fun _ _ _ first second => second ∘ first
      extraction := fun params m => (same.extraction params m).trans
      evaluation := fun params m => (same.evaluation params m).trans
      invokeReadout := fun m => (same.invokeReadout m).trans
      change := fun _ _ run _ => run.asset.trans }
  -- What was named before is overwritten first.
  have overwritten : (setAsset asset).after m = (setAsset asset).after { m with asset } := rfl
  rw [overwritten]
  exact kept.setAsset (fun _ _ => rfl) _ rfl

/-- An asset that a command names replaces the old one; no other command changes it. -/
theorem command_asset (guard : AssetGuard) (command : MeasurementCommand α)
    (m : Measurement α κ μ) :
    ((command.run guard).after m).asset = command.named?.getD m.asset := by
  cases named : command.named? with
  | none => exact sameAsset_steady.command guard named m
  | some asset =>
    have naming : command = .setAsset asset := by
      cases command with
      | setAsset _ => exact congrArg _ (Option.some.inj named)
      | _ => cases named
    rw [naming, MeasurementCommand.run, Action.after_map]
    exact setAsset_asset asset m

theorem tick_asset (m : Measurement α κ μ) :
    ((tick : Act α κ μ Bool).after m).asset = m.asset :=
  sameAsset_steady.careful.tick m

end Commands

end Measurement

/-! ## 3. The session behind a command -/

/-- Marking an asset as busy does not matter once it is released. -/
theorem AssetGuard.release_mark (guard : AssetGuard) (name : String) :
    (guard.mark name).release name = guard.release name := by
  have dropped (names : List String) :
      (NameSet.place name names).filter (· != name) = names.filter (· != name) := by
    induction names with
    | nil => simp [NameSet.place]
    | cons first rest ih =>
      unfold NameSet.place
      split
      · simp
      · split
        · rfl
        · rw [List.filter_cons, List.filter_cons, ih]
  unfold AssetGuard.release AssetGuard.mark NameSet.insert NameSet.filter
  simp only [dropped]

namespace Session

section Generator

variable [Analytic α] [Pulser α δ]

/-- The session behind a command of the generator, before the measurement is told. -/
def ran (command : GeneratorCommand α) (s : Session α δ κ μ) : Session α δ κ μ :=
  { s with
    generator := command.run.after s.generator
    guard := command.busyAsset?.elim s.guard s.guard.release }

theorem handleGenerator_eq (command : GeneratorCommand α) (s : Session α δ κ μ) :
    (s.handleGenerator command).2 = (s.ran command).forward := by
  unfold handleGenerator ran
  cases done : command.run s.generator with
  | ok answer generator => rw [after_of_ok done]
  | error f generator => rw [after_of_error done]

omit [Pulser α δ] in
/-- The measurement is told what is loaded, unless it was told so before. -/
theorem forward_cases (s : Session α δ κ μ) :
    ((s.generator.loadedInfo == s.forwarded) = true ∧ s.forward = s) ∨
    s.forward = { s with
      forwarded := s.generator.loadedInfo
      measurementQueue := s.measurementQueue ++ [.setAsset s.generator.loadedInfo] } := by
  unfold forward
  by_cases known : (s.generator.loadedInfo == s.forwarded) = true
  · exact Or.inl ⟨known, if_pos known⟩
  · exact Or.inr (if_neg known)

end Generator

theorem switchPulser_eq (on : Bool) (s : Session α δ κ μ) :
    ∃ generatorQueue, s.switchPulser on = { s with generatorQueue } := by
  unfold switchPulser
  split
  · exact ⟨_, rfl⟩
  · exact ⟨s.generatorQueue, rfl⟩

section Measurement

variable [Analytic α] [Counter α κ] [Microwave α μ]

theorem handleMeasurement_eq (command : MeasurementCommand α) (s : Session α δ κ μ) :
    ∃ generatorQueue, (s.handleMeasurement command).2 =
      { s with measurement := (command.run s.guard).after s.measurement, generatorQueue } := by
  have finished (switch : Option Bool) (measurement : Measurement α κ μ) :
      ∃ generatorQueue, (switch.elim { s with measurement }
        fun on => { s with measurement }.switchPulser on) =
          { s with measurement, generatorQueue } := by
    cases switch with
    | none => exact ⟨s.generatorQueue, rfl⟩
    | some on => exact switchPulser_eq on _
  unfold handleMeasurement
  cases done : command.run s.guard s.measurement with
  | ok answer measurement =>
    rw [after_of_ok done]
    exact finished _ measurement
  | error f measurement =>
    rw [after_of_error done]
    exact finished _ measurement

theorem tick_eq (s : Session α δ κ μ) :
    ∃ generatorQueue, s.tick =
      { s with
        measurement := (Measurement.tick : Measurement.Act α κ μ Bool).after s.measurement
        generatorQueue } := by
  unfold tick
  cases done : (Measurement.tick : Measurement.Act α κ μ Bool) s.measurement with
  | ok _ measurement =>
    rw [after_of_ok done]
    exact ⟨s.generatorQueue, rfl⟩
  | error f measurement =>
    rw [after_of_error done]
    dsimp only
    split
    · exact switchPulser_eq false _
    · exact ⟨s.generatorQueue, rfl⟩

end Measurement

/-! ## 4. New sessions -/

/-- What a new session is: nothing is loaded, and nothing is to be done. -/
structure New (s : Session α δ κ μ) : Prop where
  loaded : s.generator.loaded = none
  asset : s.measurement.asset = none
  forwarded : s.forwarded = none
  generatorQueue : s.generatorQueue = []
  measurementQueue : s.measurementQueue = []

theorem start_new [Analytic α] [Pulser α δ] [Counter α κ] {config : Config α} {store : Store α}
    {pulser : δ} {counter : κ} {microwave : Option μ} {s : Session α δ κ μ}
    (started : start config store pulser counter microwave = .ok s) : s.New := by
  unfold start at started
  obtain ⟨generator, generating, started⟩ := bind_eq_ok.mp started
  obtain ⟨measurement, measuring, made⟩ := bind_eq_ok.mp started
  cases made
  exact ⟨Generator.start_unmarked generating, (Measurement.ofDevices_new measuring).asset, rfl, rfl,
    rfl⟩

/-- A new session works with the pulse generator that it is given, and nothing runs. -/
theorem start_parts [Analytic α] [Pulser α δ] [Counter α κ] {config : Config α} {store : Store α}
    {pulser : δ} {counter : κ} {microwave : Option μ} {s : Session α δ κ μ}
    (started : start config store pulser counter microwave = .ok s) :
    s.generator.device = pulser ∧ s.measurement.state = .idle := by
  unfold start at started
  obtain ⟨generator, generating, started⟩ := bind_eq_ok.mp started
  obtain ⟨measurement, measuring, made⟩ := bind_eq_ok.mp started
  cases made
  exact ⟨Generator.start_device generating, (Measurement.ofDevices_new measuring).state⟩

end Session

end PulseBench
