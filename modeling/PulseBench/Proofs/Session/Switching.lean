import PulseBench.Proofs.Generator.Filing
import PulseBench.Proofs.Measure.Ending
import PulseBench.Proofs.Session.Workers

/-!
# Which switches the workers ask for

The measurement worker has the output switched through the queue of the generator, and
it decides that command by command, from what became of the command and from the states
before and behind it. It forgets no switch and asks for none too many: behind every
command the last switch, if there was one, is the one that belongs to the state.

Results:
1. `Filing.command`: commands of the generator that switch nothing leave the output.
2. `Session.asks_follows`, `Session.tickAsks_follows`: the switch that belongs to the state.
3. `Session.handleMeasurement_room`, `Session.tick_room`: how it gets into the queue.
-/

namespace PulseBench

variable {α δ κ μ : Type}

open Action (Moves after after_of_ok after_of_error)

/-! ## 1. Commands of the generator -/

/-- The switch that a command makes. -/
def GeneratorCommand.switch? : GeneratorCommand α → Option Bool
  | .setOutput on => some on
  | _ => none

namespace Generator.Filing

variable [Analytic α] [Pulser α δ] {D : δ → δ → Prop} {R : Generator α δ → Generator α δ → Prop}

theorem load (h : Filing D R) (calls : Switchless D) (name : String) (kind : AssetKind) :
    Moves R (Generator.load name kind) := by
  cases kind with
  | ensemble => exact h.loadEnsemble calls.serving name
  | sequence => exact h.loadSequence calls.serving name

theorem sampleAndLoad (h : Filing D R) (calls : Switchless D) (name : String) (kind : AssetKind)
    (andLoad : Bool) : Moves R (GeneratorCommand.sampleAndLoad name kind andLoad) := by
  have sampled : Moves R (Generator.sample name kind) := by
    cases kind with
    | ensemble => exact h.sampleEnsemble calls.toWriting name
    | sequence => exact h.sampleSequence calls.toWriting name
  refine Moves.bind h.trans sampled fun record => ?_
  cases andLoad with
  | false => exact h.refl
  | true => exact Moves.bind h.trans (h.load calls name kind) fun _ => h.refl

/-- What all parts of operations keep is kept by every command that does not switch. -/
theorem command (h : Filing D R) (calls : Switchless D) {command : GeneratorCommand α}
    (other : command.switch? = none) : Moves R command.run := by
  -- Commands that only ask for something read the state and leave it.
  have reading (f : Generator α δ → GeneratorAnswer α) :
      Moves R (do return f (← get) : Action α (Generator α δ) (GeneratorAnswer α)) :=
    Moves.get_bind h.refl
  have finding {β : Type} (find : Generator α δ → Except (Failure α) β)
      (f : β → GeneratorAnswer α) :
      Moves R (do return f (← Action.lift (find (← get))) :
        Action α (Generator α δ) (GeneratorAnswer α)) :=
    Moves.get_bind fun g => Action.lift_bind_after (h.refl g) _ fun _ _ => h.refl g
  cases command with
  | saveBlock b => exact Moves.map (h.saveBlock b) _
  | saveEnsemble e => exact Moves.map (h.saveEnsemble e) _
  | saveSequence s => exact Moves.map (h.saveSequence s) _
  | getBlock name => exact finding _ _
  | getEnsemble name => exact finding _ _
  | getSequence name => exact finding _ _
  | deleteBlock name => exact Moves.map (h.deleteBlock name) _
  | deleteEnsemble name => exact Moves.map (h.deleteEnsemble calls.serving name) _
  | deleteSequence name => exact Moves.map (h.deleteSequence calls.serving name) _
  | getNames => exact reading _
  | getSettings => exact reading _
  | setSettings request => exact Moves.map (h.setSettings calls request) _
  | setGeneration generation =>
    exact Moves.bind h.trans (h.setGeneration generation) fun _ => h.refl
  | sample name kind andLoad => exact Moves.map (h.sampleAndLoad calls name kind andLoad) _
  | load name kind => exact Moves.map (h.load calls name kind) _
  | deleteWaveform name => exact Moves.map (h.deleteWaveform calls.serving name) _
  | clear => exact Moves.map (h.clear calls.serving) _
  | setOutput on => cases other
  | getRecipes => exact reading _
  | generate recipe name params => exact Moves.map (h.generate recipe name params) _
  | summarise ensemble => exact finding _ _

end Generator.Filing

/-! ## 2. Commands of the measurement -/

namespace Measurement

variable [Analytic α] [Counter α κ] [Microwave α μ]

/-- A command that never has the output switched leaves the state. -/
theorem command_sameState (guard : AssetGuard) {command : MeasurementCommand α}
    (silent : ∀ before succeeded behind, command.switch? before succeeded behind = none) :
    Moves SameState (command.run guard : Act α κ μ (MeasurementAnswer α)) := by
  have reading (f : Measurement α κ μ → MeasurementAnswer α) :
      Moves SameState (do return f (← get) : Act α κ μ (MeasurementAnswer α)) :=
    Moves.get_bind SameState.refl
  have gentle := sameState_gentle (α := α) (κ := κ) (μ := μ)
  cases command with
  | start tag => cases silent .idle true .idle
  | stop tag => cases silent .running true .idle
  | pause => cases silent .idle true .idle
  | resume => cases silent .idle true .idle
  | refresh => cases silent .running true .idle
  | getData => exact reading _
  | getState => exact reading _
  | getSettings => exact reading _
  | setSettings settings => exact Moves.map (gentle.setSettings settings) _
  | setCounterSettings settings => exact Moves.map (gentle.setCounterSettings settings) _
  | setMicrowaveSettings settings => exact Moves.map (setMicrowaveSettings_sameState settings) _
  | getExtractions => exact reading _
  | setExtraction params => exact Moves.map (gentle.mild.setExtraction params) _
  | getEvaluations => exact reading _
  | setEvaluation params => exact Moves.map (gentle.mild.setEvaluation params) _
  | setInterval seconds => exact Moves.map (gentle.mild.setInterval seconds) _
  | setView kind => exact Moves.map (gentle.setView kind) _
  | save directory tag =>
    exact Moves.get_bind fun m =>
      Action.lift_bind_after (SameState.refl m) _ fun _ _ => SameState.refl m
  | setAsset asset => exact Moves.map (gentle.mild.setAsset fun _ => rfl) _

end Measurement

namespace Session

variable [Analytic α] [Counter α κ] [Microwave α μ]

/-- The switch that a command of the measurement asks for. -/
def asks (command : MeasurementCommand α) (s : Session α δ κ μ) : Option Bool :=
  match command.run s.guard s.measurement with
  | .ok _ measurement => command.switch? s.measurement.state true measurement.state
  | .error _ measurement => command.switch? s.measurement.state false measurement.state

/-- The switch that a refresh of a running measurement asks for. -/
def tickAsks (s : Session α δ κ μ) : Option Bool :=
  match (Measurement.tick : Measurement.Act α κ μ Bool) s.measurement with
  | .ok _ _ => none
  | .error f _ => if f.isHardware then some false else none

/-- The state belongs to the last switch: the one that was asked for, or the one before it. -/
def Follows (before : RunState) (asked : Option Bool) (behind : RunState) : Prop :=
  asked.getD (before == .running) = (behind == .running)

variable {s : Session α δ κ μ} {command : MeasurementCommand α}

theorem asks_of_ok {answer : MeasurementAnswer α} {next : Measurement α κ μ}
    (done : command.run s.guard s.measurement = .ok answer next) :
    s.asks command = command.switch? s.measurement.state true next.state := by
  rw [asks, done]

theorem asks_of_error {f : Failure α} {next : Measurement α κ μ}
    (failed : command.run s.guard s.measurement = .error f next) :
    s.asks command = command.switch? s.measurement.state false next.state := by
  rw [asks, failed]

/-- A command whose switch and state fit together, whether it succeeds or fails. -/
theorem asks_follows_of
    (fits : (∃ answer next, command.run s.guard s.measurement = .ok answer next ∧
        Follows s.measurement.state (command.switch? s.measurement.state true next.state)
          next.state) ∨
      ∃ f next, command.run s.guard s.measurement = .error f next ∧
        Follows s.measurement.state (command.switch? s.measurement.state false next.state)
          next.state) :
    Follows s.measurement.state (s.asks command)
      ((command.run s.guard).after s.measurement).state := by
  rcases fits with ⟨answer, next, done, fits⟩ | ⟨f, next, failed, fits⟩
  · rw [asks_of_ok done, after_of_ok done]
    exact fits
  · rw [asks_of_error failed, after_of_error failed]
    exact fits

/-- Where neither switch nor state changes. -/
theorem follows_same {before behind : RunState} (same : behind = before) :
    Follows before none behind := by
  rw [same]
  rfl

omit [Analytic α] in
/-- A refresh that ends a run has the output switched off. -/
theorem refreshed_follows {before behind : RunState} (ends : behind = before ∨ behind = .idle)
    {succeeded : Bool} :
    Follows before (MeasurementCommand.switch? (α := α) before succeeded behind .refresh)
      behind := by
  rcases ends with rfl | rfl
  · cases behind <;> rfl
  · cases before <;> rfl

/-- Whatever becomes of a command, the last switch is the one that belongs to the state. -/
theorem asks_follows (command : MeasurementCommand α) (s : Session α δ κ μ) :
    Follows s.measurement.state (s.asks command)
      ((command.run s.guard).after s.measurement).state := by
  have silent (h : ∀ before succeeded behind, command.switch? before succeeded behind = none) :
      Follows s.measurement.state (s.asks command)
        ((command.run s.guard).after s.measurement).state := by
    have kept := Measurement.command_sameState s.guard h s.measurement
    have nothing : s.asks command = none := by
      unfold asks
      split <;> exact h _ _ _
    rw [nothing]
    exact follows_same kept
  cases command with
  | start tag =>
    refine asks_follows_of ?_
    rcases Measurement.start_state s.guard tag s.measurement with
      ⟨next, done, running⟩ | ⟨f, next, failed, same⟩
    · refine Or.inl ⟨_, next, Action.map_of_ok done, ?_⟩
      rw [running]
      rfl
    · exact Or.inr ⟨f, next, Action.map_of_error failed, follows_same same⟩
  | stop tag =>
    have idle := Measurement.stop_state tag s.measurement
    refine asks_follows_of ?_
    cases done : Measurement.stop tag s.measurement with
    | ok _ next =>
      rw [after_of_ok done] at idle
      refine Or.inl ⟨_, next, Action.map_of_ok done, ?_⟩
      rw [idle]
      cases s.measurement.state <;> rfl
    | error f next =>
      rw [after_of_error done] at idle
      refine Or.inr ⟨f, next, Action.map_of_error done, ?_⟩
      rw [idle]
      cases s.measurement.state <;> rfl
  | pause =>
    refine asks_follows_of ?_
    rcases Measurement.pause_state s.measurement with
      ⟨next, done, paused⟩ | ⟨f, next, failed, idle | ⟨other, same⟩⟩
    · refine Or.inl ⟨_, next, Action.map_of_ok done, ?_⟩
      rw [paused]
      rfl
    · refine Or.inr ⟨f, next, Action.map_of_error failed, ?_⟩
      rw [idle]
      rfl
    · refine Or.inr ⟨f, next, Action.map_of_error failed, ?_⟩
      rw [same]
      cases state : s.measurement.state with
      | running => exact absurd state other
      | _ => rfl
  | resume =>
    refine asks_follows_of ?_
    rcases Measurement.resume_state s.guard s.measurement with
      ⟨next, done, running⟩ | ⟨f, next, failed, ends⟩
    · refine Or.inl ⟨_, next, Action.map_of_ok done, ?_⟩
      rw [running]
      rfl
    · refine Or.inr ⟨f, next, Action.map_of_error failed, ?_⟩
      rcases ends with idle | same
      · rw [idle]
        rfl
      · rw [same]
        cases s.measurement.state <;> rfl
  | refresh =>
    have ends := Measurement.refresh_state s.measurement
    refine asks_follows_of ?_
    cases done : (Measurement.refresh : Measurement.Act α κ μ Unit) s.measurement with
    | ok _ next =>
      rw [after_of_ok done] at ends
      refine Or.inl ⟨.data next.data, next, Action.bind_of_ok done, refreshed_follows ends⟩
    | error f next =>
      rw [after_of_error done] at ends
      exact Or.inr ⟨f, next, Action.bind_of_error done, refreshed_follows ends⟩
  | _ => exact silent fun _ _ _ => rfl

/-- So it is behind a refresh of a running measurement. -/
theorem tickAsks_follows (s : Session α δ κ μ) :
    Follows s.measurement.state s.tickAsks
      ((Measurement.tick : Measurement.Act α κ μ Bool).after s.measurement).state := by
  unfold tickAsks
  rcases Measurement.tick_state s.measurement with
    ⟨refreshed, next, done, same⟩ | ⟨f, next, failed, state⟩
  · rw [done, after_of_ok done]
    exact follows_same same
  · rw [failed, after_of_error failed, state]
    dsimp only
    split <;> rfl

/-! ## 3. Through the queue -/

/-- A queue behind which a switch was put, if there is one. -/
def withSwitch (queue : List (GeneratorCommand α)) (on : Option Bool) :
    List (GeneratorCommand α) :=
  queue ++ on.toList.map .setOutput

omit [Analytic α] [Counter α κ] [Microwave α μ] in
theorem withSwitch_append (first queue : List (GeneratorCommand α)) (on : Option Bool) :
    first ++ withSwitch queue on = withSwitch (first ++ queue) on :=
  (List.append_assoc ..).symm

omit [Analytic α] [Counter α κ] [Microwave α μ] in
/-- A switch is put behind all that waits, if there is room for it. -/
theorem elim_switchPulser {s : Session α δ κ μ} {asked : Option Bool}
    (room : asked.isSome = true → s.generatorQueue.length < s.capacity) :
    (asked.elim s fun on => s.switchPulser on) =
      { s with generatorQueue := withSwitch s.generatorQueue asked } := by
  cases asked with
  | none => simp [withSwitch]
  | some on => exact if_pos (room rfl)

theorem handleMeasurement_room
    (room : (s.asks command).isSome = true → s.generatorQueue.length < s.capacity) :
    (s.handleMeasurement command).2 =
      { s with
        measurement := (command.run s.guard).after s.measurement
        generatorQueue := withSwitch s.generatorQueue (s.asks command) } := by
  unfold handleMeasurement
  cases done : command.run s.guard s.measurement with
  | ok answer next =>
    rw [asks_of_ok done] at room ⊢
    rw [after_of_ok done]
    exact elim_switchPulser (s := { s with measurement := next }) room
  | error f next =>
    rw [asks_of_error done] at room ⊢
    rw [after_of_error done]
    exact elim_switchPulser (s := { s with measurement := next }) room

theorem tick_room (room : s.tickAsks.isSome = true → s.generatorQueue.length < s.capacity) :
    s.tick =
      { s with
        measurement := (Measurement.tick : Measurement.Act α κ μ Bool).after s.measurement
        generatorQueue := withSwitch s.generatorQueue s.tickAsks } := by
  unfold tick tickAsks at *
  cases done : (Measurement.tick : Measurement.Act α κ μ Bool) s.measurement with
  | ok _ next =>
    rw [after_of_ok done]
    simp [withSwitch]
  | error f next =>
    rw [done] at room
    rw [after_of_error done]
    dsimp only at room ⊢
    cases hardware : f.isHardware with
    | false => simp [withSwitch]
    | true =>
      rw [hardware] at room
      have put : (some false).elim { s with measurement := next } _ = _ := elim_switchPulser room
      exact put

end Session

end PulseBench
