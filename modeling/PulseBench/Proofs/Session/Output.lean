import PulseBench.Proofs.Session.Announced
import PulseBench.Proofs.Session.Switching

/-!
# The output follows the run

The measurement worker does not switch the output itself. It puts switches in the queue
of the generator, among the commands of all callers, and the generator worker gets there
in its own time. Meanwhile the measurement goes on, and may ask for the opposite.

So nothing can be said of the output while switches wait. What can be said at every
moment is how the output will be when all that waits is done: as the state of the
measurement asks for. When nothing waits, that is the output itself.

Callers keep their hands off the output here, and a switch always finds room in the
queue (`Bench.HandsOff`). All else may happen in any order, and any call but a switch may
fail.

Results:
1. `outputAfter_append`: how the output will be behind a list of commands.
2. `Bench.HandsOff.step`: these are steps of the workers and callers.
3. `Bench.Switched.step`: what waits leads to the output that belongs to the state.
4. `Bench.output_follows_run`: the law.
-/

namespace PulseBench

variable {α δ κ μ : Type}

open Action (Moves after after_of_ok)

/-! ## 1. What waits -/

/-- How the output will be behind a list of commands. -/
def outputAfter (on : Bool) (commands : List (GeneratorCommand α)) : Bool :=
  commands.foldl (fun on command => command.switch?.getD on) on

theorem outputAfter_append (on : Bool) (commands : List (GeneratorCommand α))
    (command : GeneratorCommand α) :
    outputAfter on (commands ++ [command]) = command.switch?.getD (outputAfter on commands) := by
  rw [outputAfter, List.foldl_append]
  rfl

theorem outputAfter_withSwitch (on : Bool) (commands : List (GeneratorCommand α))
    (asked : Option Bool) :
    outputAfter on (Session.withSwitch commands asked) =
      asked.getD (outputAfter on commands) := by
  cases asked with
  | none => simp [Session.withSwitch]
  | some switch => exact outputAfter_append on commands (.setOutput switch)

/-- A command that has not run yet. -/
def Phase.waiting : Phase α → List (GeneratorCommand α)
  | .taken command => [command]
  | _ => []

namespace Bench

/-- The commands that will still run, in that order. -/
def waiting (b : Bench α δ κ μ) : List (GeneratorCommand α) :=
  b.phase.waiting ++ b.session.generatorQueue

/-! ## 2. Steps -/

section Steps

variable [Analytic α] [Pulser α δ] [Counter α κ] [Microwave α μ]

/-- What can happen next while callers leave the output alone, if switches find room. -/
inductive HandsOff : Bench α δ κ μ → Bench α δ κ μ → Prop
  | ask (b : Bench α δ κ μ) {command : GeneratorCommand α} (other : command.switch? = none) :
      HandsOff b (b.ask command)
  | request (b : Bench α δ κ μ) {command : MeasurementCommand α}
      (other : command.named? = none) : HandsOff b (b.request command)
  | hold (b : Bench α δ κ μ) (guard : AssetGuard) : HandsOff b (b.hold guard)
  | take {b : Bench α δ κ μ} {command : GeneratorCommand α} {rest : List (GeneratorCommand α)}
      (idle : b.phase = .idle) (waiting : b.session.generatorQueue = command :: rest) :
      HandsOff b (b.take command rest)
  | run {b : Bench α δ κ μ} {command : GeneratorCommand α} (taken : b.phase = .taken command) :
      HandsOff b (b.run command)
  | tell {b : Bench α δ κ μ} (ran : b.phase = .ran) : HandsOff b b.tell
  | answer {b : Bench α δ κ μ} (told : b.phase = .told) : HandsOff b b.answer
  | handle {b : Bench α δ κ μ} {command : MeasurementCommand α}
      {rest : List (MeasurementCommand α)}
      (waiting : b.session.measurementQueue = command :: rest)
      (room : (b.session.asks command).isSome = true →
        b.session.generatorQueue.length < b.session.capacity) :
      HandsOff b (b.handle command rest)
  | tick (b : Bench α δ κ μ)
      (room : b.session.tickAsks.isSome = true →
        b.session.generatorQueue.length < b.session.capacity) :
      HandsOff b b.tick

/-- What can come of a session then. -/
def ReachesHandsOff (s : Session α δ κ μ) (b : Bench α δ κ μ) : Prop :=
  Relation.ReflTransGen HandsOff (opening s) b

theorem HandsOff.step {b next : Bench α δ κ μ} (h : HandsOff b next) : Step b next := by
  cases h with
  | ask other => exact .ask b _
  | request other => exact .request b other
  | hold guard => exact .hold b guard
  | take idle waiting => exact .take idle waiting
  | run taken => exact .run taken
  | tell ran => exact .tell ran
  | answer told => exact .answer told
  | handle waiting room => exact .handle waiting
  | tick room => exact .tick b

end Steps

/-! ## 3. What waits leads to the right output -/

variable [Analytic α] [Pulser α δ]

/-- The device can still be switched, and when all that waits is done, its output will be as the
state of the measurement asks for. -/
structure Switched (view : OutputView α δ) (b : Bench α δ κ μ) : Prop where
  reliable : view.reliable b.session.generator.device
  output : outputAfter (view.isOn b.session.generator.device) b.waiting =
    (b.session.measurement.state == .running)

/-- A command switches the output if that is what it is for. -/
theorem run_output (view : OutputView α δ) (command : GeneratorCommand α) {g : Generator α δ}
    (reliable : view.reliable g.device) :
    view.reliable (command.run.after g).device ∧
      view.isOn (command.run.after g).device = command.switch?.getD (view.isOn g.device) := by
  cases switch : command.switch? with
  | none =>
    have filing := Generator.filing_device (α := α) view.others.refl view.others.trans
    exact filing.command view.others switch g reliable
  | some on =>
    obtain rfl : command = .setOutput on := by
      cases command with
      | setOutput _ => exact congrArg _ (Option.some.inj switch)
      | _ => cases switch
    obtain ⟨answer, device, switched, kept, isOn⟩ := view.switches on g.device reliable
    have ran : (GeneratorCommand.run (.setOutput on)).after g = { g with device } := by
      rw [GeneratorCommand.run, Action.after_map, Generator.setOutput, Generator.onDevice_after,
        after_of_ok switched]
    rw [ran]
    exact ⟨kept, isOn⟩

variable {view : OutputView α δ} {b next : Bench α δ κ μ}

omit [Analytic α] in
theorem opening_switched {s : Session α δ κ μ} (new : s.New)
    (reliable : view.reliable s.generator.device) (off : view.isOn s.generator.device = false)
    (idle : s.measurement.state = .idle) : Switched view (opening s) where
  reliable := reliable
  output := by
    change outputAfter _ s.generatorQueue = _
    rw [new.generatorQueue]
    change view.isOn s.generator.device = (s.measurement.state == .running)
    rw [off, idle]
    rfl

variable [Counter α κ] [Microwave α μ]

theorem Switched.step (h : Switched view b) (step : HandsOff b next) : Switched view next := by
  have output := h.output
  cases step with
  | @ask command other =>
    refine ⟨h.reliable, ?_⟩
    change outputAfter _ (b.phase.waiting ++ (b.session.generatorQueue ++ [command])) = _
    rw [← List.append_assoc, outputAfter_append, other]
    exact output
  | request other => exact ⟨h.reliable, h.output⟩
  | hold guard => exact ⟨h.reliable, h.output⟩
  | @take command rest idle waiting =>
    refine ⟨h.reliable, ?_⟩
    rw [Bench.waiting, idle, waiting] at output
    exact output
  | @run command taken =>
    obtain ⟨reliable, switched⟩ := run_output view command h.reliable
    refine ⟨reliable, ?_⟩
    rw [Bench.waiting, taken] at output
    change outputAfter (view.isOn (command.run.after b.session.generator).device)
      b.session.generatorQueue = _
    rw [switched]
    exact output
  | tell ran =>
    rw [Bench.waiting, ran] at output
    rcases b.tell_cases with ⟨-, same⟩ | told
    · rw [same]
      exact ⟨h.reliable, output⟩
    · rw [told]
      exact ⟨h.reliable, output⟩
  | answer told =>
    rw [Bench.waiting, told] at output
    exact ⟨h.reliable, output⟩
  | @handle command rest waiting room =>
    have handled : ({ b.session with measurementQueue := rest }.handleMeasurement command).2 = _ :=
      Session.handleMeasurement_room room
    have follows := Session.asks_follows command b.session
    unfold handle
    rw [handled]
    refine ⟨h.reliable, ?_⟩
    change outputAfter (view.isOn b.session.generator.device)
      (b.phase.waiting ++ Session.withSwitch b.session.generatorQueue (b.session.asks command)) = _
    rw [Session.withSwitch_append, outputAfter_withSwitch]
    exact (congrArg _ output).trans follows
  | tick room =>
    have follows := Session.tickAsks_follows b.session
    unfold tick
    rw [Session.tick_room room]
    refine ⟨h.reliable, ?_⟩
    change outputAfter (view.isOn b.session.generator.device)
      (b.phase.waiting ++ Session.withSwitch b.session.generatorQueue b.session.tickAsks) = _
    rw [Session.withSwitch_append, outputAfter_withSwitch]
    exact (congrArg _ output).trans follows

/-- So it is at every moment. -/
theorem switched_of_reached {s : Session α δ κ μ} (opening : Switched view (opening s))
    (reached : ReachesHandsOff s b) : Switched view b := by
  induction reached with
  | refl => exact opening
  | tail _ step ih => exact ih.step step

/-! ## 4. The law -/

/-- The pulse generator plays exactly while a run does. A session starts with a device whose output
is off, and which may fail anything but a switch; counter and microwave source may fail anything.
However the steps of both workers and of the callers follow each other, as long as callers leave the
output alone and switches find room in the queue: whenever the generator worker is between two
commands and none waits for it, the output is on exactly if the measurement is running. -/
theorem output_follows_run (view : OutputView α δ) {config : Config α} {store : Store α}
    {pulser : δ} {counter : κ} {microwave : Option μ} {s : Session α δ κ μ}
    (reliable : view.reliable pulser) (off : view.isOn pulser = false)
    (started : Session.start config store pulser counter microwave = .ok s)
    (reached : ReachesHandsOff s b) (idle : b.phase = .idle)
    (empty : b.session.generatorQueue = []) :
    view.isOn b.session.generator.device = true ↔ b.session.measurement.state = .running := by
  obtain ⟨device, state⟩ := Session.start_parts started
  have opened : Switched view (opening s) :=
    opening_switched (Session.start_new started) (by rwa [device]) (by rwa [device]) state
  have switched := switched_of_reached opened reached
  have output := switched.output
  rw [waiting, idle, empty] at output
  change view.isOn b.session.generator.device = (b.session.measurement.state == .running) at output
  rw [output, beq_iff_eq]

/-! A schedule can be played. The counter of this session fails every read, and its pulse generator
every `clear`. -/

/-- The next step in a schedule. -/
inductive Event (α : Type) where
  | ask (command : GeneratorCommand α)
  | request (command : MeasurementCommand α)
  | take
  | run
  | tell
  | answer
  | handle
  | tick

/-- The step, if it can happen. -/
def next? (event : Event α) (b : Bench α δ κ μ) : Option (Bench α δ κ μ) :=
  match event with
  | .ask command => if command.switch? = none then some (b.ask command) else none
  | .request command => if command.named?.isNone then some (b.request command) else none
  | .take =>
    match b.phase, b.session.generatorQueue with
    | .idle, command :: rest => some (b.take command rest)
    | _, _ => none
  | .run =>
    match b.phase with
    | .taken command => some (b.run command)
    | _ => none
  | .tell =>
    match b.phase with
    | .ran => some b.tell
    | _ => none
  | .answer =>
    match b.phase with
    | .told => some b.answer
    | _ => none
  | .handle =>
    match b.session.measurementQueue with
    | command :: rest =>
      if b.session.generatorQueue.length < b.session.capacity then some (b.handle command rest)
      else none
    | [] => none
  | .tick => if b.session.generatorQueue.length < b.session.capacity then some b.tick else none

theorem next?_handsOff {event : Event α} (happens : next? event b = some next) :
    HandsOff b next := by
  cases event with
  | ask command =>
    obtain ⟨other, ⟨⟩⟩ := Option.ite_none_right_eq_some.mp happens
    exact .ask b other
  | request command =>
    obtain ⟨other, ⟨⟩⟩ := Option.ite_none_right_eq_some.mp happens
    exact .request b (Option.isNone_iff_eq_none.mp other)
  | take =>
    dsimp only [next?] at happens
    split at happens
    case h_1 idle waiting =>
      cases happens
      exact .take idle waiting
    case h_2 => cases happens
  | run =>
    dsimp only [next?] at happens
    split at happens
    case h_1 taken =>
      cases happens
      exact .run taken
    case h_2 => cases happens
  | tell =>
    dsimp only [next?] at happens
    split at happens
    case h_1 ran =>
      cases happens
      exact .tell ran
    case h_2 => cases happens
  | answer =>
    dsimp only [next?] at happens
    split at happens
    case h_1 told =>
      cases happens
      exact .answer told
    case h_2 => cases happens
  | handle =>
    dsimp only [next?] at happens
    split at happens
    case h_1 waiting =>
      obtain ⟨room, ⟨⟩⟩ := Option.ite_none_right_eq_some.mp happens
      exact .handle waiting fun _ => room
    case h_2 => cases happens
  | tick =>
    obtain ⟨room, ⟨⟩⟩ := Option.ite_none_right_eq_some.mp happens
    exact .tick b fun _ => room

/-- All steps of a schedule. -/
def play (schedule : List (Event α)) (b : Bench α δ κ μ) : Option (Bench α δ κ μ) :=
  schedule.foldlM (fun b event => next? event b) b

theorem play_handsOff {schedule : List (Event α)} (played : play schedule b = some next) :
    Relation.ReflTransGen HandsOff b next := by
  induction schedule generalizing b with
  | nil =>
    cases played
    exact .refl
  | cons event rest ih =>
    obtain ⟨between, first, later⟩ := Option.bind_eq_some_iff.mp played
    exact .head (next?_handsOff first) (ih later)

/-- The pulse generator of this session. -/
def stuckPulser : FaultyPulser (MemoryPulser ℚ) :=
  .under { FaultPlan.none with fails := fun call _ => call = .clear }
    (.fresh Generator.benchLimits)

/-- A session in which every read of the counter fails. -/
def blindSession : Except (Failure ℚ) (Session ℚ (FaultyPulser (MemoryPulser ℚ))
    (FaultyCounter (MemoryCounter ℚ)) (MemoryMicrowave ℚ)) :=
  Session.start .default .empty stuckPulser
    (.under { CounterPlan.none with fails := fun call _ => call = .read } (.fresh false)) none

/-- A command of the generator, from its queue to its answer. -/
def serving : List (Event ℚ) := [.take, .run, .tell, .answer]

/-- A run begins, and while the generator is at work, it fails. The output is to be switched off,
but before the generator gets there, the next run begins. -/
def racingSwitches : List (Event ℚ) :=
  [.request (.setSettings ownSettings), .request (.start none), .handle, .handle, .ask .clear,
    .take, .run, .tick, .tell, .answer, .request (.start none), .handle] ++
    serving ++ serving ++ serving

/-- In the end the second run is on, and so is the output. -/
theorem output_follows_run_of_racing_switches :
    ∃ s b, blindSession = .ok s ∧ play racingSwitches (opening s) = some b ∧
      ReachesHandsOff s b ∧ b.phase = .idle ∧ b.session.generatorQueue = [] ∧
      b.session.measurement.state = .running ∧
      b.session.generator.device.inner.outputOn = true := by
  have ran : (match blindSession with
    | .ok s =>
      match play racingSwitches (opening s) with
      | some b =>
        (match b.phase with | .idle => true | _ => false) && b.session.generatorQueue.isEmpty &&
        decide (b.session.measurement.state = .running)
      | none => false
    | .error _ => false) = true := by decide +kernel
  cases started : blindSession with
  | error f =>
    rw [started] at ran
    cases ran
  | ok s =>
    rw [started] at ran
    dsimp only at ran
    cases played : play racingSwitches (opening s) with
    | none =>
      rw [played] at ran
      cases ran
    | some b =>
      rw [played] at ran
      dsimp only at ran
      simp only [Bool.and_eq_true, decide_eq_true_eq, List.isEmpty_iff] at ran
      obtain ⟨⟨phase, empty⟩, running⟩ := ran
      have idle : b.phase = .idle := by
        split at phase
        · assumption
        · cases phase
      have reached : ReachesHandsOff s b := play_handsOff played
      have reliable : (FaultyPulser.outputView MemoryPulser.outputView).reliable stuckPulser :=
        ⟨rfl, fun _ => rfl⟩
      exact ⟨s, b, rfl, played, reached, idle, empty, running,
        (output_follows_run _ reliable rfl started reached idle empty).mpr running⟩

end Bench

end PulseBench
