import Mathlib.Logic.Relation
import PulseBench.Proofs.Session.Workers

/-!
# Both workers at work

A session on its own handles one command after the other. Here its workers run
side by side, and callers put commands in both queues at any time. The generator
worker needs four steps for a command: it takes the command from the queue and
marks the asset that will be busy, runs it, tells the measurement, and answers.
Whatever the measurement worker and the callers do may come between two of them.
A command of the measurement is one step, as nobody else looks at the measurement.

A `Bench` also holds what happened so far: what was loaded behind every command of
the generator, how many of them were answered, what was put in the queue of the
measurement, and which asset the measurement had whenever it handled a command.
No step depends on that.

Here the queues have no greatest length for callers and for the generator worker,
who wait for room if there is none. That only leaves more orders of steps. Callers
may ask for anything, but they name no asset: that is the generator worker's news.

Results:
1. `Bench.Step`, `Bench.Reaches`: the steps of the workers and of the callers, and
   what can come of a session.
2. `Bench.serve_steps`, `Bench.serve_session`: the four steps for a command, one
   right behind the other, are `Session.handleGenerator`.
3. `Bench.Recorded.step`: what is remembered of the past fits the session.
   The measurement handles what it was asked in the order in which it was asked.
-/

namespace PulseBench

variable {α δ κ μ : Type}

/-! ## 1. Steps -/

/-- How far the generator worker is with a command. -/
inductive Phase (α : Type) where
  /-- Between two commands. -/
  | idle
  | taken (command : GeneratorCommand α)
  | ran
  /-- The measurement was told what is loaded. -/
  | told

namespace Phase

/-- Number of commands that ran and were not answered yet. -/
def unanswered : Phase α → Nat
  | .idle | .taken _ => 0
  | .ran | .told => 1

/-- Number of commands of which the measurement knows, and that were not answered yet. -/
def announced : Phase α → Nat
  | .idle | .taken _ | .ran => 0
  | .told => 1

end Phase

/-- A command in the queue of the measurement. -/
structure Asked (α : Type) where
  /-- Number of commands that the generator had answered when the command was put in the queue. -/
  answers : Nat
  command : MeasurementCommand α

/-- A session with both workers at work. -/
structure Bench (α δ κ μ : Type) where
  session : Session α δ κ μ
  phase : Phase α
  /-- What was loaded in the beginning, and behind every command that the generator ran. -/
  infos : List (Option (AssetInfo α))
  /-- Number of commands that the generator answered. -/
  answers : Nat
  /-- All that was put in the queue of the measurement, handled or not. -/
  asked : List (Asked α)
  /-- The asset of the measurement at every command that it handled. -/
  seen : List (Option (AssetInfo α))

namespace Bench

/-- A session before its workers did anything. -/
def opening (s : Session α δ κ μ) : Bench α δ κ μ := ⟨s, .idle, [s.generator.loadedInfo], 0, [], []⟩

/-- The commands that were put in the queue of the measurement. -/
def commands (b : Bench α δ κ μ) : List (MeasurementCommand α) := b.asked.map Asked.command

/-! ### Callers -/

/-- A caller asks the generator. -/
def ask (command : GeneratorCommand α) (b : Bench α δ κ μ) : Bench α δ κ μ :=
  { b with session.generatorQueue := b.session.generatorQueue ++ [command] }

/-- A caller asks the measurement. -/
def request (command : MeasurementCommand α) (b : Bench α δ κ μ) : Bench α δ κ μ :=
  { b with
    session.measurementQueue := b.session.measurementQueue ++ [command]
    asked := b.asked ++ [⟨b.answers, command⟩] }

/-- A caller marks assets as busy, or as idle. -/
def hold (guard : AssetGuard) (b : Bench α δ κ μ) : Bench α δ κ μ :=
  { b with session.guard := guard }

/-! ### The generator worker -/

/-- The first command is taken from the queue, and its asset is busy. -/
def take (command : GeneratorCommand α) (rest : List (GeneratorCommand α)) (b : Bench α δ κ μ) :
    Bench α δ κ μ :=
  { b with
    session.generatorQueue := rest
    session.guard := command.busyAsset?.elim b.session.guard b.session.guard.mark
    phase := .taken command }

section Generator

variable [Analytic α]

/-- The command is run, and its asset is idle again. -/
def run [Pulser α δ] (command : GeneratorCommand α) (b : Bench α δ κ μ) : Bench α δ κ μ :=
  { b with
    session := b.session.ran command
    phase := .ran
    infos := b.infos ++ [(b.session.ran command).generator.loadedInfo] }

/-- The measurement is told what is loaded, if it does not know. -/
def tell (b : Bench α δ κ μ) : Bench α δ κ μ :=
  let news := b.session.forward.measurementQueue.drop b.session.measurementQueue.length
  { b with
    session := b.session.forward
    phase := .told
    asked := b.asked ++ news.map fun command => ⟨b.answers, command⟩ }

end Generator

/-- The command is answered. -/
def answer (b : Bench α δ κ μ) : Bench α δ κ μ :=
  { b with phase := .idle, answers := b.answers + 1 }

/-! ### The measurement worker -/

section Measurement

variable [Analytic α] [Counter α κ] [Microwave α μ]

/-- The first command is taken from the queue and handled. -/
def handle (command : MeasurementCommand α) (rest : List (MeasurementCommand α))
    (b : Bench α δ κ μ) : Bench α δ κ μ :=
  { b with
    session := ({ b.session with measurementQueue := rest }.handleMeasurement command).2
    seen := b.seen ++ [b.session.measurement.asset] }

/-- It is time for a refresh. -/
def tick (b : Bench α δ κ μ) : Bench α δ κ μ := { b with session := b.session.tick }

end Measurement

/-! ### All steps -/

section Steps

variable [Analytic α] [Pulser α δ] [Counter α κ] [Microwave α μ]

/-- What can happen next. -/
inductive Step : Bench α δ κ μ → Bench α δ κ μ → Prop
  | ask (b : Bench α δ κ μ) (command : GeneratorCommand α) : Step b (b.ask command)
  | request (b : Bench α δ κ μ) {command : MeasurementCommand α}
      (other : command.named? = none) : Step b (b.request command)
  | hold (b : Bench α δ κ μ) (guard : AssetGuard) : Step b (b.hold guard)
  | take {b : Bench α δ κ μ} {command : GeneratorCommand α} {rest : List (GeneratorCommand α)}
      (idle : b.phase = .idle) (waiting : b.session.generatorQueue = command :: rest) :
      Step b (b.take command rest)
  | run {b : Bench α δ κ μ} {command : GeneratorCommand α} (taken : b.phase = .taken command) :
      Step b (b.run command)
  | tell {b : Bench α δ κ μ} (ran : b.phase = .ran) : Step b b.tell
  | answer {b : Bench α δ κ μ} (told : b.phase = .told) : Step b b.answer
  | handle {b : Bench α δ κ μ} {command : MeasurementCommand α}
      {rest : List (MeasurementCommand α)}
      (waiting : b.session.measurementQueue = command :: rest) : Step b (b.handle command rest)
  | tick (b : Bench α δ κ μ) : Step b b.tick

/-- What can come of a session, whatever the workers and the callers do in whatever order. -/
def Reaches (s : Session α δ κ μ) (b : Bench α δ κ μ) : Prop :=
  Relation.ReflTransGen Step (opening s) b

end Steps

/-! ## 2. A command without a break -/

section Serving

variable [Analytic α] [Pulser α δ]

/-- All that the generator worker does with a command. -/
def serve (command : GeneratorCommand α) (rest : List (GeneratorCommand α)) (b : Bench α δ κ μ) :
    Bench α δ κ μ :=
  ((b.take command rest).run command).tell.answer

theorem serve_steps [Counter α κ] [Microwave α μ] {b : Bench α δ κ μ}
    {command : GeneratorCommand α} {rest : List (GeneratorCommand α)} (idle : b.phase = .idle)
    (waiting : b.session.generatorQueue = command :: rest) :
    Relation.ReflTransGen Step b (b.serve command rest) := by
  refine .tail (.tail (.tail (.single (.take idle waiting)) (.run ?_)) (.tell ?_)) (.answer ?_)
  · rfl
  · rfl
  · rfl

/-- Then the session is as if the command had been handled on its own. -/
theorem serve_session (command : GeneratorCommand α) (rest : List (GeneratorCommand α))
    (b : Bench α δ κ μ) :
    (b.serve command rest).session =
      ({ b.session with generatorQueue := rest }.handleGenerator command).2 := by
  have freed : (b.take command rest).session.ran command =
      { b.session with generatorQueue := rest }.ran command := by
    unfold take Session.ran
    cases command.busyAsset? with
    | none => rfl
    | some name =>
      dsimp only [Option.elim_some]
      rw [AssetGuard.release_mark]
  rw [Session.handleGenerator_eq, ← freed]
  rfl

end Serving

/-! ## 3. What is remembered -/

/-- What is remembered of the past fits the session. -/
structure Recorded [Analytic α] (b : Bench α δ κ μ) : Prop where
  handled : b.seen.length ≤ b.commands.length
  /-- The queue holds what was asked and not handled yet, in the order in which it was asked. -/
  waiting : b.session.measurementQueue = b.commands.drop b.seen.length
  latest : b.infos.getLast? = some b.session.generator.loadedInfo
  counted : b.infos.length = b.answers + b.phase.unanswered + 1

section Past

variable [Analytic α] {b next : Bench α δ κ μ}

/-- Telling the measurement puts one command in its queue, or nothing if it knows. -/
theorem tell_cases (b : Bench α δ κ μ) :
    let info := b.session.generator.loadedInfo
    ((info == b.session.forwarded) = true ∧ b.tell = { b with phase := .told }) ∨
    b.tell = { b with
      session.forwarded := info
      session.measurementQueue := b.session.measurementQueue ++ [.setAsset info]
      phase := .told
      asked := b.asked ++ [⟨b.answers, .setAsset info⟩] } := by
  rcases b.session.forward_cases with ⟨known, same⟩ | told
  · exact Or.inl ⟨known, by simp [tell, same]⟩
  · exact Or.inr (by simp [tell, told])

/-- A command may be put in the queue behind what was handled. -/
theorem Recorded.append (h : b.Recorded) (answers : Nat) (command : MeasurementCommand α) :
    let commands := (b.asked ++ [(⟨answers, command⟩ : Asked α)]).map Asked.command
    b.seen.length ≤ commands.length ∧
      b.session.measurementQueue ++ [command] = commands.drop b.seen.length := by
  intro commands
  have grown : commands = b.commands ++ [command] := List.map_append
  rw [grown, h.waiting, List.drop_append_of_le_length h.handled, List.length_append]
  exact ⟨Nat.le_add_right_of_le h.handled, rfl⟩

/-- The first command in the queue is the first that was not handled yet. -/
theorem Recorded.first (h : b.Recorded) {command : MeasurementCommand α}
    {rest : List (MeasurementCommand α)} (queued : b.session.measurementQueue = command :: rest) :
    b.commands[b.seen.length]? = some command ∧ b.commands.drop (b.seen.length + 1) = rest := by
  have waiting : b.commands.drop b.seen.length = command :: rest := h.waiting.symm.trans queued
  refine ⟨?_, ?_⟩
  · rw [← List.head?_drop, waiting]
    rfl
  · rw [← List.tail_drop, waiting]
    rfl

theorem opening_recorded {s : Session α δ κ μ} (new : s.New) : (opening s).Recorded :=
  ⟨Nat.le_refl 0, new.measurementQueue, rfl, rfl⟩

variable [Pulser α δ] [Counter α κ] [Microwave α μ]

theorem Recorded.step (h : b.Recorded) (step : Step b next) : next.Recorded := by
  have counted := h.counted
  cases step with
  | ask command => exact ⟨h.handled, h.waiting, h.latest, h.counted⟩
  | hold guard => exact ⟨h.handled, h.waiting, h.latest, h.counted⟩
  | @request command other =>
    obtain ⟨handled, waiting⟩ := h.append b.answers command
    exact ⟨handled, waiting, h.latest, h.counted⟩
  | take idle waiting =>
    rw [idle] at counted
    exact ⟨h.handled, h.waiting, h.latest, counted⟩
  | @run command taken =>
    refine ⟨h.handled, h.waiting, List.getLast?_concat, ?_⟩
    rw [taken] at counted
    simp only [Bench.run, List.length_append, List.length_singleton, counted]
    rfl
  | tell ran =>
    rw [ran] at counted
    rcases b.tell_cases with ⟨-, same⟩ | told
    · rw [same]
      exact ⟨h.handled, h.waiting, h.latest, counted⟩
    · obtain ⟨handled, waiting⟩ := h.append b.answers (.setAsset b.session.generator.loadedInfo)
      rw [told]
      exact ⟨handled, waiting, h.latest, counted⟩
  | answer told =>
    rw [told] at counted
    exact ⟨h.handled, h.waiting, h.latest, counted⟩
  | @handle command rest queued =>
    obtain ⟨generatorQueue, handled⟩ :=
      Session.handleMeasurement_eq command { b.session with measurementQueue := rest }
    obtain ⟨here, others⟩ := h.first queued
    have more : b.seen.length + 1 ≤ b.commands.length := (List.getElem?_eq_some_iff.mp here).1
    have length : (b.handle command rest).seen.length = b.seen.length + 1 := List.length_append
    refine ⟨length ▸ more, ?_, ?_, h.counted⟩
    · rw [length]
      simp only [Bench.handle, handled]
      exact others.symm
    · simp only [Bench.handle, handled]
      exact h.latest
  | tick =>
    obtain ⟨generatorQueue, ticked⟩ := Session.tick_eq b.session
    refine ⟨h.handled, ?_, ?_, h.counted⟩
    · simp only [Bench.tick, ticked]
      exact h.waiting
    · simp only [Bench.tick, ticked]
      exact h.latest

end Past

end Bench

end PulseBench
