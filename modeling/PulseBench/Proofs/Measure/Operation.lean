import PulseBench.Measure.Run
import PulseBench.Proofs.Measure.Devices

/-!
# The operations of a measurement

`Operation` lists what can be asked of a measurement that changes it, and
`Operation.after` is the state behind one, whether it succeeds or fails.

Relations between two states are carried from steps to operations, by what they
may notice:

* `Mild`: a relation that does not notice changes besides the run and its result.
* `Adjusting`: a relation that is kept when the counter is configured and its answer
  noted, and when other settings are noted or the result is cleared. The operations
  that change the settings keep it.
* `Settling`: such a relation that does not notice settings at all.
* `Gentle`: a relation that does not notice changes besides devices, methods, run
  and asset, and that is kept when the counter is configured or read. The settings
  and a refresh keep it.
* `Careful`: a relation that does not notice changes besides counter, methods, asset,
  settings and result, and that is kept by the counter in a run. Everything that a
  run consists of keeps it.
* `Steady`, `Sturdy`: both together; the second is also kept when an asset is named.

Results:
1. `onCounter_after`, `onMicrowave_after`, `onExtraction_after`,
   `onEvaluation_after`: a call changes what it is made to, and nothing else.
   `configure_ok`, `configure_error`: configuring the counter also notes its answer.
   `setView_cases`, `setView_after`, `OnlyDevices`, `OnlySource`: what selecting a view
   and calls of counter and source leave alone.
2. `failStop_after`, `wrapUp_after`: what the end of a run leaves alone.
   `pull_cases`, and `stop_of_running`, `tick_of_running`, `refresh_cases`: a refresh
   by itself, and the operations that refresh by what becomes of it.
3. `Mild.setAsset`, `Settling.setSettings`, `Gentle.pull` and others: from steps to
   operations.
4. `Careful.operation`, `Sturdy.operation`, `Sturdy.afterAll`: from all steps to all
   operations, and to a run of them.
5. `ofDevices_new`, `ofDevices_configured`: where a run begins.
-/

namespace PulseBench.Measurement

variable {α κ μ : Type}

open Action (Moves after after_of_ok after_of_error)

/-! ## Operations -/

/-- What can be asked of a measurement, as far as it changes something. -/
inductive Operation (α : Type) where
  | setSettings (settings : MeasurementSettings α)
  | setCounterSettings (settings : CounterSettings α)
  | setMicrowaveSettings (settings : MicrowaveSettings α)
  | setExtraction (params : ParamSet α)
  | setEvaluation (params : ParamSet α)
  | setInterval (seconds : α)
  | setView (kind : ViewKind)
  | setAsset (asset : Option (AssetInfo α))
  | announceTo (outbox : Option (Outbox α))
  | start (guard : AssetGuard) (tag : Option String)
  | stop (tag : Option String)
  | pause
  | resume (guard : AssetGuard)
  | tick
  | refresh

section Running

variable [Analytic α] [Counter α κ] [Microwave α μ]

/-- What an operation does, leaving its answer aside. -/
def Operation.run : Operation α → Act α κ μ Unit
  | .setSettings settings => do
      let _ ← Measurement.setSettings settings
  | .setCounterSettings settings => do
      let _ ← Measurement.setCounterSettings settings
  | .setMicrowaveSettings settings => do
      let _ ← Measurement.setMicrowaveSettings settings
  | .setExtraction params => do
      let _ ← Measurement.setExtraction params
  | .setEvaluation params => do
      let _ ← Measurement.setEvaluation params
  | .setInterval seconds => do
      let _ ← Measurement.setInterval seconds
  | .setView kind => do
      let _ ← Measurement.setView kind
  | .setAsset asset => Measurement.setAsset asset
  | .announceTo outbox => modify fun m => { m with outbox }
  | .start guard tag => Measurement.start guard tag
  | .stop tag => Measurement.stop tag
  | .pause => Measurement.pause
  | .resume guard => Measurement.resume guard
  | .tick => do
      let _ ← Measurement.tick
  | .refresh => Measurement.refresh

/-- The state behind an operation, also if it fails. -/
def Operation.after (op : Operation α) (m : Measurement α κ μ) : Measurement α κ μ :=
  Action.after op.run m

/-- The state behind a list of operations. -/
def afterAll (ops : List (Operation α)) (m : Measurement α κ μ) : Measurement α κ μ :=
  ops.foldl (fun m op => op.after m) m

end Running

/-! ## 1. Calls -/

section Calls

variable {m : Measurement α κ μ}

theorem onCounter_ok {β : Type} {act : Action α κ β} {b : β} {counter : κ}
    (done : act m.counter = .ok b counter) : onCounter act m = .ok b { m with counter } := by
  rw [onCounter, done]

theorem onCounter_error {β : Type} {act : Action α κ β} {f : Failure α} {counter : κ}
    (failed : act m.counter = .error f counter) :
    onCounter act m = .error f { m with counter } := by
  rw [onCounter, failed]

theorem onCounter_after {β : Type} (act : Action α κ β) (m : Measurement α κ μ) :
    (onCounter act).after m = { m with counter := act.after m.counter } := by
  cases called : act m.counter with
  | ok b counter => rw [after_of_ok (onCounter_ok called), after_of_ok called]
  | error f counter => rw [after_of_error (onCounter_error called), after_of_error called]

/-- The settings that a counter answers with are kept. -/
theorem configure_ok [Counter α κ] {requested used : CounterSettings α} {counter : κ}
    (done : (Counter.configure requested : Action α κ _) m.counter = .ok used counter) :
    configure requested m = .ok ⟨⟩ { m with counter, counterSettings := used } := by
  unfold configure
  rw [Action.bind_of_ok (onCounter_ok done)]
  rfl

theorem configure_error [Counter α κ] {requested : CounterSettings α} {f : Failure α} {counter : κ}
    (refused : (Counter.configure requested : Action α κ _) m.counter = .error f counter) :
    configure requested m = .error f { m with counter } :=
  Action.bind_of_error (onCounter_error refused)

theorem onExtraction_after {β : Type} (act : Action α (Selection α (ExtractionRule α)) β)
    (m : Measurement α κ μ) :
    (onExtraction act).after m = { m with extraction := act.after m.extraction } := by
  cases called : act m.extraction with
  | ok b extraction =>
    have done : onExtraction act m = .ok b { m with extraction } := by rw [onExtraction, called]
    rw [after_of_ok done, after_of_ok called]
  | error f extraction =>
    have failed : onExtraction act m = .error f { m with extraction } := by
      rw [onExtraction, called]
    rw [after_of_error failed, after_of_error called]

theorem onEvaluation_after {β : Type} (act : Action α (Selection α (EvaluationRule α)) β)
    (m : Measurement α κ μ) :
    (onEvaluation act).after m = { m with evaluation := act.after m.evaluation } := by
  cases called : act m.evaluation with
  | ok b evaluation =>
    have done : onEvaluation act m = .ok b { m with evaluation } := by rw [onEvaluation, called]
    rw [after_of_ok done, after_of_ok called]
  | error f evaluation =>
    have failed : onEvaluation act m = .error f { m with evaluation } := by
      rw [onEvaluation, called]
    rw [after_of_error failed, after_of_error called]

theorem onMicrowave_after {β : Type} (act : Action α μ β) (m : Measurement α κ μ) :
    ∃ microwave, (onMicrowave act).after m = { m with microwave } := by
  cases known : m.microwave with
  | none =>
    have absent : onMicrowave act m = .ok none m := by simp only [onMicrowave, known]
    exact ⟨m.microwave, after_of_ok absent⟩
  | some s =>
    cases called : act s with
    | ok b next =>
      refine ⟨some next, after_of_ok (b := some b) ?_⟩
      simp only [onMicrowave, known, called]
    | error f next =>
      refine ⟨some next, after_of_error (e := f) ?_⟩
      simp only [onMicrowave, known, called]

theorem switchMicrowave_after [Microwave α μ] (on : Bool) (m : Measurement α κ μ) :
    ∃ microwave, (Measurement.switchMicrowave on).after m = { m with microwave } := by
  unfold Measurement.switchMicrowave
  rw [after, Action.run, Action.bind_of_ok (Action.get_apply m)]
  by_cases external : m.microwaveSettings.external = true
  · rw [if_pos external]
    obtain ⟨microwave, same⟩ := onMicrowave_after
      (if on then Microwave.switchOn else Microwave.switchOff : Action α μ Unit) m
    rw [← Action.after_discard] at same
    exact ⟨microwave, same⟩
  · rw [if_neg external]
    exact ⟨m.microwave, rfl⟩

/-- The difference of rows is refused unless there are two, and then it is not selected any more.
Any other view is selected if it can be derived. -/
theorem setView_cases [Analytic α] (kind : ViewKind) (m : Measurement α κ μ) :
    (kind = .delta ∧ ∃ f, (Measurement.setView kind : Act α κ μ ViewKind) m =
      .error f (if m.viewKind = .delta then m.withoutView else m)) ∨
    (∃ f, m.viewOf kind = .error f ∧
      (Measurement.setView kind : Act α κ μ ViewKind) m = .error f m) ∨
    ∃ view, m.viewOf kind = .ok view ∧ (Measurement.setView kind : Act α κ μ ViewKind) m =
      .ok kind { m with viewKind := kind, data := { m.data with view } } := by
  unfold Measurement.setView
  rw [Action.bind_of_ok (Action.get_apply m)]
  by_cases refused : kind = .delta ∧ ¬ m.settings.alternating
  · rw [if_pos refused]
    refine Or.inl ⟨refused.1, ?_⟩
    by_cases selected : m.viewKind = .delta
    · rw [if_pos selected, if_pos selected]
      exact ⟨_, rfl⟩
    · rw [if_neg selected, if_neg selected]
      exact ⟨_, rfl⟩
  · rw [if_neg refused]
    cases derived : m.viewOf kind with
    | error f => exact Or.inr (Or.inl ⟨f, rfl, rfl⟩)
    | ok view => exact Or.inr (Or.inr ⟨view, rfl, rfl⟩)

/-- Selecting a view changes the view and nothing else. -/
theorem setView_after [Analytic α] (kind : ViewKind) (m : Measurement α κ μ) :
    ∃ viewKind view, (Measurement.setView kind).after m =
      { m with viewKind, data := { m.data with view } } := by
  rcases setView_cases kind m with ⟨-, f, refused⟩ | ⟨f, -, failed⟩ | ⟨view, -, done⟩
  · rw [after_of_error refused]
    split
    · exact ⟨.none, none, rfl⟩
    · exact ⟨m.viewKind, m.data.view, rfl⟩
  · rw [after_of_error failed]
    exact ⟨m.viewKind, m.data.view, rfl⟩
  · rw [after_of_ok done]
    exact ⟨kind, view, rfl⟩

/-- Nothing but the devices differs. -/
def OnlyDevices (before after : Measurement α κ μ) : Prop :=
  ∃ counter microwave, after = { before with counter, microwave }

namespace OnlyDevices

theorem refl (m : Measurement α κ μ) : OnlyDevices m m := ⟨m.counter, m.microwave, rfl⟩

theorem trans (a b c : Measurement α κ μ) (first : OnlyDevices a b) (second : OnlyDevices b c) :
    OnlyDevices a c := by
  obtain ⟨_, _, rfl⟩ := first
  obtain ⟨counter, microwave, rfl⟩ := second
  exact ⟨counter, microwave, rfl⟩

theorem state {next : Measurement α κ μ} (h : OnlyDevices m next) : next.state = m.state := by
  obtain ⟨counter, microwave, rfl⟩ := h
  rfl

theorem onCounter {β : Type} (act : Action α κ β) :
    Moves OnlyDevices (Measurement.onCounter act : Act α κ μ β) := by
  intro m
  rw [onCounter_after]
  exact ⟨_, m.microwave, rfl⟩

theorem switchMicrowave [Microwave α μ] (on : Bool) :
    Moves OnlyDevices (Measurement.switchMicrowave on : Act α κ μ Unit) := by
  intro m
  obtain ⟨microwave, same⟩ := switchMicrowave_after on m
  exact ⟨m.counter, microwave, same⟩

end OnlyDevices

/-- Nothing but the source and its settings differs. -/
def OnlySource (before after : Measurement α κ μ) : Prop :=
  ∃ microwave microwaveSettings, after = { before with microwave, microwaveSettings }

namespace OnlySource

theorem refl (m : Measurement α κ μ) : OnlySource m m := ⟨m.microwave, m.microwaveSettings, rfl⟩

theorem trans (a b c : Measurement α κ μ) (first : OnlySource a b) (second : OnlySource b c) :
    OnlySource a c := by
  obtain ⟨_, _, rfl⟩ := first
  obtain ⟨microwave, microwaveSettings, rfl⟩ := second
  exact ⟨microwave, microwaveSettings, rfl⟩

theorem onMicrowave {β : Type} (act : Action α μ β) :
    Moves OnlySource (Measurement.onMicrowave act : Act α κ μ (Option β)) := by
  intro m
  obtain ⟨microwave, same⟩ := onMicrowave_after act m
  exact ⟨microwave, m.microwaveSettings, same⟩

variable [Microwave α μ]

theorem applyMicrowave (settings : MicrowaveSettings α) :
    Moves OnlySource (Measurement.applyMicrowave settings :
      Act α κ μ (MicrowaveSettings α)) := by
  refine Moves.bind trans (onMicrowave _) fun carrier => ?_
  cases carrier with
  | none => exact refl
  | some carrier =>
    cases settings.timing with
    | none => exact refl
    | some requested => exact Moves.bind trans (onMicrowave _) fun _ => refl

theorem setMicrowaveSettings [Scalar α] (settings : MicrowaveSettings α) :
    Moves OnlySource (Measurement.setMicrowaveSettings settings :
      Act α κ μ (MicrowaveSettings α)) := by
  refine Moves.get_bind fun m => ?_
  refine Moves.bind trans (Moves.lift refl _) (fun _ => ?_) m
  have noting (used : MicrowaveSettings α) : Moves OnlySource (do
      modify fun m => { m with microwaveSettings := used }
      return used : Act α κ μ (MicrowaveSettings α)) :=
    Moves.bind trans (Moves.modify fun m => ⟨m.microwave, used, rfl⟩) fun _ => refl
  cases settings.external with
  | false => exact noting settings
  | true => exact Moves.bind trans (applyMicrowave settings) noting

end OnlySource

end Calls

/-! ## 2. Stopping and refreshing -/

section Stopping

variable [Counter α κ] [Microwave α μ]

/-- A measurement that is about to stop. -/
def stopping (m : Measurement α κ μ) : Measurement α κ μ :=
  (setState .stopping : Act α κ μ Unit).after m

/-- What is left of a start when it is allowed and the settings are taken over. -/
def launch [Scalar α] (tag : Option String) : Act α κ μ Unit := do
  modify fun m => { m.clearData with recalled := tag.bind m.stash.get? }
  startDevices
  setState .running

/-- What is left of a stop behind the last refresh. -/
def wrapUp (tag : Option String) : Act α κ μ Unit := do
  let counter ← Action.outcome (onCounter Counter.stop : Act α κ μ Unit)
  let microwave ← Action.outcome (Measurement.switchMicrowave false : Act α κ μ Unit)
  modify fun m => { m.withStash tag with recalled := none }
  setState .idle
  Action.lift counter
  Action.lift microwave

/-- A failure of a device ends the run; the result stays. -/
theorem failStop_after (cause : Failure α) (m : Measurement α κ μ) :
    ∃ microwave outbox, (failStop cause : Act α κ μ Unit).after m =
      { m with
        counter := (Counter.stop : Action α κ Unit).after m.counter
        microwave, recalled := none, state := .idle, outbox } := by
  have stopped := onCounter_after (Counter.stop : Action α κ Unit) m
  unfold failStop
  rw [after, Action.run, Action.bind_of_ok (Action.outcome_apply _ m), stopped]
  obtain ⟨microwave, switched⟩ := switchMicrowave_after false
    { m with counter := (Counter.stop : Action α κ Unit).after m.counter }
  rw [Action.bind_of_ok (Action.outcome_apply _ _), switched]
  exact ⟨microwave, _, rfl⟩

/-- The end of a run stashes its counts if it is told to; the result stays. -/
theorem wrapUp_after (tag : Option String) (m : Measurement α κ μ) :
    ∃ microwave outbox, (wrapUp tag : Act α κ μ Unit).after m =
      { m.withStash tag with
        counter := (Counter.stop : Action α κ Unit).after m.counter
        microwave, recalled := none, state := .idle, outbox } := by
  have stopped := onCounter_after (Counter.stop : Action α κ Unit) m
  unfold wrapUp
  rw [after, Action.run, Action.bind_of_ok (Action.outcome_apply _ m), stopped]
  obtain ⟨microwave, switched⟩ := switchMicrowave_after false
    { m with counter := (Counter.stop : Action α κ Unit).after m.counter }
  rw [Action.bind_of_ok (Action.outcome_apply _ _), switched]
  -- Whatever the devices answered is only reported when everything else is done.
  cases ((onCounter Counter.stop : Act α κ μ Unit).run m).1 <;>
    cases ((Measurement.switchMicrowave false : Act α κ μ Unit).run _).1 <;>
    cases tag <;> exact ⟨microwave, _, rfl⟩

variable [Analytic α] {m : Measurement α κ μ}

omit [Microwave α μ] in
/-- A refresh fails where the counter can not be read, or behind the reading if its counts hold no
result. -/
theorem pull_cases (m : Measurement α κ μ) :
    (∃ f counter, (Counter.read : Action α κ Reading) m.counter = .error f counter ∧
      (pull : Act α κ μ Unit) m = .error f { m with counter }) ∨
    ∃ reading counter, (Counter.read : Action α κ Reading) m.counter = .ok reading counter ∧
      let read := withReading reading { m with counter }
      (∃ f, read.analysed = .error f ∧ (pull : Act α κ μ Unit) m = .error f read) ∨
      ∃ data outbox, read.analysed = .ok data ∧
        (pull : Act α κ μ Unit) m = .ok ⟨⟩ { read with data, outbox } := by
  unfold pull
  cases answered : (Counter.read : Action α κ Reading) m.counter with
  | error f counter =>
    exact Or.inl ⟨f, counter, rfl, Action.bind_of_error (onCounter_error answered)⟩
  | ok reading counter =>
    refine Or.inr ⟨reading, counter, rfl, ?_⟩
    rw [Action.bind_of_ok (onCounter_ok answered), Action.bind_of_ok (Action.modify_apply _ _),
      Action.bind_of_ok (Action.get_apply _)]
    intro read
    cases analysed : read.analysed with
    | error f => exact Or.inl ⟨f, rfl, Action.bind_of_error (Action.lift_error f _)⟩
    | ok data => exact Or.inr ⟨data, _, rfl, rfl⟩

theorem stop_of_idle (idle : m.state = .idle) (tag : Option String) : stop tag m = .ok ⟨⟩ m := by
  unfold stop
  rw [Action.bind_of_ok (Action.get_apply m)]
  exact if_pos idle ▸ rfl

/-- A run that is not interrupted is refreshed a last time. -/
theorem stop_of_running (running : m.state = .running) (tag : Option String) :
    stop tag m = wrapUp tag ((pull : Act α κ μ Unit).after m.stopping) := by
  unfold stop
  rw [Action.bind_of_ok (Action.get_apply m)]
  simp only [running, reduceCtorEq, if_false, if_true]
  rw [Action.bind_of_ok (show setState .stopping m = .ok ⟨⟩ m.stopping from rfl),
    Action.bind_of_ok (Action.outcome_apply pull m.stopping)]
  rfl

/-- An interrupted run is ended as it is. -/
theorem stop_of_interrupted (active : m.state ≠ .idle) (interrupted : m.state ≠ .running)
    (tag : Option String) : stop tag m = wrapUp tag m.stopping := by
  unfold stop
  rw [Action.bind_of_ok (Action.get_apply m)]
  simp only [active, interrupted, if_false]
  rw [Action.bind_of_ok (show setState .stopping m = .ok ⟨⟩ m.stopping from rfl)]
  rfl

omit [Analytic α] in
/-- Ending a run after a failure does not fail itself. -/
theorem failStop_ok (cause : Failure α) (m : Measurement α κ μ) :
    failStop cause m = .ok ⟨⟩ ((failStop cause).after m) := by
  have ended : ∃ next, failStop cause m = .ok ⟨⟩ next := by
    unfold failStop
    rw [Action.bind_of_ok (Action.outcome_apply _ _), Action.bind_of_ok (Action.outcome_apply _ _)]
    exact ⟨_, rfl⟩
  obtain ⟨next, done⟩ := ended
  rw [after_of_ok done, done]

omit [Analytic α] in
theorem orFailStop_ok {act : Act α κ μ Unit} {next : Measurement α κ μ}
    (done : act m = .ok ⟨⟩ next) : orFailStop act m = .ok ⟨⟩ next := by
  unfold orFailStop
  rw [Action.bind_of_ok (Action.outcome_of_ok done)]
  rfl

omit [Analytic α] in
theorem orFailStop_error {act : Act α κ μ Unit} {f : Failure α} {behind : Measurement α κ μ}
    (failed : act m = .error f behind) :
    orFailStop act m = .error f ((failStop f).after behind) := by
  unfold orFailStop
  rw [Action.bind_of_ok (Action.outcome_of_error failed)]
  exact Action.bind_of_ok (failStop_ok f behind)

theorem tick_of_interrupted (interrupted : m.state ≠ .running) :
    (tick : Act α κ μ Bool) m = .ok false m := by
  unfold tick
  rw [Action.bind_of_ok (Action.get_apply m)]
  exact congrFun (if_neg interrupted) m

/-- A tick during a run fails if the refresh does, but first it ends the run or says so. -/
theorem tick_of_running (running : m.state = .running) :
    (∃ next, (pull : Act α κ μ Unit) m = .ok ⟨⟩ next ∧ (tick : Act α κ μ Bool) m = .ok true next) ∨
    ∃ f behind, (pull : Act α κ μ Unit) m = .error f behind ∧
      (tick : Act α κ μ Bool) m = .error f (if f.isHardware then (failStop f).after behind
        else (announce (.failed f)).after behind) := by
  unfold tick
  rw [Action.bind_of_ok (Action.get_apply m), if_pos running]
  cases pulled : (pull : Act α κ μ Unit) m with
  | ok _ next =>
    rw [Action.bind_of_ok (Action.outcome_of_ok pulled)]
    exact Or.inl ⟨next, rfl, rfl⟩
  | error f behind =>
    rw [Action.bind_of_ok (Action.outcome_of_error pulled)]
    refine Or.inr ⟨f, behind, rfl, ?_⟩
    dsimp only
    by_cases hardware : f.isHardware = true
    · rw [if_pos hardware, if_pos hardware]
      exact Action.bind_of_ok (failStop_ok f behind)
    · rw [if_neg hardware, if_neg hardware]
      rfl

/-- A request fails if the refresh does, but first it ends a run if a device failed. -/
theorem refresh_cases (m : Measurement α κ μ) :
    (∃ next, (pull : Act α κ μ Unit) m = .ok ⟨⟩ next ∧
      (refresh : Act α κ μ Unit) m = .ok ⟨⟩ next) ∨
    ∃ f behind, (pull : Act α κ μ Unit) m = .error f behind ∧
      (refresh : Act α κ μ Unit) m = .error f
        (if f.isHardware ∧ behind.state.isActive then (failStop f).after behind else behind) := by
  unfold refresh
  cases pulled : (pull : Act α κ μ Unit) m with
  | ok _ next =>
    rw [Action.bind_of_ok (Action.outcome_of_ok pulled)]
    exact Or.inl ⟨next, rfl, rfl⟩
  | error f behind =>
    rw [Action.bind_of_ok (Action.outcome_of_error pulled)]
    refine Or.inr ⟨f, behind, rfl, ?_⟩
    dsimp only
    rw [Action.bind_of_ok (Action.get_apply behind)]
    by_cases ends : f.isHardware = true ∧ behind.state.isActive = true
    · rw [if_pos ends, if_pos ends]
      exact Action.bind_of_ok (failStop_ok f behind)
    · rw [if_neg ends, if_neg ends]
      rfl

end Stopping

/-! ## 3. Mild steps -/

/-- The devices, the methods, the run and the asset are the same. -/
structure SameRun (before after : Measurement α κ μ) : Prop where
  counter : after.counter = before.counter
  microwave : after.microwave = before.microwave
  microwaveSettings : after.microwaveSettings = before.microwaveSettings
  extraction : after.extraction = before.extraction
  evaluation : after.evaluation = before.evaluation
  state : after.state = before.state
  asset : after.asset = before.asset

/-- The counter, the methods and the asset are the same. -/
structure SameMethods (before after : Measurement α κ μ) : Prop where
  counter : after.counter = before.counter
  extraction : after.extraction = before.extraction
  evaluation : after.evaluation = before.evaluation
  asset : after.asset = before.asset

theorem SameRun.methods {a b : Measurement α κ μ} (same : SameRun a b) : SameMethods a b :=
  ⟨same.counter, same.extraction, same.evaluation, same.asset⟩

/-- The settings are the same, and so are the axis, the estimates over it and the view of them. -/
structure SameResult (before after : Measurement α κ μ) : Prop where
  settings : after.settings = before.settings
  axis : after.data.axis = before.data.axis
  signal : after.data.signal = before.data.signal
  errors : after.data.errors = before.data.errors
  viewKind : after.viewKind = before.viewKind
  view : after.data.view = before.data.view

/-- A relation is kept by every step that leaves the run and its result alone, and by taking over
the settings of the asset. -/
structure Mild [Scalar α] [Counter α κ] (R : Measurement α κ μ → Measurement α κ μ → Prop) :
    Prop where
  refl : ∀ m, R m m
  trans : ∀ a b c, R a b → R b c → R a c
  extraction : ∀ params, Moves R (onExtraction (Selection.setParameters params))
  evaluation : ∀ params, Moves R (onEvaluation (Selection.setParameters params))
  invokeReadout : Moves R Measurement.invokeReadout
  change : ∀ a b, SameRun a b → SameResult a b → R a b

/-- An asset is noted, and perhaps its settings are taken over. -/
theorem setAsset_moves [Scalar α] [Counter α κ] {R : Measurement α κ μ → Measurement α κ μ → Prop}
    (refl : ∀ m, R m m) (trans : ∀ a b c, R a b → R b c → R a c)
    (invokeReadout : Moves R Measurement.invokeReadout) {asset : Option (AssetInfo α)}
    (names : ∀ m : Measurement α κ μ, R m { m with asset }) :
    Moves R (Measurement.setAsset asset) := by
  refine Moves.bind trans (Moves.modify names) fun _ => ?_
  refine Moves.get_bind fun m => ?_
  by_cases invokes : (m.settings.invoke && !m.state.isActive &&
      asset.any fun info => info.metadata.readout.isSome) = true
  · rw [if_pos invokes]
    refine Moves.bind trans (Moves.outcome invokeReadout) (fun _ => ?_) m
    exact refl
  · rw [if_neg invokes]
    exact refl m

namespace Mild

variable [Analytic α] [Counter α κ] {R : Measurement α κ μ → Measurement α κ μ → Prop}

theorem announce (h : Mild R) (update : Update α) : Moves R (Measurement.announce update) :=
  Moves.modify fun m =>
    h.change m _ ⟨rfl, rfl, rfl, rfl, rfl, rfl, rfl⟩ ⟨rfl, rfl, rfl, rfl, rfl, rfl⟩

theorem setExtraction (h : Mild R) (params : ParamSet α) :
    Moves R (Measurement.setExtraction params) := by
  refine Moves.bind h.trans (h.extraction params) fun _ => ?_
  exact Moves.get_bind fun m => Moves.lift h.refl _ m

theorem setEvaluation (h : Mild R) (params : ParamSet α) :
    Moves R (Measurement.setEvaluation params) := by
  refine Moves.bind h.trans (h.evaluation params) fun _ => ?_
  exact Moves.get_bind fun m => Moves.lift h.refl _ m

theorem setInterval (h : Mild R) (seconds : α) : Moves R (Measurement.setInterval seconds) := by
  unfold Measurement.setInterval
  by_cases positive : Scalar.isPositive seconds = true
  · rw [if_pos positive]
    refine Moves.bind h.trans (Moves.modify fun m => ?_) fun _ => h.refl
    exact h.change m _ ⟨rfl, rfl, rfl, rfl, rfl, rfl, rfl⟩ ⟨rfl, rfl, rfl, rfl, rfl, rfl⟩
  · rw [if_neg positive]
    exact h.refl

/-- Naming an asset is not mild in itself. -/
theorem setAsset (h : Mild R) {asset : Option (AssetInfo α)}
    (names : ∀ m : Measurement α κ μ, R m { m with asset }) :
    Moves R (Measurement.setAsset asset) :=
  setAsset_moves h.refl h.trans h.invokeReadout names

end Mild

/-! ## 4. Settling steps -/

/-- A relation is kept where the counter is configured and its answer noted, other settings are
noted, or the result is cleared for others. -/
structure Adjusting [Scalar α] [Counter α κ] (R : Measurement α κ μ → Measurement α κ μ → Prop) :
    Prop where
  refl : ∀ m, R m m
  trans : ∀ a b c, R a b → R b c → R a c
  configure : ∀ requested, Moves R (Measurement.configure requested)
  note : ∀ (m : Measurement α κ μ) settings, R m { m with settings }
  clear : ∀ m, R m m.clearData

namespace Adjusting

variable [Scalar α] [Counter α κ] {R : Measurement α κ μ → Measurement α κ μ → Prop}

/-- Whether the counter is configured may depend on anything. -/
theorem configureIf (h : Adjusting R) (needed : Prop) [Decidable needed]
    (requested : CounterSettings α) {β : Type} {rest : Act α κ μ β} (later : Moves R rest) :
    Moves R (do
      if needed then Measurement.configure requested
      rest) := by
  by_cases needs : needed
  · simp only [needs, if_true]
    exact Moves.bind h.trans (h.configure requested) fun _ => later
  · simp only [needs, if_false]
    exact later

theorem invokeReadout (h : Adjusting R) : Moves R Measurement.invokeReadout := by
  refine Moves.get_bind fun m => ?_
  cases m.asset with
  | none => exact h.refl m
  | some info =>
    dsimp only
    cases info.metadata.readout with
    | none => exact h.refl m
    | some readout =>
      dsimp only
      refine Moves.bind h.trans (Moves.modify fun m => h.note m _) (fun _ => ?_) m
      exact Moves.get_bind fun m => h.configureIf _ _ (Moves.modify h.clear) m

theorem setSettings (h : Adjusting R) (settings : MeasurementSettings α) :
    Moves R (Measurement.setSettings settings) := by
  refine Moves.get_bind fun m => ?_
  refine Moves.bind h.trans (Moves.lift h.refl _) (fun _ => ?_) m
  refine Moves.bind h.trans (Moves.modify fun m => h.note m _) fun _ => ?_
  refine Moves.get_bind fun m => h.configureIf _ _ ?_ m
  exact Moves.bind h.trans (Moves.modify h.clear) fun _ => h.refl

theorem setCounterSettings (h : Adjusting R) (settings : CounterSettings α) :
    Moves R (Measurement.setCounterSettings settings) := by
  refine Moves.get_bind fun m => ?_
  refine Moves.bind h.trans (Moves.lift h.refl _) (fun _ => ?_) m
  refine Moves.bind h.trans (h.configure settings) fun _ => ?_
  exact Moves.bind h.trans (Moves.modify h.clear) fun _ => h.refl

end Adjusting

/-- A relation is kept where the counter is configured, settings are noted or the result is cleared
for others. -/
structure Settling [Scalar α] [Counter α κ] (R : Measurement α κ μ → Measurement α κ μ → Prop) :
    Prop where
  refl : ∀ m, R m m
  trans : ∀ a b c, R a b → R b c → R a c
  configure : ∀ requested, Moves R (onCounter (Counter.configure requested))
  note : ∀ (m : Measurement α κ μ) settings counterSettings,
    R m { m with settings, counterSettings }
  clear : ∀ m, R m m.clearData

namespace Settling

variable [Scalar α] [Counter α κ] {R : Measurement α κ μ → Measurement α κ μ → Prop}

theorem adjusting (h : Settling R) : Adjusting R where
  refl := h.refl
  trans := h.trans
  configure requested := Moves.bind h.trans (h.configure requested) fun counterSettings =>
    Moves.modify fun m => h.note m m.settings counterSettings
  note m settings := h.note m settings m.counterSettings
  clear := h.clear

theorem invokeReadout (h : Settling R) : Moves R Measurement.invokeReadout :=
  h.adjusting.invokeReadout

theorem setSettings (h : Settling R) (settings : MeasurementSettings α) :
    Moves R (Measurement.setSettings settings) :=
  h.adjusting.setSettings settings

theorem setCounterSettings (h : Settling R) (settings : CounterSettings α) :
    Moves R (Measurement.setCounterSettings settings) :=
  h.adjusting.setCounterSettings settings

end Settling

/-! ## 5. Gentle steps -/

/-- Every gentle step keeps a relation. -/
structure Gentle [Scalar α] [Counter α κ] (R : Measurement α κ μ → Measurement α κ μ → Prop) :
    Prop where
  refl : ∀ m, R m m
  trans : ∀ a b c, R a b → R b c → R a c
  configure : ∀ requested, Moves R (onCounter (Counter.configure requested))
  read : Moves R (onCounter Counter.read)
  extraction : ∀ params, Moves R (onExtraction (Selection.setParameters params))
  evaluation : ∀ params, Moves R (onEvaluation (Selection.setParameters params))
  change : ∀ a b, SameRun a b → R a b

/-- A reading changes counts and sweeps, and perhaps it makes the recalled run be forgotten. -/
theorem withReading_eq (reading : Reading) (m : Measurement α κ μ) :
    ∃ counts sweeps recalled, withReading reading m =
      { m with data := { m.data with counts, sweeps }, recalled } := by
  unfold withReading
  split
  · exact ⟨_, _, m.recalled, rfl⟩
  · split
    · exact ⟨_, _, m.recalled, rfl⟩
    · exact ⟨_, _, none, rfl⟩

/-- The counts of a reading belong to neither devices nor run. -/
theorem sameRun_withReading (reading : Reading) (m : Measurement α κ μ) :
    SameRun m (withReading reading m) := by
  obtain ⟨counts, sweeps, recalled, same⟩ := withReading_eq reading m
  rw [same]
  exact ⟨rfl, rfl, rfl, rfl, rfl, rfl, rfl⟩

namespace Gentle

variable [Analytic α] [Counter α κ] {R : Measurement α κ μ → Measurement α κ μ → Prop}

theorem changing (h : Gentle R) {f : Measurement α κ μ → Measurement α κ μ}
    (same : ∀ m, SameRun m (f m)) : Moves R (modify f : Act α κ μ PUnit) :=
  Moves.modify fun m => h.change m (f m) (same m)

theorem announce (h : Gentle R) (update : Update α) : Moves R (Measurement.announce update) :=
  h.changing fun _ => ⟨rfl, rfl, rfl, rfl, rfl, rfl, rfl⟩

theorem settling (h : Gentle R) : Settling R where
  refl := h.refl
  trans := h.trans
  configure := h.configure
  note m _ _ := h.change m _ ⟨rfl, rfl, rfl, rfl, rfl, rfl, rfl⟩
  clear m := h.change m _ ⟨rfl, rfl, rfl, rfl, rfl, rfl, rfl⟩

theorem invokeReadout (h : Gentle R) : Moves R Measurement.invokeReadout :=
  h.settling.invokeReadout

theorem setSettings (h : Gentle R) (settings : MeasurementSettings α) :
    Moves R (Measurement.setSettings settings) :=
  h.settling.setSettings settings

theorem setCounterSettings (h : Gentle R) (settings : CounterSettings α) :
    Moves R (Measurement.setCounterSettings settings) :=
  h.settling.setCounterSettings settings

theorem setView (h : Gentle R) (kind : ViewKind) : Moves R (Measurement.setView kind) := by
  intro m
  obtain ⟨viewKind, view, same⟩ := setView_after kind m
  rw [same]
  exact h.change m _ ⟨rfl, rfl, rfl, rfl, rfl, rfl, rfl⟩

theorem pull (h : Gentle R) : Moves R Measurement.pull := by
  refine Moves.bind h.trans h.read fun reading => ?_
  refine Moves.bind h.trans (h.changing (sameRun_withReading reading)) fun _ => ?_
  refine Moves.get_bind fun m => ?_
  refine Moves.bind h.trans (Moves.lift h.refl _) (fun data => ?_) m
  exact Moves.bind h.trans (h.changing fun _ => ⟨rfl, rfl, rfl, rfl, rfl, rfl, rfl⟩) fun _ =>
    h.announce _

theorem mild (h : Gentle R) : Mild R where
  refl := h.refl
  trans := h.trans
  extraction := h.extraction
  evaluation := h.evaluation
  invokeReadout := h.invokeReadout
  change a b same _ := h.change a b same

end Gentle

/-! ## 6. Careful steps -/

/-- A relation is kept by every step of a run that leaves settings and result alone, by a refresh,
and where the result is cleared for another one. -/
structure Careful [Analytic α] [Counter α κ] (R : Measurement α κ μ → Measurement α κ μ → Prop) :
    Prop where
  refl : ∀ m, R m m
  trans : ∀ a b c, R a b → R b c → R a c
  startCounter : Moves R (onCounter Counter.start)
  stopCounter : Moves R (onCounter Counter.stop)
  pauseCounter : Moves R (onCounter Counter.pause)
  resumeCounter : Moves R (onCounter Counter.resume)
  extraction : ∀ params, Moves R (onExtraction (Selection.setParameters params))
  evaluation : ∀ params, Moves R (onEvaluation (Selection.setParameters params))
  change : ∀ a b, SameMethods a b → SameResult a b → R a b
  pull : Moves R Measurement.pull
  invokeReadout : Moves R Measurement.invokeReadout
  clears : ∀ (m : Measurement α κ μ) recalled, R m { m.clearData with recalled }

namespace Careful

variable [Analytic α] [Counter α κ] [Microwave α μ]
  {R : Measurement α κ μ → Measurement α κ μ → Prop}

omit [Microwave α μ] in
theorem changing (h : Careful R) {f : Measurement α κ μ → Measurement α κ μ}
    (methods : ∀ m, SameMethods m (f m)) (result : ∀ m, SameResult m (f m)) :
    Moves R (modify f : Act α κ μ PUnit) :=
  Moves.modify fun m => h.change m (f m) (methods m) (result m)

omit [Microwave α μ] in
theorem mild (h : Careful R) : Mild R where
  refl := h.refl
  trans := h.trans
  extraction := h.extraction
  evaluation := h.evaluation
  invokeReadout := h.invokeReadout
  change a b run result := h.change a b run.methods result

omit [Microwave α μ] in
theorem setState (h : Careful R) (state : RunState) : Moves R (Measurement.setState state) :=
  Moves.bind h.trans (h.changing (fun _ => ⟨rfl, rfl, rfl, rfl⟩)
    fun _ => ⟨rfl, rfl, rfl, rfl, rfl, rfl⟩) fun _ =>
    h.mild.announce _

theorem switchMicrowave (h : Careful R) (on : Bool) :
    Moves R (Measurement.switchMicrowave on) := by
  intro m
  obtain ⟨microwave, same⟩ := switchMicrowave_after on m
  rw [same]
  exact h.change m _ ⟨rfl, rfl, rfl, rfl⟩ ⟨rfl, rfl, rfl, rfl, rfl, rfl⟩

theorem setMicrowaveSettings (h : Careful R) (settings : MicrowaveSettings α) :
    Moves R (Measurement.setMicrowaveSettings settings) := by
  intro m
  obtain ⟨microwave, used, same⟩ := OnlySource.setMicrowaveSettings settings m
  rw [same]
  exact h.change m _ ⟨rfl, rfl, rfl, rfl⟩ ⟨rfl, rfl, rfl, rfl, rfl, rfl⟩

theorem startDevices (h : Careful R) : Moves R Measurement.startDevices := by
  refine Moves.bind h.trans (h.switchMicrowave true) fun _ => ?_
  refine Moves.bind h.trans (Moves.outcome h.startCounter) fun outcome => ?_
  cases outcome with
  | ok _ => exact h.refl
  | error f =>
    exact Moves.bind h.trans (Moves.outcome (h.switchMicrowave false)) fun _ => h.refl

theorem failStop (h : Careful R) (cause : Failure α) : Moves R (Measurement.failStop cause) := by
  refine Moves.bind h.trans (Moves.outcome h.stopCounter) fun _ => ?_
  refine Moves.bind h.trans (Moves.outcome (h.switchMicrowave false)) fun _ => ?_
  refine Moves.bind h.trans (h.changing (fun _ => ?_) fun _ => ?_) fun _ => ?_
  · exact ⟨rfl, rfl, rfl, rfl⟩
  · exact ⟨rfl, rfl, rfl, rfl, rfl, rfl⟩
  · exact Moves.bind h.trans (h.mild.announce _) fun _ => h.setState .idle

theorem orFailStop (h : Careful R) {act : Act α κ μ Unit} (moves : Moves R act) :
    Moves R (Measurement.orFailStop act) := by
  intro m
  have moved := moves m
  cases done : act m with
  | ok _ next =>
    rw [after_of_ok done] at moved
    rw [after_of_ok (orFailStop_ok done)]
    exact moved
  | error f behind =>
    rw [after_of_error done] at moved
    rw [after_of_error (orFailStop_error done)]
    exact h.trans _ _ _ moved (h.failStop f behind)

theorem launch (h : Careful R) (tag : Option String) : Moves R (Measurement.launch tag) := by
  refine Moves.bind h.trans (Moves.modify fun m => h.clears m _) fun _ => ?_
  exact Moves.bind h.trans h.startDevices fun _ => h.setState .running

theorem start (h : Careful R) (guard : AssetGuard) (tag : Option String) :
    Moves R (Measurement.start guard tag) := by
  refine Moves.get_bind fun m => ?_
  refine Moves.bind h.trans (Moves.lift h.refl _) (fun _ => ?_) m
  refine Moves.get_bind fun m => ?_
  refine Moves.bind h.trans (Moves.lift h.refl _) (fun _ => ?_) m
  refine Moves.get_bind fun m => ?_
  by_cases invokes : m.settings.invoke = true
  · rw [if_pos invokes]
    exact Moves.bind h.trans h.invokeReadout (fun _ => h.launch tag) m
  · rw [if_neg invokes]
    exact h.launch tag m

theorem wrapUp (h : Careful R) (tag : Option String) : Moves R (Measurement.wrapUp tag) := by
  refine Moves.bind h.trans (Moves.outcome h.stopCounter) fun _ => ?_
  refine Moves.bind h.trans (Moves.outcome (h.switchMicrowave false)) fun _ => ?_
  refine Moves.bind h.trans (h.changing (fun m => ?_) fun m => ?_) fun _ => ?_
  · cases tag <;> exact ⟨rfl, rfl, rfl, rfl⟩
  · cases tag <;> exact ⟨rfl, rfl, rfl, rfl, rfl, rfl⟩
  · refine Moves.bind h.trans (h.setState .idle) fun _ => ?_
    exact Moves.bind h.trans (Moves.lift h.refl _) fun _ => Moves.lift h.refl _

theorem stop (h : Careful R) (tag : Option String) : Moves R (Measurement.stop tag) := by
  intro m
  have announced : R m m.stopping := h.setState .stopping m
  by_cases idle : m.state = .idle
  · rw [after_of_ok (stop_of_idle idle tag)]
    exact h.refl m
  · by_cases running : m.state = .running
    · rw [after, Action.run, stop_of_running running tag]
      exact h.trans _ _ _ announced (h.trans _ _ _ (h.pull _) (h.wrapUp tag _))
    · rw [after, Action.run, stop_of_interrupted idle running tag]
      exact h.trans _ _ _ announced (h.wrapUp tag _)

theorem pause (h : Careful R) : Moves R Measurement.pause := by
  refine Moves.get_bind fun m => ?_
  by_cases running : m.state = .running
  · simp only [running, if_true]
    refine Moves.bind h.trans (h.orFailStop ?_) (fun _ => h.setState .paused) m
    exact Moves.bind h.trans h.pauseCounter fun _ => h.switchMicrowave false
  · simp only [running, if_false]
    exact h.refl m

theorem resume (h : Careful R) (guard : AssetGuard) : Moves R (Measurement.resume guard) := by
  refine Moves.get_bind fun m => ?_
  by_cases paused : m.state = .paused
  · simp only [paused, if_true]
    refine Moves.get_bind (fun m => ?_) m
    refine Moves.bind h.trans (Moves.lift h.refl _) (fun _ => ?_) m
    refine Moves.bind h.trans (h.orFailStop ?_) fun _ => h.setState .running
    exact Moves.bind h.trans (h.switchMicrowave true) fun _ => h.resumeCounter
  · simp only [paused, if_false]
    exact h.refl m

theorem tick (h : Careful R) : Moves R Measurement.tick := by
  intro m
  have moved := h.pull m
  by_cases running : m.state = .running
  · rcases tick_of_running running with ⟨next, pulled, ticked⟩ | ⟨f, behind, pulled, ticked⟩
    · rw [after_of_ok pulled] at moved
      rw [after_of_ok ticked]
      exact moved
    · rw [after_of_error pulled] at moved
      rw [after_of_error ticked]
      split
      · exact h.trans _ _ _ moved (h.failStop f behind)
      · exact h.trans _ _ _ moved (h.mild.announce _ behind)
  · rw [after_of_ok (tick_of_interrupted running)]
    exact h.refl m

theorem refresh (h : Careful R) : Moves R Measurement.refresh := by
  intro m
  have moved := h.pull m
  rcases refresh_cases m with ⟨next, pulled, refreshed⟩ | ⟨f, behind, pulled, refreshed⟩
  · rw [after_of_ok pulled] at moved
    rw [after_of_ok refreshed]
    exact moved
  · rw [after_of_error pulled] at moved
    rw [after_of_error refreshed]
    split
    · exact h.trans _ _ _ moved (h.failStop f behind)
    · exact moved

/-- With the operations that change settings, view or asset, all operations keep a careful
relation. -/
theorem operation (h : Careful R) (settings : ∀ s, Moves R (Measurement.setSettings s))
    (counterSettings : ∀ s, Moves R (Measurement.setCounterSettings s))
    (views : ∀ kind, Moves R (Measurement.setView kind))
    (names : ∀ (m : Measurement α κ μ) asset, R m { m with asset }) (op : Operation α) :
    Moves R op.run := by
  have answered {β : Type} {act : Act α κ μ β} (moves : Moves R act) :
      Moves R (do let _ ← act : Act α κ μ Unit) :=
    Moves.bind h.trans moves fun _ => h.refl
  cases op with
  | setSettings s => exact answered (settings s)
  | setCounterSettings s => exact answered (counterSettings s)
  | setMicrowaveSettings s => exact answered (h.setMicrowaveSettings s)
  | setExtraction params => exact answered (h.mild.setExtraction params)
  | setEvaluation params => exact answered (h.mild.setEvaluation params)
  | setInterval seconds => exact answered (h.mild.setInterval seconds)
  | setView kind => exact answered (views kind)
  | setAsset asset => exact h.mild.setAsset fun m => names m asset
  | announceTo outbox =>
    exact h.changing (fun _ => ⟨rfl, rfl, rfl, rfl⟩) fun _ => ⟨rfl, rfl, rfl, rfl, rfl, rfl⟩
  | start guard tag => exact h.start guard tag
  | stop tag => exact h.stop tag
  | pause => exact h.pause
  | resume guard => exact h.resume guard
  | tick => exact answered h.tick
  | refresh => exact h.refresh

end Careful

/-- What every operation keeps is kept by every run. -/
theorem afterAll_of_operation [Analytic α] [Counter α κ] [Microwave α μ]
    {R : Measurement α κ μ → Measurement α κ μ → Prop} (refl : ∀ m, R m m)
    (trans : ∀ a b c, R a b → R b c → R a c) (each : ∀ op : Operation α, Moves R op.run)
    (ops : List (Operation α)) (m : Measurement α κ μ) : R m (afterAll ops m) := by
  induction ops generalizing m with
  | nil => exact refl m
  | cons op rest ih => exact trans _ _ _ (each op m) (ih (op.after m))

/-! ## 7. All steps -/

/-- Every step of any operation keeps a relation, but for naming an asset. -/
structure Steady [Scalar α] [Counter α κ] (R : Measurement α κ μ → Measurement α κ μ → Prop) :
    Prop where
  refl : ∀ m, R m m
  trans : ∀ a b c, R a b → R b c → R a c
  configure : ∀ requested, Moves R (onCounter (Counter.configure requested))
  read : Moves R (onCounter Counter.read)
  startCounter : Moves R (onCounter Counter.start)
  stopCounter : Moves R (onCounter Counter.stop)
  pauseCounter : Moves R (onCounter Counter.pause)
  resumeCounter : Moves R (onCounter Counter.resume)
  extraction : ∀ params, Moves R (onExtraction (Selection.setParameters params))
  evaluation : ∀ params, Moves R (onEvaluation (Selection.setParameters params))
  change : ∀ a b, SameMethods a b → R a b

namespace Steady

variable [Analytic α] [Counter α κ] {R : Measurement α κ μ → Measurement α κ μ → Prop}

theorem gentle (h : Steady R) : Gentle R where
  refl := h.refl
  trans := h.trans
  configure := h.configure
  read := h.read
  extraction := h.extraction
  evaluation := h.evaluation
  change a b same := h.change a b same.methods

theorem careful (h : Steady R) : Careful R where
  refl := h.refl
  trans := h.trans
  startCounter := h.startCounter
  stopCounter := h.stopCounter
  pauseCounter := h.pauseCounter
  resumeCounter := h.resumeCounter
  extraction := h.extraction
  evaluation := h.evaluation
  change a b same _ := h.change a b same
  pull := h.gentle.pull
  invokeReadout := h.gentle.invokeReadout
  clears m _ := h.change m _ ⟨rfl, rfl, rfl, rfl⟩

end Steady

/-- Every step of any operation keeps a relation. -/
structure Sturdy [Scalar α] [Counter α κ] (R : Measurement α κ μ → Measurement α κ μ → Prop) :
    Prop extends Steady R where
  names : ∀ (m : Measurement α κ μ) (asset : Option (AssetInfo α)), R m { m with asset }

namespace Sturdy

variable [Analytic α] [Counter α κ] [Microwave α μ]
  {R : Measurement α κ μ → Measurement α κ μ → Prop}

/-- What every step keeps is kept by every operation. -/
theorem operation (h : Sturdy R) (op : Operation α) : Moves R op.run :=
  h.careful.operation h.gentle.setSettings h.gentle.setCounterSettings h.gentle.setView h.names
    op

/-- And by every run. -/
theorem afterAll (h : Sturdy R) (ops : List (Operation α)) (m : Measurement α κ μ) :
    R m (Measurement.afterAll ops m) :=
  afterAll_of_operation h.refl h.trans h.operation ops m

end Sturdy

/-! ## 8. New measurements -/

/-- What a new measurement is: its counter was configured, and all else is as given or from the
start. -/
structure New [Analytic α] [Counter α κ] (options : MeasurementOptions) (counter : κ)
    (microwave : Option μ) (m : Measurement α κ μ) : Prop where
  configured : ∃ requested used,
    (Counter.configure requested : Action α κ (CounterSettings α)) counter = .ok used m.counter
  microwave : m.microwave = microwave
  microwaveSettings : m.microwaveSettings = .default
  extraction : m.extraction.registry = ExtractionMethod.registry options.extractionRoots
  evaluation : m.evaluation.registry = EvaluationMethod.registry options.evaluationRoots
  state : m.state = .idle
  asset : m.asset = none
  view : m.data.view = none

theorem ofRegistry_registry {ρ : Type} {registry : Registry α ρ} {name : String}
    {s : Selection α ρ} (made : Selection.ofRegistry registry name = .ok s) :
    s.registry = registry := by
  unfold Selection.ofRegistry at made
  split at made
  · cases made
    rfl
  · split at made
    · cases made
      rfl
    · cases made

theorem ofDevices_new [Analytic α] [Counter α κ] {options : MeasurementOptions} {counter : κ}
    {microwave : Option μ} {m : Measurement α κ μ}
    (started : ofDevices options counter microwave = .ok m) : New options counter microwave m := by
  unfold ofDevices at started
  dsimp only at started
  split at started
  · rename_i used configured done
    rw [ok_bind] at started
    obtain ⟨extraction, extracting, started⟩ := bind_eq_ok.mp started
    obtain ⟨evaluation, evaluating, made⟩ := bind_eq_ok.mp started
    cases made
    exact ⟨⟨_, used, done⟩, rfl, rfl, ofRegistry_registry extracting,
      ofRegistry_registry evaluating, rfl, rfl, rfl⟩
  · cases started

/-- A new measurement keeps what the counter answered. -/
theorem ofDevices_configured [Analytic α] [Counter α κ] {options : MeasurementOptions} {counter : κ}
    {microwave : Option μ} {m : Measurement α κ μ}
    (started : ofDevices options counter microwave = .ok m) :
    ∃ requested, (Counter.configure requested : Action α κ (CounterSettings α)) counter =
      .ok m.counterSettings m.counter := by
  unfold ofDevices at started
  dsimp only at started
  split at started
  · rename_i used configured done
    rw [ok_bind] at started
    obtain ⟨extraction, -, started⟩ := bind_eq_ok.mp started
    obtain ⟨evaluation, -, made⟩ := bind_eq_ok.mp started
    cases made
    exact ⟨_, done⟩
  · cases started

end PulseBench.Measurement
