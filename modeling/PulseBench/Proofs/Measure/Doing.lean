import PulseBench.Proofs.Measure.Operation

/-!
# What the devices of a measurement do

A measurement remembers whether it is idle, running or paused; so do the devices
it drives, each in its own way. `Doing` says what the devices do, whatever the
measurement remembers, and every step of an operation changes it in a known way,
also if the source fails.

Results:
1. `Doing.startCounter` and others, `Doing.switchMicrowave`: single calls.
2. `calm_gentle`: reading and configuring the counter changes nothing here.
3. `setMicrowaveSettings_coupled`: the settings of the source.
4. `Doing.failStop`, `Doing.startDevices`: both devices together.
-/

namespace PulseBench.Measurement

variable {α κ μ : Type} [Counter α κ] [Microwave α μ]

open Action (Moves after after_of_ok after_of_error)

/-- What the devices do. The counter does what belongs to a state `r`. The source is off unless it
takes part in the measurement; if it does it is on or off as `on` says. This is only known of a
source that never failed. -/
structure Doing (counts : CounterView α κ) (source : SourceView α μ) (r : RunState) (on : Bool)
    (m : Measurement α κ μ) : Prop where
  sound : counts.sound m.counter
  counter : counts.state m.counter = r
  connected : m.microwaveSettings.external = true → m.microwave.isSome = true
  output : ∀ s, m.microwave = some s → source.unfailed s →
    Microwave.isOn s = (on && m.microwaveSettings.external)

/-- The devices do what the measurement remembers. -/
def Coupled (counts : CounterView α κ) (source : SourceView α μ) (m : Measurement α κ μ) : Prop :=
  Doing counts source m.state (m.state == .running) m

variable {counts : CounterView α κ} {source : SourceView α μ} {r r' : RunState} {on : Bool}
  {m : Measurement α κ μ}

/-! ## 1. Single steps -/

/-- Only the devices matter, and whether the source takes part. -/
theorem Doing.congr (h : Doing counts source r on m) {next : Measurement α κ μ}
    (counter : next.counter = m.counter) (microwave : next.microwave = m.microwave)
    (settings : next.microwaveSettings = m.microwaveSettings) : Doing counts source r on next where
  sound := by
    rw [counter]
    exact h.sound
  counter := by
    rw [counter]
    exact h.counter
  connected := by
    rw [settings, microwave]
    exact h.connected
  output := by
    rw [settings, microwave]
    exact h.output

/-- The counter alone moves on. -/
theorem Doing.counting (h : Doing counts source r on m) {counter : κ} (sound : counts.sound counter)
    (state : counts.state counter = r') : Doing counts source r' on { m with counter } :=
  ⟨sound, state, h.connected, h.output⟩

/-- The counter starts from any state. -/
theorem Doing.startCounter (h : Doing counts source r on m) :
    ∃ next, (onCounter Counter.start : Act α κ μ Unit) m = .ok ⟨⟩ next ∧ next.state = m.state ∧
      Doing counts source .running on next := by
  obtain ⟨counter, started, sound, running, paused⟩ := counts.start m.counter h.sound
  refine ⟨_, onCounter_ok started, rfl, h.counting sound ?_⟩
  rw [CounterView.state, running, paused]
  rfl

/-- It stops from any state. -/
theorem Doing.stopCounter (h : Doing counts source r on m) :
    ∃ next, (onCounter Counter.stop : Act α κ μ Unit) m = .ok ⟨⟩ next ∧ next.state = m.state ∧
      Doing counts source .idle on next := by
  obtain ⟨counter, stopped, sound, running⟩ := counts.stop m.counter h.sound
  refine ⟨_, onCounter_ok stopped, rfl, h.counting sound ?_⟩
  rw [CounterView.state, running]
  rfl

omit [Microwave α μ] in
theorem running_of_state {c : κ} (active : counts.state c ≠ .idle) : counts.running c = true := by
  cases running : counts.running c with
  | true => rfl
  | false =>
    rw [CounterView.state, running] at active
    exact absurd rfl active

/-- A counter that is not idle is paused. -/
theorem Doing.pauseCounter (h : Doing counts source r on m) (active : r ≠ .idle) :
    ∃ next, (onCounter Counter.pause : Act α κ μ Unit) m = .ok ⟨⟩ next ∧ next.state = m.state ∧
      Doing counts source .paused on next := by
  obtain ⟨counter, called, sound, running, paused⟩ := counts.pause m.counter h.sound
  refine ⟨_, onCounter_ok called, rfl, h.counting sound ?_⟩
  rw [CounterView.state, running, paused, running_of_state (h.counter ▸ active)]
  rfl

/-- A counter that is not idle goes on. -/
theorem Doing.resumeCounter (h : Doing counts source r on m) (active : r ≠ .idle) :
    ∃ next, (onCounter Counter.resume : Act α κ μ Unit) m = .ok ⟨⟩ next ∧ next.state = m.state ∧
      Doing counts source .running on next := by
  obtain ⟨counter, called, sound, running, paused⟩ := counts.resume m.counter h.sound
  refine ⟨_, onCounter_ok called, rfl, h.counting sound ?_⟩
  rw [CounterView.state, running, paused, running_of_state (h.counter ▸ active)]
  rfl

omit [Counter α κ] in
/-- A call of the source either fails, and then it is not unfailed any more, or it leaves the source
as told. -/
theorem onMicrowave_cases {β : Type} {act : Action α μ β} {output : μ → Bool}
    (answers : Answers source.unfailed act output) {s : μ} (known : m.microwave = some s) :
    (∃ b next, onMicrowave act m = .ok (some b) { m with microwave := some next } ∧
      (source.unfailed next → source.unfailed s ∧ Microwave.isOn next = output s)) ∨
    ∃ f next, onMicrowave act m = .error f { m with microwave := some next } ∧
      ¬ source.unfailed next := by
  rcases answers s with ⟨b, next, done, answered⟩ | ⟨f, next, failed, unknown⟩
  · refine Or.inl ⟨b, next, ?_, answered⟩
    simp only [onMicrowave, known, done]
  · refine Or.inr ⟨f, next, ?_, unknown⟩
    simp only [onMicrowave, known, failed]

/-- The source is replaced by another one. -/
theorem Doing.switching (h : Doing counts source r on m) {next : μ} {on' : Bool}
    (output : source.unfailed next →
      Microwave.isOn next = (on' && m.microwaveSettings.external)) :
    Doing counts source r on' { m with microwave := some next } where
  sound := h.sound
  counter := h.counter
  connected _ := rfl
  output s same unfailed := by
    cases same
    exact output unfailed

/-- The source is switched, unless it fails; then nothing has to be known of its output. -/
theorem Doing.switchMicrowave (h : Doing counts source r on m) (on' : Bool) :
    (∃ next, Measurement.switchMicrowave on' m = .ok ⟨⟩ next ∧ next.state = m.state ∧
      Doing counts source r on' next) ∨
    ∃ f next, Measurement.switchMicrowave on' m = .error f next ∧ next.state = m.state ∧
      ∀ any, Doing counts source r any next := by
  unfold Measurement.switchMicrowave
  rw [Action.bind_of_ok (Action.get_apply m)]
  cases external : m.microwaveSettings.external with
  | false =>
    refine Or.inl ⟨m, rfl, rfl, h.sound, h.counter, h.connected, fun s known unfailed => ?_⟩
    rw [h.output s known unfailed, external, Bool.and_false, Bool.and_false]
  | true =>
    obtain ⟨s, known⟩ := Option.isSome_iff_exists.mp (h.connected external)
    have answers : Answers source.unfailed
        (if on' then Microwave.switchOn else Microwave.switchOff : Action α μ Unit)
        fun _ => on' := by
      cases on' with
      | true => exact source.switchOn
      | false => exact source.switchOff
    rcases onMicrowave_cases answers known with
      ⟨b, next, done, answered⟩ | ⟨f, next, failed, unknown⟩
    · refine Or.inl ⟨_, Action.bind_of_ok done, rfl, h.switching fun unfailed => ?_⟩
      rw [(answered unfailed).2, external, Bool.and_true]
    · refine Or.inr ⟨f, _, Action.bind_of_error failed, rfl, fun any => ?_⟩
      exact h.switching fun unfailed => absurd unfailed unknown

/-! ## 2. Gentle operations -/

/-- The state stays, and the devices do what they did. -/
def Calm (counts : CounterView α κ) (source : SourceView α μ)
    (before after : Measurement α κ μ) : Prop :=
  after.state = before.state ∧
    ∀ r on, Doing counts source r on before → Doing counts source r on after

theorem Calm.coupled {next : Measurement α κ μ} (h : Calm counts source m next)
    (coupled : Coupled counts source m) : Coupled counts source next := by
  rw [Coupled, h.1]
  exact h.2 _ _ coupled

/-- Reading or configuring the counter, and all that does not touch the devices, is calm. -/
theorem calm_gentle [Scalar α] (counts : CounterView α κ) (source : SourceView α μ) :
    Gentle (Calm counts source) where
  refl m := ⟨rfl, fun _ _ => id⟩
  trans a b c first second :=
    ⟨second.1.trans first.1, fun r on => second.2 r on ∘ first.2 r on⟩
  configure requested m := by
    rw [onCounter_after]
    refine ⟨rfl, fun r on h => ?_⟩
    obtain ⟨sound, running, paused⟩ := counts.configure m.counter h.sound requested
    exact h.counting sound (by rw [CounterView.state, running, paused]; exact h.counter)
  read m := by
    rw [onCounter_after]
    refine ⟨rfl, fun r on h => ?_⟩
    obtain ⟨sound, running, paused⟩ := counts.read m.counter h.sound
    exact h.counting sound (by rw [CounterView.state, running, paused]; exact h.counter)
  extraction params m := by
    rw [onExtraction_after]
    exact ⟨rfl, fun r on h => h.congr rfl rfl rfl⟩
  evaluation params m := by
    rw [onEvaluation_after]
    exact ⟨rfl, fun r on h => h.congr rfl rfl rfl⟩
  change a b same :=
    ⟨same.state, fun r on h => h.congr same.counter same.microwave same.microwaveSettings⟩

/-! ## 3. Settings of the source -/

/-- Tuning a source leaves its output alone. -/
theorem Doing.tuning (h : Doing counts source r on m) {β : Type} {act : Action α μ β}
    (answers : Answers source.unfailed act Microwave.isOn) (connected : m.microwave.isSome = true) :
    (∃ b next, onMicrowave act m = .ok (some b) next ∧ next.state = m.state ∧
      next.microwave.isSome = true ∧ Doing counts source r on next) ∨
    ∃ f next, onMicrowave act m = .error f next ∧ next.state = m.state ∧
      Doing counts source r on next := by
  obtain ⟨s, known⟩ := Option.isSome_iff_exists.mp connected
  rcases onMicrowave_cases answers known with
    ⟨b, next, done, answered⟩ | ⟨f, next, failed, unknown⟩
  · refine Or.inl ⟨b, _, done, rfl, rfl, h.switching fun unfailed => ?_⟩
    obtain ⟨before, same⟩ := answered unfailed
    rw [same, h.output s known before]
  · exact Or.inr ⟨f, _, failed, rfl, h.switching fun unfailed => absurd unfailed unknown⟩

/-- Carrier and timing only reach a source that is connected. -/
theorem Doing.applyMicrowave (h : Doing counts source r on m) (settings : MicrowaveSettings α) :
    (∃ used next, Measurement.applyMicrowave settings m = .ok used next ∧ next.state = m.state ∧
      next.microwave.isSome = true ∧ Doing counts source r on next) ∨
    ∃ f next, Measurement.applyMicrowave settings m = .error f next ∧ next.state = m.state ∧
      Doing counts source r on next := by
  unfold Measurement.applyMicrowave
  cases known : m.microwave with
  | none =>
    have absent : onMicrowave (Microwave.setCarrier settings.frequency settings.power) m =
        .ok none m := by
      simp only [onMicrowave, known]
    rw [Action.bind_of_ok absent]
    exact Or.inr ⟨.measure .noMicrowave, m, rfl, rfl, h⟩
  | some s =>
    have connected : m.microwave.isSome = true := by rw [known]; rfl
    rcases h.tuning (source.setCarrier settings.frequency settings.power) connected with
      ⟨⟨frequency, power⟩, middle, done, same, connected', doing⟩ | ⟨f, next, failed, same, doing⟩
    · rw [Action.bind_of_ok done]
      cases settings.timing with
      | none => exact Or.inl ⟨_, middle, rfl, same, connected', doing⟩
      | some requested =>
        dsimp only
        rcases doing.tuning (source.setTiming requested) connected' with
          ⟨timing, next, done', same', connected'', doing'⟩ | ⟨f, next, failed, same', doing'⟩
        · rw [Action.bind_of_ok done']
          exact Or.inl ⟨_, next, rfl, same'.trans same, connected'', doing'⟩
        · exact Or.inr ⟨f, next, Action.bind_of_error failed, same'.trans same, doing'⟩
    · exact Or.inr ⟨f, next, Action.bind_of_error failed, same, doing⟩

omit [Counter α κ] [Microwave α μ] in
theorem ensureIdle_of_idle (what : String) (idle : m.state = .idle) :
    ensureIdle what m = .ok ⟨⟩ := by
  unfold ensureIdle RunState.isActive
  rw [idle]
  rfl

omit [Counter α κ] [Microwave α μ] in
theorem ensureIdle_cases (what : String) (m : Measurement α κ μ) :
    (m.state = .idle ∧ ensureIdle what m = .ok ()) ∨
      m.state ≠ .idle ∧ ∃ f, ensureIdle what m = .error f := by
  unfold ensureIdle RunState.isActive
  by_cases idle : m.state = .idle
  · rw [idle]
    exact Or.inl ⟨rfl, rfl⟩
  · refine Or.inr ⟨idle, .measure (.notIdle what m.state), if_pos ?_⟩
    simpa using idle

/-- Nothing runs and the source is off: that is idle. -/
theorem Doing.coupled_of_idle (idle : m.state = .idle) (h : Doing counts source .idle false m) :
    Coupled counts source m := by
  rw [Coupled, idle]
  exact h

/-- The settings of the source only change while the measurement is idle, and the source is off
then. -/
theorem setMicrowaveSettings_coupled (h : Coupled counts source m)
    (settings : MicrowaveSettings α) :
    ((setMicrowaveSettings settings).after m).state = m.state ∧
      Coupled counts source ((setMicrowaveSettings settings).after m) := by
  rcases ensureIdle_cases "microwave settings" m with ⟨idle, passed⟩ | ⟨-, f, refused⟩
  · have off : Doing counts source .idle false m := by
      rw [Coupled, idle] at h
      exact h
    unfold setMicrowaveSettings
    rw [after, Action.run, Action.bind_of_ok (Action.get_apply m), passed,
      Action.bind_of_ok (Action.lift_ok _ m)]
    cases external : settings.external with
    | false =>
      rw [if_neg (by simp)]
      refine ⟨rfl, Doing.coupled_of_idle idle
        ⟨off.sound, off.counter, ?_, fun s known unfailed => ?_⟩⟩
      · exact fun takesPart => absurd (external.symm.trans takesPart) (by simp)
      · exact (off.output s known unfailed).trans (by simp)
    | true =>
      rw [if_pos rfl]
      rcases off.applyMicrowave settings with
        ⟨used, next, done, same, connected, doing⟩ | ⟨f, next, failed, same, doing⟩
      · rw [Action.bind_of_ok done]
        refine ⟨same, Doing.coupled_of_idle (same.trans idle)
          ⟨doing.sound, doing.counter, fun _ => connected, fun s known unfailed => ?_⟩⟩
        exact (doing.output s known unfailed).trans (by simp)
      · rw [Action.bind_of_error failed]
        exact ⟨same, Doing.coupled_of_idle (same.trans idle) doing⟩
  · have failed : setMicrowaveSettings settings m = .error f m := by
      unfold setMicrowaveSettings
      rw [Action.bind_of_ok (Action.get_apply m), refused]
      exact Action.bind_of_error (Action.lift_error f m)
    rw [after_of_error failed]
    exact ⟨rfl, h⟩

/-! ## 4. Starting and stopping -/

/-- Whatever the devices do, halting them leaves the counter stopped and the source off. -/
theorem Doing.switchOff (h : Doing counts source r on m) :
    ∃ outcome next, Action.outcome (Measurement.switchMicrowave false) m = .ok outcome next ∧
      next.state = m.state ∧ Doing counts source r false next := by
  rcases h.switchMicrowave false with ⟨next, done, same, doing⟩ | ⟨f, next, failed, same, doing⟩
  · exact ⟨_, next, Action.outcome_of_ok done, same, doing⟩
  · exact ⟨_, next, Action.outcome_of_error failed, same, doing false⟩

/-- A failure ends the run. -/
theorem Doing.failStop (h : Doing counts source r on m) (cause : Failure α) :
    ((failStop cause).after m).state = .idle ∧
      Coupled counts source ((failStop cause).after m) := by
  obtain ⟨stopped, halted, -, doing⟩ := h.stopCounter
  obtain ⟨outcome, off, switched, -, doing⟩ := doing.switchOff
  unfold Measurement.failStop
  rw [after, Action.run, Action.bind_of_ok (Action.outcome_of_ok halted),
    Action.bind_of_ok switched]
  exact ⟨rfl, Doing.coupled_of_idle rfl (doing.congr rfl rfl rfl)⟩

/-- The devices are started together, or not at all. -/
theorem Doing.startDevices (h : Doing counts source .idle false m) :
    (∃ next, Measurement.startDevices m = .ok ⟨⟩ next ∧ next.state = m.state ∧
      Doing counts source .running true next) ∨
    ∃ f next, Measurement.startDevices m = .error f next ∧ next.state = m.state ∧
      Doing counts source .idle false next := by
  unfold Measurement.startDevices
  rcases h.switchMicrowave true with
    ⟨middle, switched, same, doing⟩ | ⟨f, next, failed, same, doing⟩
  · obtain ⟨next, started, same', doing'⟩ := doing.startCounter
    rw [Action.bind_of_ok switched, Action.bind_of_ok (Action.outcome_of_ok started)]
    exact Or.inl ⟨next, rfl, same'.trans same, doing'⟩
  · rw [Action.bind_of_error failed]
    exact Or.inr ⟨f, next, rfl, same, doing false⟩

end PulseBench.Measurement
