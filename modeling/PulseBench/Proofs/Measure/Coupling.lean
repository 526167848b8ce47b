import PulseBench.Proofs.Exact
import PulseBench.Proofs.Measure.Doing

/-!
# Measurement and devices move together

Between two operations the devices do what the measurement remembers
(`Coupled`). An operation may fail between its calls of the two devices; then it
halts both, or it leaves them as they were.

Results:
1. `start_steps`, `stop_steps`, `pause_steps`, `resume_steps`, `tick_steps`,
   `refresh_steps`: the operations that drive devices, and where they lead.
2. `Operation.steps`: all operations.
3. `state_follows_devices`: a run of operations.
-/

namespace PulseBench.Measurement

variable {α κ μ : Type} [Counter α κ] [Microwave α μ]

open Action (Moves after after_of_ok after_of_error)

variable {counts : CounterView α κ} {source : SourceView α μ} {r : RunState} {on : Bool}
  {m : Measurement α κ μ}

/-! ## 1. Operations that drive devices -/

/-- The changes of state that an operation can bring about. -/
def Operation.Leads : Operation α → RunState → RunState → Prop
  | .start .., before, after => before = .idle ∧ after = .running
  | .stop _, _, after => after = .idle
  | .pause, before, after => before = .running ∧ (after = .paused ∨ after = .idle)
  | .resume _, before, after => before = .paused ∧ (after = .running ∨ after = .idle)
  | .tick, before, after => before = .running ∧ after = .idle
  | .refresh, _, after => after = .idle
  | _, _, _ => False

/-- The devices do what the measurement remembers, and if it remembers another state than before
then the operation leads there. -/
structure Steps (counts : CounterView α κ) (source : SourceView α μ) (op : Operation α)
    (before after : Measurement α κ μ) : Prop where
  coupled : Coupled counts source after
  state : after.state = before.state ∨ op.Leads before.state after.state

theorem Steps.unchanged (h : Coupled counts source m) (op : Operation α) :
    Steps counts source op m m :=
  ⟨h, Or.inl rfl⟩

theorem Steps.of_calm {next : Measurement α κ μ} (h : Coupled counts source m)
    (calm : Calm counts source m next) (op : Operation α) : Steps counts source op m next :=
  ⟨calm.coupled h, Or.inl calm.1⟩

/-- A run begins with the devices. If they do not start, the measurement stays idle. -/
theorem launch_steps [Scalar α] (h : Coupled counts source m) (idle : m.state = .idle)
    {middle : Measurement α κ μ} (calm : Calm counts source m middle) (guard : AssetGuard)
    (tag : Option String) :
    Steps counts source (.start guard tag) m ((launch tag).after middle) := by
  have off : Doing counts source .idle false middle := by
    rw [Coupled, idle] at h
    exact calm.2 _ _ h
  have state : middle.state = .idle := calm.1.trans idle
  unfold launch
  rw [after, Action.run, Action.bind_of_ok (Action.modify_apply _ middle)]
  have cleared : Doing counts source .idle false
      { middle.clearData with recalled := tag.bind middle.stash.get? } := off.congr rfl rfl rfl
  rcases cleared.startDevices with ⟨next, started, -, doing⟩ | ⟨f, next, failed, same, doing⟩
  · rw [Action.bind_of_ok started]
    exact ⟨doing.congr rfl rfl rfl, Or.inr ⟨idle, rfl⟩⟩
  · rw [Action.bind_of_error failed]
    have stays : next.state = m.state := (same.trans state).trans idle.symm
    exact ⟨Doing.coupled_of_idle (stays.trans idle) doing, Or.inl stays⟩

/-- Behind any last refresh the devices are halted, and that is the end of the run. -/
theorem wrapUp_steps (h : Doing counts source r on m) (tag : Option String)
    (before : Measurement α κ μ) :
    Steps counts source (.stop tag) before ((wrapUp tag).after m) := by
  obtain ⟨stopped, halted, -, doing⟩ := h.stopCounter
  obtain ⟨outcome, off, switched, -, doing⟩ := doing.switchOff
  have stashed : Doing counts source .idle false (off.withStash tag) := by
    cases tag with
    | none => exact doing
    | some tag => exact doing.congr rfl rfl rfl
  have ended : Doing counts source .idle false { off.withStash tag with
      recalled := none
      state := .idle
      outbox := (off.withStash tag).outbox.map (·.post (.state .idle)) } :=
    stashed.congr rfl rfl rfl
  unfold wrapUp
  rw [after, Action.run, Action.bind_of_ok (Action.outcome_of_ok halted),
    Action.bind_of_ok switched]
  cases outcome with
  | ok _ => exact ⟨ended, Or.inr rfl⟩
  | error f => exact ⟨ended, Or.inr rfl⟩

/-- A change of the devices during a run either succeeds, or it ends the run. -/
theorem change_steps {op : Operation α} {act : Act α κ μ Unit} {state : RunState}
    (act_cases : (∃ next, act m = .ok ⟨⟩ next ∧
        Doing counts source state (state == .running) next) ∨
      ∃ f next r on, act m = .error f next ∧ Doing counts source r on next)
    (leads : op.Leads m.state state) (ends : op.Leads m.state .idle) :
    Steps counts source op m ((do
      orFailStop act
      Measurement.setState state : Act α κ μ Unit).after m) := by
  rcases act_cases with ⟨next, done, doing⟩ | ⟨f, behind, r, on, failed, doing⟩
  · rw [after, Action.run, Action.bind_of_ok (orFailStop_ok done)]
    exact ⟨doing.congr rfl rfl rfl, Or.inr leads⟩
  · obtain ⟨idle, coupled⟩ := doing.failStop f
    rw [after_of_error (Action.bind_of_error (orFailStop_error failed))]
    exact ⟨coupled, Or.inr (idle ▸ ends)⟩

theorem pause_steps (h : Coupled counts source m) :
    Steps counts source .pause m (pause.after m) := by
  unfold pause
  rw [after, Action.run, Action.bind_of_ok (Action.get_apply m)]
  by_cases running : m.state = .running
  · rw [if_pos running]
    refine change_steps ?_ ⟨running, Or.inl rfl⟩ ⟨running, Or.inr rfl⟩
    obtain ⟨paused, interrupted, -, doing⟩ := h.pauseCounter (by rw [running]; decide)
    rw [Action.bind_of_ok interrupted]
    rcases doing.switchMicrowave false with ⟨next, done, -, doing⟩ | ⟨f, next, failed, -, doing⟩
    · exact Or.inl ⟨next, done, doing⟩
    · exact Or.inr ⟨f, next, _, true, failed, doing true⟩
  · rw [if_neg running]
    exact .unchanged h _

theorem resume_steps (h : Coupled counts source m) (guard : AssetGuard) :
    Steps counts source (.resume guard) m ((resume guard).after m) := by
  unfold resume
  rw [after, Action.run, Action.bind_of_ok (Action.get_apply m)]
  by_cases paused : m.state = .paused
  · rw [if_pos paused]
    dsimp only
    rw [Action.bind_of_ok (Action.get_apply m)]
    cases ready : m.ensureAssetReady guard with
    | error f =>
      rw [Action.bind_of_error (Action.lift_error f m)]
      exact .unchanged h _
    | ok _ =>
      rw [Action.bind_of_ok (Action.lift_ok _ m)]
      refine change_steps ?_ ⟨paused, Or.inl rfl⟩ ⟨paused, Or.inr rfl⟩
      rcases h.switchMicrowave true with
        ⟨middle, switched, -, doing⟩ | ⟨f, next, failed, -, doing⟩
      · obtain ⟨next, resumed, -, doing⟩ := doing.resumeCounter (by rw [paused]; decide)
        exact Or.inl ⟨next, (Action.bind_of_ok switched).trans resumed, doing⟩
      · exact Or.inr ⟨f, next, _, true, Action.bind_of_error failed, doing true⟩
  · rw [if_neg paused]
    exact .unchanged h _

variable [Analytic α]

theorem start_steps (h : Coupled counts source m) (guard : AssetGuard) (tag : Option String) :
    Steps counts source (.start guard tag) m ((start guard tag).after m) := by
  unfold start
  rw [after, Action.run, Action.bind_of_ok (Action.get_apply m)]
  rcases ensureIdle_cases "the run state" m with ⟨idle, passed⟩ | ⟨-, f, refused⟩
  · rw [passed, Action.bind_of_ok (Action.lift_ok _ m), Action.bind_of_ok (Action.get_apply m)]
    cases ready : m.ensureAssetReady guard with
    | error f =>
      rw [Action.bind_of_error (Action.lift_error f m)]
      exact .unchanged h _
    | ok _ =>
      rw [Action.bind_of_ok (Action.lift_ok _ m), Action.bind_of_ok (Action.get_apply m)]
      -- Settings taken over from the asset leave the devices alone, also if that fails.
      have launched {middle : Measurement α κ μ} (calm : Calm counts source m middle) :=
        launch_steps h idle calm guard tag
      by_cases invokes : m.settings.invoke = true
      · rw [if_pos invokes]
        have calm := (calm_gentle counts source).invokeReadout m
        cases done : (invokeReadout : Act α κ μ Unit) m with
        | error f middle =>
          rw [after_of_error done] at calm
          rw [Action.bind_of_error done]
          exact .of_calm h calm _
        | ok _ middle =>
          rw [after_of_ok done] at calm
          rw [Action.bind_of_ok done]
          exact launched calm
      · rw [if_neg invokes]
        exact launched ((calm_gentle counts source).refl m)
  · rw [refused, Action.bind_of_error (Action.lift_error f m)]
    exact .unchanged h _

theorem stop_steps (h : Coupled counts source m) (tag : Option String) :
    Steps counts source (.stop tag) m ((stop tag).after m) := by
  have doing : Doing counts source m.state (m.state == .running) m.stopping := h.congr rfl rfl rfl
  by_cases idle : m.state = .idle
  · rw [after_of_ok (stop_of_idle idle tag)]
    exact .unchanged h _
  · by_cases running : m.state = .running
    · rw [after, Action.run, stop_of_running running tag]
      have calm := (calm_gentle counts source).pull m.stopping
      exact wrapUp_steps (calm.2 _ _ doing) tag m
    · rw [after, Action.run, stop_of_interrupted idle running tag]
      exact wrapUp_steps doing tag m

theorem tick_steps (h : Coupled counts source m) :
    Steps counts source .tick m (tick.after m) := by
  have gentle := calm_gentle (κ := κ) (μ := μ) counts source
  have calm := gentle.pull m
  by_cases running : m.state = .running
  · rcases tick_of_running running with ⟨next, pulled, ticked⟩ | ⟨f, behind, pulled, ticked⟩
    · rw [after_of_ok pulled] at calm
      rw [after_of_ok ticked]
      exact .of_calm h calm _
    · rw [after_of_error pulled] at calm
      rw [after_of_error ticked]
      split
      · obtain ⟨idle, coupled⟩ := (calm.2 _ _ h).failStop f
        exact ⟨coupled, Or.inr ⟨running, idle⟩⟩
      · exact .of_calm h (gentle.trans _ _ _ calm (gentle.announce (.failed f) behind)) _
  · rw [after_of_ok (tick_of_interrupted running)]
    exact .unchanged h _

theorem refresh_steps (h : Coupled counts source m) :
    Steps counts source .refresh m (refresh.after m) := by
  have calm := (calm_gentle counts source).pull m
  rcases refresh_cases m with ⟨next, pulled, refreshed⟩ | ⟨f, behind, pulled, refreshed⟩
  · rw [after_of_ok pulled] at calm
    rw [after_of_ok refreshed]
    exact .of_calm h calm _
  · rw [after_of_error pulled] at calm
    rw [after_of_error refreshed]
    split
    · obtain ⟨idle, coupled⟩ := (calm.2 _ _ h).failStop f
      exact ⟨coupled, Or.inr idle⟩
    · exact .of_calm h calm _

/-! ## 2. All operations -/

/-- Between two operations the devices do what the measurement remembers. -/
theorem Operation.steps (h : Coupled counts source m) (op : Operation α) :
    Steps counts source op m (op.after m) := by
  have gentle := calm_gentle (κ := κ) (μ := μ) counts source
  have answered {β : Type} {act : Act α κ μ β} (steps : Steps counts source op m (act.after m)) :
      Steps counts source op m ((do let _ ← act : Act α κ μ Unit).after m) := by
    rw [Action.after_discard]
    exact steps
  cases op with
  | setSettings settings => exact answered (.of_calm h (gentle.setSettings settings m) _)
  | setCounterSettings settings =>
    exact answered (.of_calm h (gentle.setCounterSettings settings m) _)
  | setMicrowaveSettings settings =>
    obtain ⟨same, coupled⟩ := setMicrowaveSettings_coupled h settings
    exact answered ⟨coupled, Or.inl same⟩
  | setExtraction params => exact answered (.of_calm h (gentle.mild.setExtraction params m) _)
  | setEvaluation params => exact answered (.of_calm h (gentle.mild.setEvaluation params m) _)
  | setInterval seconds => exact answered (.of_calm h (gentle.mild.setInterval seconds m) _)
  | setView kind => exact answered (.of_calm h (gentle.setView kind m) _)
  | setAsset asset =>
    refine .of_calm h (gentle.mild.setAsset (fun m => ?_) m) _
    exact ⟨rfl, fun r on h => h.congr rfl rfl rfl⟩
  | announceTo outbox =>
    refine .of_calm h (gentle.change m _ ?_) _
    exact ⟨rfl, rfl, rfl, rfl, rfl, rfl, rfl⟩
  | start guard tag => exact start_steps h guard tag
  | stop tag => exact stop_steps h tag
  | pause => exact pause_steps h
  | resume guard => exact resume_steps h guard
  | tick => exact answered (tick_steps h)
  | refresh => exact refresh_steps h

omit [Counter α κ] [Microwave α μ] [Analytic α] in
/-- Where an operation leads tells which one it is. -/
theorem Operation.states_of_leads (op : Operation α) {before after : RunState}
    (h : after = before ∨ op.Leads before after) :
    (before = .idle → after ≠ .idle → ∃ guard tag, op = .start guard tag) ∧
    (before ≠ .paused → after = .paused → op = .pause) ∧
    (before ≠ .running → after = .running →
      (∃ guard tag, op = .start guard tag) ∨ ∃ guard, op = .resume guard) := by
  rcases h with rfl | leads
  · exact ⟨fun idle other => absurd idle other, fun other paused => absurd paused other,
      fun other running => absurd running other⟩
  · cases op with
    | start guard tag =>
      obtain ⟨-, rfl⟩ := leads
      simp
    | stop tag =>
      obtain rfl : after = .idle := leads
      simp
    | pause =>
      obtain ⟨rfl, rfl | rfl⟩ := leads
      · simp
      · simp
    | resume guard =>
      obtain ⟨rfl, rfl | rfl⟩ := leads
      · simp
      · simp
    | tick =>
      obtain ⟨-, rfl⟩ := leads
      simp
    | refresh =>
      obtain rfl : after = .idle := leads
      simp
    | _ => exact leads.elim

/-! ## 3. Runs -/

/-- A new measurement is idle, and so are its devices. -/
theorem ofDevices_coupled {options : MeasurementOptions} {counter : κ} {microwave : Option μ}
    (sound : counts.sound counter) (idle : counts.running counter = false)
    (off : ∀ s, microwave = some s → Microwave.isOn s = false)
    (started : ofDevices options counter microwave = .ok m) : Coupled counts source m := by
  have new := ofDevices_new started
  obtain ⟨requested, used, done⟩ := new.configured
  obtain ⟨sound', running, -⟩ := counts.configure counter sound requested
  rw [after_of_ok done] at sound' running
  refine Doing.coupled_of_idle new.state ⟨sound', ?_, fun external => ?_, fun s known _ => ?_⟩
  · rw [CounterView.state, running, idle]
    rfl
  · rw [new.microwaveSettings] at external
    cases external
  · rw [new.microwave] at known
    rw [off s known]
    rfl

/-- The devices do what the measurement remembers throughout a run. -/
theorem afterAll_coupled (h : Coupled counts source m) (ops : List (Operation α)) :
    Coupled counts source (afterAll ops m) := by
  induction ops generalizing m with
  | nil => exact h
  | cons op rest ih => exact ih (op.steps h).coupled

/-- In every run of a measurement that is made with idle devices, it is idle exactly while the
counter does not run, running exactly while the counter runs, and paused exactly while the counter
is paused; it is never left stopping. As long as no call of the microwave source failed, the source
is on exactly while the measurement is running and uses it. Only a start leaves the idle state, only
a pause leads to the paused one, and only a start or a resumption to the running one. -/
theorem state_follows_devices (counts : CounterView α κ) (source : SourceView α μ)
    {options : MeasurementOptions} {counter : κ} {microwave : Option μ}
    (sound : counts.sound counter) (idle : counts.running counter = false)
    (off : ∀ s, microwave = some s → Microwave.isOn s = false)
    (started : ofDevices options counter microwave = .ok m) (ops : List (Operation α)) :
    let now := afterAll ops m
    now.state ≠ .stopping ∧
    (now.state = .idle ↔ counts.running now.counter = false) ∧
    (now.state = .running ↔
      counts.running now.counter = true ∧ counts.paused now.counter = false) ∧
    (now.state = .paused ↔
      counts.running now.counter = true ∧ counts.paused now.counter = true) ∧
    ((∀ s, now.microwave = some s → source.unfailed s) →
      (now.microwave.any Microwave.isOn = true ↔
        now.state = .running ∧ now.microwaveSettings.external = true)) ∧
    ∀ op : Operation α,
      let next := op.after now
      (now.state = .idle → next.state ≠ .idle → ∃ guard tag, op = .start guard tag) ∧
      (now.state ≠ .paused → next.state = .paused → op = .pause) ∧
      (now.state ≠ .running → next.state = .running →
        (∃ guard tag, op = .start guard tag) ∨ ∃ guard, op = .resume guard) := by
  intro now
  have coupled : Coupled counts source now :=
    afterAll_coupled (ofDevices_coupled sound idle off started) ops
  have state : RunState.ofFlags (counts.running now.counter) (counts.paused now.counter) =
    now.state := coupled.counter
  have flags (running paused : Bool) (s : RunState) (h : RunState.ofFlags running paused = s) :
      s ≠ .stopping ∧ (s = .idle ↔ running = false) ∧
        (s = .running ↔ running = true ∧ paused = false) ∧
        (s = .paused ↔ running = true ∧ paused = true) := by
    subst h
    cases running <;> cases paused <;> simp [RunState.ofFlags]
  obtain ⟨notStopping, isIdle, isRunning, isPaused⟩ := flags _ _ _ state
  refine ⟨notStopping, isIdle, isRunning, isPaused, fun unfailed => ?_, fun op => ?_⟩
  · cases known : now.microwave with
    | none =>
      have absent : now.microwaveSettings.external ≠ true := by
        intro external
        have connected := coupled.connected external
        rw [known] at connected
        cases connected
      simp [absent]
    | some s =>
      have output := coupled.output s known (unfailed s known)
      simp [output]
  · exact op.states_of_leads (op.steps coupled).state

/-! A run with a microwave source, on a counter that can not be read. -/

/-- No read of the counter is answered. -/
def unreadable : FaultyCounter (MemoryCounter ℚ) :=
  .under ⟨fun call _ => call = .read, false⟩ (.fresh false)

/-- No call of the source fails. -/
def steadySource : FaultyMicrowave (MemoryMicrowave ℚ) := .under (fun _ _ => false) .fresh

def benchOptions : MeasurementOptions :=
  ⟨[], [], "ungated_threshold", "mean_norm", ⟨Interval.perSecond⟩⟩

/-- A run begins that uses the source. -/
def benchStart : List (Operation ℚ) :=
  [.setSettings { MeasurementSettings.default with invoke := false },
    .setMicrowaveSettings ⟨true, 1, 0, none⟩, .start .idle none]

/-- While it runs counter and source are on, and the first refresh ends it. -/
theorem state_follows_devices_unreadable :
    let counts := FaultyCounter.view (MemoryCounter.view (α := ℚ))
    counts.sound unreadable ∧ counts.running unreadable = false ∧
    (∀ s, some steadySource = some s → Microwave.isOn s = false) ∧
    ∃ m, ofDevices benchOptions unreadable (some steadySource) = .ok m ∧
      (afterAll benchStart m).state = .running ∧
      counts.running (afterAll benchStart m).counter = true ∧
      (afterAll benchStart m).microwave.any Microwave.isOn = true ∧
      (afterAll (benchStart ++ [.tick]) m).state = .idle ∧
      counts.running (afterAll (benchStart ++ [.tick]) m).counter = false := by
  intro counts
  have sound : counts.sound unreadable := by
    refine ⟨trivial, fun call n fails => Or.inl ?_⟩
    exact of_decide_eq_true fails
  have idle : counts.running unreadable = false := rfl
  have off : ∀ s, some steadySource = some s → Microwave.isOn s = false := by
    rintro s ⟨⟩
    rfl
  refine ⟨sound, idle, off, ?_⟩
  have ran : (match ofDevices benchOptions unreadable (some steadySource) with
    | .ok m =>
      let now := afterAll benchStart m
      now.state == .running && now.microwaveSettings.external &&
        (now.microwave.all fun s => s.failures == 0) &&
        (afterAll (benchStart ++ [.tick]) m).state == .idle
    | .error _ => false) = true := by decide +kernel
  cases started : ofDevices benchOptions unreadable (some steadySource) with
  | error f => rw [started] at ran; cases ran
  | ok m =>
    rw [started] at ran
    simp only [Bool.and_eq_true, beq_iff_eq] at ran
    obtain ⟨⟨⟨running, external⟩, unfailed⟩, stopped⟩ := ran
    obtain ⟨-, -, isRunning, -, output, -⟩ := state_follows_devices counts
      (FaultyMicrowave.view MemoryMicrowave.obedient) sound idle off started benchStart
    obtain ⟨-, isIdle, -⟩ := state_follows_devices counts
      (FaultyMicrowave.view MemoryMicrowave.obedient) sound idle off started
      (benchStart ++ [.tick])
    refine ⟨m, rfl, running, (isRunning.mp running).1, (output fun s known => ?_).mpr
      ⟨running, external⟩, stopped, isIdle.mp stopped⟩
    rw [known] at unfailed
    exact eq_of_beq unfailed

end PulseBench.Measurement
