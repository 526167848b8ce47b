import PulseBench.Proofs.Counting.Configuring
import PulseBench.Proofs.Measure.Lasting
import PulseBench.Proofs.Measure.Refused
import PulseBench.Proofs.Measure.Starting

/-!
# Settings during a run

A measurement remembers the settings that its counter goes by (`Mirrored`). They
change together, and only while the measurement is idle: during a run nothing that
the counts depend on is changed, and the counter is not even asked for it (`Frozen`).

Five operations can change settings: three requests for them, an asset that is
loaded, and a start, which takes over the settings of the asset (`Operation.Adjusts`).
During a run the requests and the start are refused, and the asset is only noted.

Results:
1. `Frozen.pull`, `Frozen.lasting`, `Frozen.stop`: what a run consists of.
2. `frozen_of_not_adjusts`, `frozen_of_active`: the operations that can not change
   settings, and all operations during a run.
3. `mirrored_adjusting`, `mirrored_operation`: the counter is asked first, and what it
   answers is remembered.
4. `settings_frozen_in_run`: whatever is done with a new measurement.
-/

namespace PulseBench.Measurement

variable {α κ μ : Type}

open Action (Moves after after_of_ok after_of_error)

/-! ## 1. What a run consists of -/

/-- No settings differ, neither those that are remembered nor those of the counter, and the counter
was not asked for others. -/
structure Frozen [Counter α κ] (view : SettingsView α κ) (before after : Measurement α κ μ) :
    Prop where
  settings : after.settings = before.settings
  counterSettings : after.counterSettings = before.counterSettings
  microwaveSettings : after.microwaveSettings = before.microwaveSettings
  counter : Unasked view.settings view.requests before.counter after.counter

namespace Frozen

variable [Counter α κ] {view : SettingsView α κ}

theorem refl (m : Measurement α κ μ) : Frozen view m m := ⟨rfl, rfl, rfl, rfl, rfl⟩

theorem trans (a b c : Measurement α κ μ) (first : Frozen view a b) (second : Frozen view b c) :
    Frozen view a c where
  settings := second.settings.trans first.settings
  counterSettings := second.counterSettings.trans first.counterSettings
  microwaveSettings := second.microwaveSettings.trans first.microwaveSettings
  counter := first.counter.trans _ _ _ second.counter

theorem onCounter {β : Type} {act : Action α κ β}
    (unasked : Moves (Unasked view.settings view.requests) act) :
    Moves (Frozen view) (Measurement.onCounter act : Act α κ μ β) := by
  intro m
  rw [onCounter_after]
  exact ⟨rfl, rfl, rfl, unasked m.counter⟩

theorem pull [Analytic α] : Moves (Frozen view) (Measurement.pull : Act α κ μ Unit) := by
  refine Moves.bind trans (onCounter view.read) fun reading => ?_
  refine Moves.bind trans (Moves.modify fun m => ?_) fun _ => Moves.get_bind fun m => ?_
  · obtain ⟨counts, sweeps, recalled, same⟩ := withReading_eq reading m
    rw [same]
    exact ⟨rfl, rfl, rfl, rfl, rfl⟩
  · refine Moves.bind trans (Moves.lift refl _) (fun data => ?_) m
    exact Moves.bind trans (Moves.modify fun _ => ⟨rfl, rfl, rfl, rfl, rfl⟩) fun _ =>
      Moves.modify fun _ => ⟨rfl, rfl, rfl, rfl, rfl⟩

variable [Microwave α μ]

theorem switchMicrowave (on : Bool) :
    Moves (Frozen view) (Measurement.switchMicrowave on : Act α κ μ Unit) := by
  intro m
  obtain ⟨microwave, same⟩ := switchMicrowave_after on m
  rw [same]
  exact ⟨rfl, rfl, rfl, rfl, rfl⟩

theorem failStop (cause : Failure α) :
    Moves (Frozen view) (Measurement.failStop cause : Act α κ μ Unit) := by
  intro m
  obtain ⟨microwave, outbox, same⟩ := failStop_after cause m
  rw [same]
  exact ⟨rfl, rfl, rfl, view.stop m.counter⟩

theorem wrapUp (tag : Option String) :
    Moves (Frozen view) (Measurement.wrapUp tag : Act α κ μ Unit) := by
  intro m
  obtain ⟨microwave, outbox, same⟩ := wrapUp_after tag m
  rw [same]
  cases tag <;> exact ⟨rfl, rfl, rfl, view.stop m.counter⟩

theorem startDevices : Moves (Frozen view) (Measurement.startDevices : Act α κ μ Unit) := by
  refine Moves.bind trans (switchMicrowave true) fun _ => ?_
  refine Moves.bind trans (Moves.outcome (onCounter view.start)) fun outcome => ?_
  cases outcome with
  | ok _ => exact refl
  | error f => exact Moves.bind trans (Moves.outcome (switchMicrowave false)) fun _ => refl

theorem launch [Scalar α] (tag : Option String) :
    Moves (Frozen view) (Measurement.launch tag : Act α κ μ Unit) := by
  refine Moves.bind trans (Moves.modify fun _ => ⟨rfl, rfl, rfl, rfl, rfl⟩) fun _ => ?_
  refine Moves.bind trans startDevices fun _ => ?_
  exact Moves.bind trans (Moves.modify fun _ => ⟨rfl, rfl, rfl, rfl, rfl⟩) fun _ =>
    Moves.modify fun _ => ⟨rfl, rfl, rfl, rfl, rfl⟩

/-- That settings are as before lasts through a run. -/
theorem lasting (before : Measurement α κ μ) : Lasting (Frozen view before) where
  pauseCounter m kept := trans _ _ _ kept (onCounter view.pause m)
  resumeCounter m kept := trans _ _ _ kept (onCounter view.resume m)
  microwave _ _ kept := trans _ _ _ kept ⟨rfl, rfl, rfl, rfl, rfl⟩
  outbox _ _ kept := trans _ _ _ kept ⟨rfl, rfl, rfl, rfl, rfl⟩
  state _ _ kept _ _ := trans _ _ _ kept ⟨rfl, rfl, rfl, rfl, rfl⟩
  failStop cause m kept := trans _ _ _ kept (failStop cause m)

variable [Analytic α]

theorem stop (tag : Option String) :
    Moves (Frozen view) (Measurement.stop tag : Act α κ μ Unit) := by
  intro m
  have announced : Frozen view m m.stopping := ⟨rfl, rfl, rfl, rfl, rfl⟩
  by_cases idle : m.state = .idle
  · rw [after_of_ok (stop_of_idle idle tag)]
    exact refl m
  · by_cases running : m.state = .running
    · rw [after, Action.run, stop_of_running running tag]
      exact trans _ _ _ announced (trans _ _ _ (pull _) (wrapUp tag _))
    · rw [after, Action.run, stop_of_interrupted idle running tag]
      exact trans _ _ _ announced (wrapUp tag _)

omit [Microwave α μ] in
theorem setExtraction (params : ParamSet α) :
    Moves (Frozen view) (Measurement.setExtraction params : Act α κ μ (ParamSet α)) := by
  refine Moves.bind trans (fun m => ?_) fun _ => Moves.get_bind fun m => Moves.lift refl _ m
  rw [onExtraction_after]
  exact ⟨rfl, rfl, rfl, rfl, rfl⟩

omit [Microwave α μ] in
theorem setEvaluation (params : ParamSet α) :
    Moves (Frozen view) (Measurement.setEvaluation params : Act α κ μ (ParamSet α)) := by
  refine Moves.bind trans (fun m => ?_) fun _ => Moves.get_bind fun m => Moves.lift refl _ m
  rw [onEvaluation_after]
  exact ⟨rfl, rfl, rfl, rfl, rfl⟩

omit [Microwave α μ] in
theorem setInterval (seconds : α) :
    Moves (Frozen view) (Measurement.setInterval seconds : Act α κ μ Interval) := by
  unfold Measurement.setInterval
  by_cases positive : Scalar.isPositive seconds = true
  · rw [if_pos positive]
    exact Moves.bind trans (Moves.modify fun _ => ⟨rfl, rfl, rfl, rfl, rfl⟩) fun _ => refl
  · rw [if_neg positive]
    exact refl

omit [Microwave α μ] in
theorem setView (kind : ViewKind) :
    Moves (Frozen view) (Measurement.setView kind : Act α κ μ ViewKind) := by
  intro m
  obtain ⟨viewKind, shown, same⟩ := setView_after kind m
  rw [same]
  exact ⟨rfl, rfl, rfl, rfl, rfl⟩

end Frozen

/-! ## 2. Operations -/

/-- The operations that can change settings. -/
def Operation.Adjusts : Operation α → Prop
  | .setSettings _ | .setCounterSettings _ | .setMicrowaveSettings _ => True
  | .setAsset _ | .start .. => True
  | _ => False

section Operations

variable [Analytic α] [Counter α κ] [Microwave α μ] {m : Measurement α κ μ}

/-- Whatever the measurement does, settings are changed by some operations only. -/
theorem frozen_of_not_adjusts (view : SettingsView α κ) {op : Operation α} (other : ¬ op.Adjusts)
    (m : Measurement α κ μ) : Frozen view m (op.after m) := by
  have answered {β : Type} {act : Act α κ μ β} (frozen : Moves (Frozen view) act) :
      Frozen view m ((do let _ ← act : Act α κ μ Unit).after m) := by
    rw [Action.after_discard]
    exact frozen m
  have continues (lasts : op.Continues) : Frozen view m (op.after m) :=
    (Frozen.lasting m).operation lasts (Frozen.refl m) (Frozen.pull m)
  cases op with
  | setExtraction params => exact answered (Frozen.setExtraction params)
  | setEvaluation params => exact answered (Frozen.setEvaluation params)
  | setInterval seconds => exact answered (Frozen.setInterval seconds)
  | setView kind => exact answered (Frozen.setView kind)
  | announceTo outbox => exact ⟨rfl, rfl, rfl, rfl, rfl⟩
  | stop tag => exact Frozen.stop tag m
  | pause => exact continues trivial
  | resume guard => exact continues trivial
  | tick => exact continues trivial
  | refresh => exact continues trivial
  | setSettings | setCounterSettings | setMicrowaveSettings | setAsset | start =>
    exact absurd trivial other

omit [Microwave α μ] in
/-- During a run an asset is only noted. -/
theorem setAsset_of_active (active : m.state ≠ .idle) (asset : Option (AssetInfo α)) :
    setAsset asset m = .ok ⟨⟩ { m with asset } := by
  have busy : m.state.isActive = true := by simpa [RunState.isActive] using active
  unfold setAsset
  rw [Action.bind_of_ok (Action.modify_apply _ m), Action.bind_of_ok (Action.get_apply _)]
  dsimp only
  rw [busy, Bool.not_true, Bool.and_false, Bool.false_and]
  rfl

/-- During a run no operation changes settings. -/
theorem frozen_of_active (view : SettingsView α κ) (active : m.state ≠ .idle) (op : Operation α) :
    Frozen view m (op.after m) := by
  have refused {β : Type} {act : Act α κ μ β} (fails : ∃ f, act m = .error f m) :
      Frozen view m ((do let _ ← act : Act α κ μ Unit).after m) := by
    obtain ⟨f, failed⟩ := fails
    rw [Action.after_discard, after_of_error failed]
    exact Frozen.refl m
  cases op with
  | setSettings settings =>
    exact refused ⟨_, setSettings_error_iff.mpr (Or.inl ⟨active, rfl, rfl⟩)⟩
  | setCounterSettings settings =>
    exact refused ⟨_, setCounterSettings_error_iff.mpr (Or.inl ⟨active, rfl, rfl⟩)⟩
  | setMicrowaveSettings settings =>
    exact refused ⟨_, whenIdle_error_iff.mpr (Or.inl ⟨active, rfl, rfl⟩)⟩
  | setAsset asset =>
    change Frozen view m ((setAsset asset).after m)
    rw [after_of_ok (setAsset_of_active active asset)]
    exact ⟨rfl, rfl, rfl, rfl, rfl⟩
  | start guard tag =>
    have failed : start guard tag m = .error _ m :=
      whenIdle_error_iff.mpr (Or.inl ⟨active, rfl, rfl⟩)
    change Frozen view m ((start guard tag).after m)
    rw [after_of_error failed]
    exact Frozen.refl m
  | _ => exact frozen_of_not_adjusts view id m

end Operations

/-! ## 3. The settings that are remembered -/

/-- The settings that are remembered are those that the counter goes by. -/
def Mirrored [Counter α κ] (view : SettingsView α κ) (m : Measurement α κ μ) : Prop :=
  m.counterSettings = view.settings m.counter

/-- If they were so before they still are. -/
def StaysMirrored [Counter α κ] (view : SettingsView α κ) (before after : Measurement α κ μ) :
    Prop :=
  Mirrored view before → Mirrored view after

section Mirroring

variable [Counter α κ] {view : SettingsView α κ}

theorem Frozen.mirrored {m next : Measurement α κ μ} (frozen : Frozen view m next)
    (mirrored : Mirrored view m) : Mirrored view next :=
  frozen.counterSettings.trans (mirrored.trans frozen.counter.1.symm)

/-- A counter that refuses settings goes on with those that are remembered. -/
theorem mirrored_configure (requested : CounterSettings α) :
    Moves (StaysMirrored view) (configure requested : Act α κ μ Unit) := by
  intro m mirrored
  cases asked : (Counter.configure requested : Action α κ _) m.counter with
  | ok used counter =>
    rw [after_of_ok (configure_ok asked)]
    exact (view.configure_ok asked).symm
  | error f counter =>
    rw [after_of_error (configure_error asked)]
    exact mirrored.trans (view.configure_error asked).symm

theorem mirrored_adjusting [Scalar α] (view : SettingsView α κ) :
    Adjusting (StaysMirrored view : Measurement α κ μ → Measurement α κ μ → Prop) where
  refl _ := id
  trans _ _ _ first second := second ∘ first
  configure := mirrored_configure
  note _ _ := id
  clear _ := id

variable [Analytic α] [Microwave α μ]

/-- A start takes over the settings of the asset; from there on it changes none. -/
theorem mirrored_start (guard : AssetGuard) (tag : Option String) :
    Moves (StaysMirrored view) (start guard tag : Act α κ μ Unit) := by
  intro m mirrored
  by_cases idle : m.state = .idle
  · rcases start_of_idle idle guard tag with ⟨-, f, failed⟩ | ⟨-, begun⟩
    · rw [after_of_error failed]
      exact mirrored
    · rw [after, Action.run, begun]
      by_cases invokes : m.settings.invoke = true
      · rw [if_pos invokes]
        exact Action.bind_after ((mirrored_adjusting view).invokeReadout m mirrored)
          fun _ next => (Frozen.launch tag next).mirrored
      · rw [if_neg invokes]
        exact (Frozen.launch tag m).mirrored mirrored
  · exact (frozen_of_active view idle (.start guard tag)).mirrored mirrored

theorem mirrored_operation (op : Operation α) :
    Moves (StaysMirrored view) (op.run : Act α κ μ Unit) := by
  intro m mirrored
  have answered {β : Type} {act : Act α κ μ β} (kept : Mirrored view (act.after m)) :
      Mirrored view ((do let _ ← act : Act α κ μ Unit).after m) := by
    rwa [Action.after_discard]
  have adjusting := mirrored_adjusting (μ := μ) view
  by_cases adjusts : op.Adjusts
  · cases op with
    | setSettings settings => exact answered (adjusting.setSettings settings m mirrored)
    | setCounterSettings settings =>
      exact answered (adjusting.setCounterSettings settings m mirrored)
    | setMicrowaveSettings settings =>
      obtain ⟨microwave, used, same⟩ := OnlySource.setMicrowaveSettings settings m
      refine answered ?_
      rw [same]
      exact mirrored
    | setAsset asset =>
      exact setAsset_moves adjusting.refl adjusting.trans adjusting.invokeReadout (fun _ => id) m
        mirrored
    | start guard tag => exact mirrored_start guard tag m mirrored
    | _ => exact adjusts.elim
  · exact (frozen_of_not_adjusts view adjusts m).mirrored mirrored

end Mirroring

/-! ## 4. Runs -/

section Runs

variable [Analytic α] [Counter α κ] [Microwave α μ]

/-- Whatever is done with a new measurement, on a counter that may refuse any settings and fail any
call: it remembers the settings that the counter goes by, and while it is not idle no operation
changes the settings of the measurement, of the counter or of the source, and the counter is not
asked for others. -/
theorem settings_frozen_in_run (view : SettingsView α κ) {options : MeasurementOptions}
    {counter : κ} {microwave : Option μ} {m : Measurement α κ μ}
    (started : ofDevices options counter microwave = .ok m) (ops : List (Operation α)) :
    let now := afterAll ops m
    now.counterSettings = view.settings now.counter ∧
      (now.state ≠ .idle → ∀ op : Operation α, Frozen view now (op.after now)) := by
  intro now
  obtain ⟨requested, configured⟩ := ofDevices_configured started
  have mirrored : Mirrored view m := (view.configure_ok configured).symm
  have adjusting := mirrored_adjusting (μ := μ) view
  exact ⟨afterAll_of_operation adjusting.refl adjusting.trans mirrored_operation ops m mirrored,
    frozen_of_active view⟩

end Runs

/-- An ensemble with a number of laser pulses, over a microsecond. -/
def pulses (lasers : Nat) : AssetInfo ℚ where
  asset := ⟨"pulses", .ensemble⟩
  metadata :=
    { readout := some
        { alternating := false
          ignored := []
          axis := (List.range lasers).map Nat.cast
          units := ("", "")
          labels := ("", "")
          lasers
          countingLength := 1 / 1000000 }
      record := none }
  edgeChannel := ""

/-- Settings that a counter refuses, then an ensemble of two pulses, and a run. -/
def twoPulseRun : List (Operation ℚ) :=
  [.setCounterSettings binless, .setAsset (some (pulses 2)), .start .idle none]

/-- A gated counter is given two gates for the two pulses, and counts. An ensemble of three pulses
that is loaded meanwhile does not ask it for a third gate. -/
theorem settings_frozen_in_run_gated :
    ∃ m, ofDevices benchOptions gatedCounter (none : Option (MemoryMicrowave ℚ)) = .ok m ∧
      let now := afterAll twoPulseRun m
      let next := (Operation.setAsset (some (pulses 3))).after now
      now.state = .running ∧ now.counterSettings = now.counter.inner.settings ∧
        now.counterSettings.gates = 2 ∧ next.settings = now.settings ∧
        next.counter.inner.settings = now.counterSettings ∧
        next.counter.inner.requests = now.counter.inner.requests := by
  have ran : (match ofDevices benchOptions gatedCounter (none : Option (MemoryMicrowave ℚ)) with
    | .ok m =>
      let now := afterAll twoPulseRun m
      now.state == .running && now.counterSettings.gates == 2
    | .error _ => false) = true := by decide +kernel
  cases started : ofDevices benchOptions gatedCounter (none : Option (MemoryMicrowave ℚ)) with
  | error f => rw [started] at ran; cases ran
  | ok m =>
    rw [started] at ran
    simp only [Bool.and_eq_true, beq_iff_eq] at ran
    obtain ⟨running, gates⟩ := ran
    obtain ⟨mirrored, frozen⟩ := settings_frozen_in_run
      (FaultyCounter.settingsView MemoryCounter.settingsView) started twoPulseRun
    have active : (afterAll twoPulseRun m).state ≠ .idle := by
      rw [running]
      decide
    obtain ⟨settings, -, -, own, requests⟩ := frozen active (.setAsset (some (pulses 3)))
    exact ⟨m, rfl, running, mirrored, gates, settings, own.trans mirrored.symm, requests⟩

end PulseBench.Measurement
