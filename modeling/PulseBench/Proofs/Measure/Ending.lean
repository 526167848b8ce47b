import PulseBench.Proofs.Measure.Operation

/-!
# How the state of a measurement changes

Nothing is known about the devices here: every call of the counter and of the source
may fail, and change it as it likes. All the same the state behind an operation is
known from the state before it and from whether it failed. A measurement that takes
hold of devices that fail is idle in the end, and one that is refused stays as it was.

Results:
1. `sameState_gentle`, `setMicrowaveSettings_sameState`, `startDevices_sameState`: what
   leaves the state alone.
2. `failStop_idle`, `wrapUp_idle`: what ends a run.
3. `start_state`, `stop_state`, `pause_state`, `resume_state`, `refresh_state`, `tick_state`:
   the operations that a run consists of.
-/

namespace PulseBench.Measurement

variable {α κ μ : Type}

open Action (Moves after after_of_ok after_of_error)

/-! ## 1. Steps that leave the state alone -/

/-- The state is as it was. -/
def SameState (before after : Measurement α κ μ) : Prop := after.state = before.state

namespace SameState

theorem refl (m : Measurement α κ μ) : SameState m m := rfl

theorem trans (a b c : Measurement α κ μ) (first : SameState a b) (second : SameState b c) :
    SameState a c :=
  Eq.trans second first

end SameState

theorem onCounter_sameState {β : Type} (act : Action α κ β) :
    Moves SameState (onCounter act : Act α κ μ β) := by
  intro m
  rw [onCounter_after]
  exact SameState.refl m

theorem sameState_gentle [Scalar α] [Counter α κ] :
    Gentle fun before after : Measurement α κ μ => SameState before after where
  refl := SameState.refl
  trans := SameState.trans
  configure _ := onCounter_sameState _
  read := onCounter_sameState _
  extraction _ m := by rw [onExtraction_after]; exact SameState.refl m
  evaluation _ m := by rw [onEvaluation_after]; exact SameState.refl m
  change _ _ same := same.state

section Devices

variable [Microwave α μ]

theorem switchMicrowave_sameState (on : Bool) :
    Moves SameState (switchMicrowave on : Act α κ μ Unit) := by
  intro m
  obtain ⟨microwave, same⟩ := switchMicrowave_after on m
  rw [same]
  exact SameState.refl m

theorem setMicrowaveSettings_sameState [Scalar α] (settings : MicrowaveSettings α) :
    Moves SameState (setMicrowaveSettings settings : Act α κ μ (MicrowaveSettings α)) := by
  intro m
  obtain ⟨microwave, used, same⟩ := OnlySource.setMicrowaveSettings settings m
  rw [same]
  exact SameState.refl m

theorem startDevices_sameState [Counter α κ] :
    Moves SameState (startDevices : Act α κ μ Unit) := by
  refine Moves.bind SameState.trans (switchMicrowave_sameState true) fun _ => ?_
  refine Moves.bind SameState.trans (Moves.outcome (onCounter_sameState _)) fun outcome => ?_
  cases outcome with
  | ok _ => exact SameState.refl
  | error f =>
    exact Moves.bind SameState.trans (Moves.outcome (switchMicrowave_sameState false)) fun _ =>
      SameState.refl

end Devices

/-! ## 2. The end of a run -/

section Ends

variable [Counter α κ] [Microwave α μ]

theorem failStop_idle (cause : Failure α) (m : Measurement α κ μ) :
    ((failStop cause).after m).state = .idle := by
  obtain ⟨microwave, outbox, ended⟩ := failStop_after cause m
  rw [ended]

theorem wrapUp_idle (tag : Option String) (m : Measurement α κ μ) :
    ((wrapUp tag).after m).state = .idle := by
  obtain ⟨microwave, outbox, ended⟩ := wrapUp_after tag m
  rw [ended]

end Ends

/-! ## 3. Operations -/

section Operations

variable [Analytic α] [Counter α κ] [Microwave α μ]

theorem launch_state (tag : Option String) (m : Measurement α κ μ) :
    (∃ next, launch tag m = .ok ⟨⟩ next ∧ next.state = .running) ∨
    ∃ f next, launch tag m = .error f next ∧ next.state = m.state := by
  unfold launch
  rw [Action.bind_of_ok (Action.modify_apply _ m)]
  have kept := startDevices_sameState { m.clearData with recalled := tag.bind m.stash.get? }
  cases started : (startDevices : Act α κ μ Unit)
      { m.clearData with recalled := tag.bind m.stash.get? } with
  | ok _ next =>
    rw [Action.bind_of_ok started]
    exact Or.inl ⟨_, rfl, rfl⟩
  | error f next =>
    rw [after_of_error started] at kept
    rw [Action.bind_of_error started]
    exact Or.inr ⟨f, next, rfl, kept⟩

/-- A run begins, or the state stays. -/
theorem start_state (guard : AssetGuard) (tag : Option String) (m : Measurement α κ μ) :
    (∃ next, start guard tag m = .ok ⟨⟩ next ∧ next.state = .running) ∨
    ∃ f next, start guard tag m = .error f next ∧ next.state = m.state := by
  unfold start
  rw [Action.bind_of_ok (Action.get_apply m)]
  cases passed : ensureIdle "the run state" m with
  | error f =>
    rw [Action.bind_of_error (Action.lift_error f m)]
    exact Or.inr ⟨f, m, rfl, rfl⟩
  | ok _ =>
    rw [Action.bind_of_ok (Action.lift_ok _ m), Action.bind_of_ok (Action.get_apply m)]
    cases ready : m.ensureAssetReady guard with
    | error f =>
      rw [Action.bind_of_error (Action.lift_error f m)]
      exact Or.inr ⟨f, m, rfl, rfl⟩
    | ok _ =>
      rw [Action.bind_of_ok (Action.lift_ok _ m), Action.bind_of_ok (Action.get_apply m)]
      by_cases invokes : m.settings.invoke = true
      · rw [if_pos invokes]
        have kept := sameState_gentle.invokeReadout m
        cases done : (invokeReadout : Act α κ μ Unit) m with
        | error f middle =>
          rw [after_of_error done] at kept
          rw [Action.bind_of_error done]
          exact Or.inr ⟨f, middle, rfl, kept⟩
        | ok _ middle =>
          rw [after_of_ok done] at kept
          rw [Action.bind_of_ok done]
          refine (launch_state tag middle).imp_right ?_
          rintro ⟨f, next, failed, same⟩
          exact ⟨f, next, failed, Eq.trans same kept⟩
      · rw [if_neg invokes]
        exact launch_state tag m

theorem stop_state (tag : Option String) (m : Measurement α κ μ) :
    ((stop tag).after m).state = .idle := by
  by_cases idle : m.state = .idle
  · rw [after_of_ok (stop_of_idle idle tag)]
    exact idle
  · by_cases running : m.state = .running
    · rw [after, Action.run, stop_of_running running tag]
      exact wrapUp_idle tag _
    · rw [after, Action.run, stop_of_interrupted idle running tag]
      exact wrapUp_idle tag _

omit [Analytic α] in
/-- What changes the devices during a run either leads to a state or ends the run. -/
theorem orFailStop_state (act : Act α κ μ Unit) (state : RunState) (m : Measurement α κ μ) :
    (∃ next, (do orFailStop act; setState state : Act α κ μ Unit) m = .ok ⟨⟩ next ∧
      next.state = state) ∨
    ∃ f next, (do orFailStop act; setState state : Act α κ μ Unit) m = .error f next ∧
      next.state = .idle := by
  cases done : act m with
  | ok _ next =>
    rw [Action.bind_of_ok (orFailStop_ok done)]
    exact Or.inl ⟨_, rfl, rfl⟩
  | error f behind =>
    rw [Action.bind_of_error (orFailStop_error done)]
    exact Or.inr ⟨f, _, rfl, failStop_idle f behind⟩

omit [Analytic α] in
/-- A run is interrupted or ends; where nothing runs the state stays. -/
theorem pause_state (m : Measurement α κ μ) :
    (∃ next, (pause : Act α κ μ Unit) m = .ok ⟨⟩ next ∧ next.state = .paused) ∨
    ∃ f next, (pause : Act α κ μ Unit) m = .error f next ∧
      (next.state = .idle ∨ m.state ≠ .running ∧ next.state = m.state) := by
  unfold pause
  rw [Action.bind_of_ok (Action.get_apply m)]
  by_cases running : m.state = .running
  · simp only [running, if_true]
    refine (orFailStop_state _ .paused m).imp_right ?_
    rintro ⟨f, next, failed, idle⟩
    exact ⟨f, next, failed, Or.inl idle⟩
  · simp only [running, if_false]
    exact Or.inr ⟨_, m, rfl, Or.inr ⟨running, rfl⟩⟩

omit [Analytic α] in
/-- A run goes on or ends; where it can not go on the state stays. -/
theorem resume_state (guard : AssetGuard) (m : Measurement α κ μ) :
    (∃ next, (resume guard : Act α κ μ Unit) m = .ok ⟨⟩ next ∧ next.state = .running) ∨
    ∃ f next, (resume guard : Act α κ μ Unit) m = .error f next ∧
      (next.state = .idle ∨ next.state = m.state) := by
  unfold resume
  rw [Action.bind_of_ok (Action.get_apply m)]
  by_cases paused : m.state = .paused
  · simp only [paused, if_true]
    rw [Action.bind_of_ok (Action.get_apply m)]
    cases ready : m.ensureAssetReady guard with
    | error f =>
      rw [Action.bind_of_error (Action.lift_error f m)]
      exact Or.inr ⟨f, m, rfl, Or.inr paused⟩
    | ok _ =>
      rw [Action.bind_of_ok (Action.lift_ok _ m)]
      refine (orFailStop_state _ .running m).imp_right ?_
      rintro ⟨f, next, failed, idle⟩
      exact ⟨f, next, failed, Or.inl idle⟩
  · simp only [paused, if_false]
    exact Or.inr ⟨_, m, rfl, Or.inr rfl⟩

/-- A refresh leaves the state, or ends a run. -/
theorem refresh_state (m : Measurement α κ μ) :
    ((refresh : Act α κ μ Unit).after m).state = m.state ∨
      ((refresh : Act α κ μ Unit).after m).state = .idle := by
  have kept := sameState_gentle.pull m
  rcases refresh_cases m with ⟨next, pulled, refreshed⟩ | ⟨f, behind, pulled, refreshed⟩
  · rw [after_of_ok pulled] at kept
    rw [after_of_ok refreshed]
    exact Or.inl kept
  · rw [after_of_error pulled] at kept
    rw [after_of_error refreshed]
    split
    · exact Or.inr (failStop_idle f behind)
    · exact Or.inl kept

/-- A tick leaves the state unless a device fails, and then it ends the run. -/
theorem tick_state (m : Measurement α κ μ) :
    (∃ refreshed next, (tick : Act α κ μ Bool) m = .ok refreshed next ∧ next.state = m.state) ∨
    ∃ f next, (tick : Act α κ μ Bool) m = .error f next ∧
      next.state = if f.isHardware then .idle else m.state := by
  have kept := sameState_gentle.pull m
  by_cases running : m.state = .running
  · rcases tick_of_running running with ⟨next, pulled, ticked⟩ | ⟨f, behind, pulled, ticked⟩
    · rw [after_of_ok pulled] at kept
      exact Or.inl ⟨true, next, ticked, kept⟩
    · rw [after_of_error pulled] at kept
      refine Or.inr ⟨f, _, ticked, ?_⟩
      split
      · exact failStop_idle f behind
      · exact Eq.trans (sameState_gentle.announce (.failed f) behind) kept
  · exact Or.inl ⟨false, m, tick_of_interrupted running, rfl⟩

end Operations

end PulseBench.Measurement
