import PulseBench.Proofs.Measure.Operation

/-!
# What lasts through a run

A run is a sequence of ticks, refreshes, pauses and resumptions, between a start and
a stop. A property of measurements that neither the devices nor announcements touch
(`Lasting`) is kept by all four, also if they fail, as far as readings keep it.

Results:
1. `Lasting.pause`, `Lasting.resume`: interruptions.
2. `Lasting.tick`, `Lasting.refresh`: refreshes.
3. `Lasting.operation`: all four.
-/

namespace PulseBench.Measurement

variable {α κ μ : Type} [Counter α κ] [Microwave α μ]

open Action (Moves after after_of_ok after_of_error)

/-- What may happen during a run, until it is stopped. -/
def Operation.Continues : Operation α → Prop
  | .tick | .refresh | .pause | .resume _ => True
  | _ => False

/-- A property that is kept by everything in a run but readings: by calls of the devices and
announcements, by changes between running and paused, and by the end that a failing device puts to
the run. -/
structure Lasting (P : Measurement α κ μ → Prop) : Prop where
  pauseCounter : ∀ m, P m → P ((onCounter Counter.pause).after m)
  resumeCounter : ∀ m, P m → P ((onCounter Counter.resume).after m)
  microwave : ∀ m microwave, P m → P { m with microwave }
  outbox : ∀ m outbox, P m → P { m with outbox }
  state : ∀ m state, P m → m.state ≠ .idle → state = .running ∨ state = .paused →
    P { m with state }
  failStop : ∀ cause m, P m → P ((failStop cause).after m)

namespace Lasting

variable {P : Measurement α κ μ → Prop} {m : Measurement α κ μ}

/-! ## 1. Interruptions -/

theorem switchMicrowave (h : Lasting P) (on : Bool) (holds : P m) :
    P ((Measurement.switchMicrowave on).after m) := by
  obtain ⟨microwave, same⟩ := switchMicrowave_after on m
  rw [same]
  exact h.microwave m microwave holds

/-- A change of the devices during a run changes its state, or ends the run. -/
theorem change (h : Lasting P) {act : Act α κ μ Unit} (active : (act.after m).state ≠ .idle)
    (holds : P (act.after m)) {state : RunState} (target : state = .running ∨ state = .paused) :
    P ((do
      orFailStop act
      setState state : Act α κ μ Unit).after m) := by
  cases done : act m with
  | ok _ next =>
    rw [after_of_ok done] at holds active
    rw [after, Action.run, Action.bind_of_ok (orFailStop_ok done)]
    exact h.outbox _ _ (h.state next state holds active target)
  | error f behind =>
    rw [after_of_error done] at holds
    rw [after_of_error (Action.bind_of_error (orFailStop_error done))]
    exact h.failStop f behind holds

theorem pause (h : Lasting P) (holds : P m) : P (pause.after m) := by
  unfold Measurement.pause
  rw [after, Action.run, Action.bind_of_ok (Action.get_apply m)]
  by_cases running : m.state = .running
  · rw [if_pos running]
    have only : Moves OnlyDevices (do
        onCounter Counter.pause
        Measurement.switchMicrowave false : Act α κ μ Unit) :=
      Moves.bind OnlyDevices.trans (OnlyDevices.onCounter _) fun _ =>
        OnlyDevices.switchMicrowave false
    refine h.change ?_ ?_ (Or.inr rfl)
    · rw [(only m).state, running]
      decide
    · exact Action.bind_after (h.pauseCounter m holds) fun _ _ => h.switchMicrowave false
  · rw [if_neg running]
    exact holds

theorem resume (h : Lasting P) (holds : P m) (guard : AssetGuard) :
    P ((resume guard).after m) := by
  unfold Measurement.resume
  rw [after, Action.run, Action.bind_of_ok (Action.get_apply m)]
  by_cases paused : m.state = .paused
  · rw [if_pos paused]
    dsimp only
    rw [Action.bind_of_ok (Action.get_apply m)]
    cases ready : m.ensureAssetReady guard with
    | error f =>
      rw [Action.bind_of_error (Action.lift_error f m)]
      exact holds
    | ok _ =>
      rw [Action.bind_of_ok (Action.lift_ok _ m)]
      have only : Moves OnlyDevices (do
          Measurement.switchMicrowave true
          onCounter Counter.resume : Act α κ μ Unit) :=
        Moves.bind OnlyDevices.trans (OnlyDevices.switchMicrowave true) fun _ =>
          OnlyDevices.onCounter _
      refine h.change ?_ ?_ (Or.inl rfl)
      · rw [(only m).state, paused]
        decide
      · exact Action.bind_after (h.switchMicrowave true holds) fun _ => h.resumeCounter
  · rw [if_neg paused]
    exact holds

/-! ## 2. Refreshes -/

variable [Analytic α]

/-- A tick is a refresh during a run, and nothing at any other time. -/
theorem tick (h : Lasting P) (holds : m.state ≠ .running → P m)
    (pulled : m.state = .running → P ((pull : Act α κ μ Unit).after m)) : P (tick.after m) := by
  by_cases running : m.state = .running
  · have pulled := pulled running
    rcases tick_of_running running with ⟨next, done, ticked⟩ | ⟨f, behind, failed, ticked⟩
    · rw [after_of_ok done] at pulled
      rw [after_of_ok ticked]
      exact pulled
    · rw [after_of_error failed] at pulled
      rw [after_of_error ticked]
      split
      · exact h.failStop f behind pulled
      · exact h.outbox behind _ pulled
  · rw [after_of_ok (tick_of_interrupted running)]
    exact holds running

theorem refresh (h : Lasting P) (pulled : P ((pull : Act α κ μ Unit).after m)) :
    P (refresh.after m) := by
  rcases refresh_cases m with ⟨next, done, refreshed⟩ | ⟨f, behind, failed, refreshed⟩
  · rw [after_of_ok done] at pulled
    rw [after_of_ok refreshed]
    exact pulled
  · rw [after_of_error failed] at pulled
    rw [after_of_error refreshed]
    split
    · exact h.failStop f behind pulled
    · exact pulled

/-! ## 3. Operations of a run -/

/-- What lasts is kept by every operation of a run. -/
theorem operation (h : Lasting P) {op : Operation α} (continues : op.Continues) (holds : P m)
    (pulled : P ((pull : Act α κ μ Unit).after m)) : P (op.after m) := by
  cases op with
  | tick =>
    change P ((do let _ ← Measurement.tick : Act α κ μ Unit).after m)
    rw [Action.after_discard]
    exact h.tick (fun _ => holds) fun _ => pulled
  | refresh => exact h.refresh pulled
  | pause => exact h.pause holds
  | resume guard => exact h.resume holds guard
  | _ => exact continues.elim

end Lasting

end PulseBench.Measurement
