import PulseBench.Proofs.Measure.Arrangement
import PulseBench.Proofs.Measure.Coupling

/-!
# The arrays of a measurement fit its settings

Axis, signal and errors of the result should have the shape that the settings ask
for (`Arranged`). The settings change on three ways: they are given, or taken from
an asset that is loaded, or from the asset at the start of a run. On all of them
the result is cleared at the end, and only a counter that refuses to be configured
keeps it from being cleared. Signal and errors also change with every refresh, by
the settings of the moment.

Whether the counter refused is not to be seen in a measurement, since a refusal
may be passed over. So the counter is put under watch: `WatchedCounter` passes
every call on and remembers a refusal. As long as there is none, every operation
keeps the arrays in shape (`Fitting`), and those that end with a cleared result
bring them into shape (`Renews`).

Results:
1. `WatchedCounter`: a counter under watch.
2. `analysed_shape`: what a refresh gives.
3. `Renews.fitting`: from clearing steps to operations.
4. `Fitting.operation`, `Fitting.afterAll`: every operation, and every run.
5. `arrays_match_settings`: the arrays in any state of any run.
-/

namespace PulseBench

variable {α κ μ : Type}

open Action (Moves after after_of_ok after_of_error)

/-! ## 1. A counter under watch -/

/-- A counter, and whether it ever refused to be configured. -/
structure WatchedCounter (κ : Type) where
  inner : κ
  refused : Bool

namespace WatchedCounter

/-- A counter from now on. -/
def fresh (inner : κ) : WatchedCounter κ := ⟨inner, false⟩

/-- A call that is passed on. -/
def reach {β : Type} (act : Action α κ β) : Action α (WatchedCounter κ) β := fun c =>
  match act c.inner with
  | .ok b inner => .ok b { c with inner }
  | .error e inner => .error e { c with inner }

/-- A call that is passed on; its failure is noted. -/
def watch {β : Type} (act : Action α κ β) : Action α (WatchedCounter κ) β := fun c =>
  match act c.inner with
  | .ok b inner => .ok b { c with inner }
  | .error e inner => .error e ⟨inner, true⟩

instance [Counter α κ] : Counter α (WatchedCounter κ) where
  limits c := Counter.limits c.inner
  isGated c := Counter.isGated c.inner
  configure settings := watch (Counter.configure settings)
  read := reach Counter.read
  start := reach Counter.start
  stop := reach Counter.stop
  pause := reach Counter.pause
  resume := reach Counter.resume

theorem reach_refused {β : Type} (act : Action α κ β) (c : WatchedCounter κ) :
    ((reach act).after c).refused = c.refused := by
  cases called : act c.inner with
  | ok b inner =>
    have done : reach act c = .ok b { c with inner } := by rw [reach, called]
    rw [after_of_ok done]
  | error f inner =>
    have failed : reach act c = .error f { c with inner } := by rw [reach, called]
    rw [after_of_error failed]

theorem watch_ok {β : Type} {act : Action α κ β} {b : β} {c c' : WatchedCounter κ}
    (done : watch act c = .ok b c') : c'.refused = c.refused := by
  unfold watch at done
  split at done
  · cases done
    rfl
  · cases done

theorem watch_error {β : Type} {act : Action α κ β} {f : Failure α} {c c' : WatchedCounter κ}
    (failed : watch act c = .error f c') : c'.refused = true := by
  unfold watch at failed
  split at failed
  · cases failed
  · cases failed
    rfl

end WatchedCounter

namespace Measurement

/-! ## 2. Shapes -/

/-- Axis, signal and errors have the shape that the settings ask for. -/
structure Arranged (m : Measurement α κ μ) : Prop where
  axis : m.data.axis = m.settings.axis
  signal : m.data.signal.shape = (m.settings.rowCount, m.settings.axis.length)
  errors : m.data.errors.shape = (m.settings.rowCount, m.settings.axis.length)

theorem shape_fill {β : Type} (rowCount columns : Nat) (value : β) :
    (Grid.fill rowCount columns value).shape = (rowCount, columns) := by
  rw [Grid.shape, Grid.rowCount, Grid.fill, List.length_replicate]

/-- A cleared result has the shape of the settings, whatever it was before. -/
theorem arranged_clearData [Scalar α] (m : Measurement α κ μ) : m.clearData.Arranged :=
  ⟨rfl, shape_fill _ _ _, shape_fill _ _ _⟩

/-- A result has the shape of the settings, and the axis that was there. -/
theorem analysed_shape [Analytic α] {m : Measurement α κ μ} {data : MeasurementData α}
    (analysed : m.analysed = .ok data) :
    data.axis = m.data.axis ∧
      data.signal.shape = (m.settings.rowCount, m.settings.axis.length) ∧
      data.errors.shape = (m.settings.rowCount, m.settings.axis.length) := by
  obtain ⟨extraction, _, analysed⟩ := bind_eq_ok.mp analysed
  obtain ⟨estimates, _, analysed⟩ := bind_eq_ok.mp analysed
  obtain ⟨⟨signal, errors⟩, arranged, analysed⟩ := bind_eq_ok.mp analysed
  cases analysed
  exact ⟨rfl, MeasurementSettings.arrange_shape arranged⟩

/-! ## 3. Steps that keep or renew the shape -/

/-- Unless the counter refused, it did not refuse before, and the arrays still fit. -/
def Fitting (before after : Measurement α (WatchedCounter κ) μ) : Prop :=
  after.counter.refused = false →
    before.counter.refused = false ∧ (before.Arranged → after.Arranged)

namespace Fitting

theorem refl (m : Measurement α (WatchedCounter κ) μ) : Fitting m m := fun watched => ⟨watched, id⟩

theorem trans (a b c : Measurement α (WatchedCounter κ) μ) (first : Fitting a b)
    (second : Fitting b c) : Fitting a c := fun watched =>
  have ⟨between, later⟩ := second watched
  have ⟨start, earlier⟩ := first between
  ⟨start, later ∘ earlier⟩

theorem of_sameResult {a b : Measurement α (WatchedCounter κ) μ}
    (refused : b.counter.refused = a.counter.refused) (same : SameResult a b) : Fitting a b := by
  refine fun watched => ⟨refused ▸ watched, fun fits => ⟨?_, ?_, ?_⟩⟩
  · rw [same.axis, same.settings]
    exact fits.axis
  · rw [same.signal, same.settings]
    exact fits.signal
  · rw [same.errors, same.settings]
    exact fits.errors

/-- Any call of the counter, but for configuring it. -/
theorem onCounter {β : Type} (act : Action α κ β) :
    Moves Fitting (Measurement.onCounter (WatchedCounter.reach act) :
      Act α (WatchedCounter κ) μ β) := by
  intro m
  rw [onCounter_after]
  exact of_sameResult (WatchedCounter.reach_refused act m.counter) ⟨rfl, rfl, rfl, rfl, rfl, rfl⟩

end Fitting

section Renewing

/-- Whatever the arrays were before, they fit behind an action, unless the counter refused. -/
def Renews {β : Type} (act : Act α (WatchedCounter κ) μ β) : Prop :=
  ∀ m, (act.after m).counter.refused = false →
    m.counter.refused = false ∧ (act.after m).Arranged

namespace Renews

variable {β γ : Type} {act : Act α (WatchedCounter κ) μ β}

theorem fitting (h : Renews act) : Moves Fitting act :=
  fun m watched => ⟨(h m watched).1, fun _ => (h m watched).2⟩

/-- Renewed arrays may be followed by what keeps them. -/
theorem bind (h : Renews act) {rest : β → Act α (WatchedCounter κ) μ γ}
    (later : ∀ b, Moves Fitting (rest b)) : Renews (act >>= rest) := by
  intro m watched
  cases done : act m with
  | error f behind =>
    have same : (act >>= rest).after m = act.after m := by
      rw [after_of_error done, after_of_error (Action.bind_of_error done)]
    rw [same] at watched ⊢
    exact h m watched
  | ok b next =>
    have same : (act >>= rest).after m = (rest b).after next := by
      rw [after, Action.run, Action.bind_of_ok done]
      rfl
    rw [same] at watched ⊢
    obtain ⟨between, keeps⟩ := later b next watched
    obtain ⟨before, fits⟩ := h m (by rw [after_of_ok done]; exact between)
    rw [after_of_ok done] at fits
    exact ⟨before, keeps fits⟩

theorem clear [Scalar α] : Renews (modify clearData : Act α (WatchedCounter κ) μ PUnit) :=
  fun m watched => ⟨watched, arranged_clearData m⟩

/-- Before arrays are renewed, parts besides the counter may change as they like. -/
theorem change {f : Measurement α (WatchedCounter κ) μ → Measurement α (WatchedCounter κ) μ}
    {rest : PUnit → Act α (WatchedCounter κ) μ β} (same : ∀ m, (f m).counter = m.counter)
    (later : Renews (rest ⟨⟩)) : Renews (modify f >>= rest) := by
  intro m watched
  obtain ⟨before, fits⟩ := later (f m) watched
  exact ⟨same m ▸ before, fits⟩

variable [Counter α κ]

/-- And the counter may be configured, which ends the action if the counter refuses. -/
theorem configure (requested : CounterSettings α) {rest : Unit → Act α (WatchedCounter κ) μ β}
    (later : Renews (rest ⟨⟩)) : Renews (Measurement.configure requested >>= rest) := by
  intro m watched
  cases answered : (Counter.configure requested : Action α (WatchedCounter κ) _) m.counter with
  | error f counter =>
    have failed : (Measurement.configure requested >>= rest) m = .error f { m with counter } :=
      Action.bind_of_error (Action.bind_of_error (onCounter_error answered))
    rw [after_of_error failed] at watched
    exact absurd (WatchedCounter.watch_error answered) (by rw [watched]; exact Bool.false_ne_true)
  | ok used counter =>
    have done : Measurement.configure requested m =
        .ok ⟨⟩ { m with counter, counterSettings := used } := by
      unfold Measurement.configure
      rw [Action.bind_of_ok (onCounter_ok answered)]
      rfl
    have behind : (Measurement.configure requested >>= rest).after m =
        (rest ⟨⟩).after { m with counter, counterSettings := used } := by
      rw [after, Action.run, Action.bind_of_ok done]
      rfl
    rw [behind] at watched ⊢
    obtain ⟨before, fits⟩ := later _ watched
    exact ⟨WatchedCounter.watch_ok answered ▸ before, fits⟩

theorem configureIf (needed : Prop) [Decidable needed] (requested : CounterSettings α)
    (later : Renews act) : Renews (do
      if needed then Measurement.configure requested
      act) := by
  by_cases needs : needed
  · simp only [needs, if_true]
    exact configure requested later
  · simp only [needs, if_false]
    exact later

end Renews

end Renewing

/-! ## 4. Operations -/

namespace Fitting

variable [Analytic α] [Counter α κ]

theorem setSettings (settings : MeasurementSettings α) :
    Moves Fitting (Measurement.setSettings settings :
      Act α (WatchedCounter κ) μ (MeasurementSettings α)) := by
  refine Moves.get_bind fun m => ?_
  refine Moves.bind trans (Moves.lift refl _) (fun _ => Renews.fitting ?_) m
  refine Renews.change (fun _ => rfl) fun m => ?_
  refine Renews.configureIf _ _ (Renews.clear.bind fun _ => ?_) m
  exact refl

theorem setCounterSettings (settings : CounterSettings α) :
    Moves Fitting (Measurement.setCounterSettings settings :
      Act α (WatchedCounter κ) μ (CounterSettings α)) := by
  refine Moves.get_bind fun m => ?_
  refine Moves.bind trans (Moves.lift refl _) (fun _ => Renews.fitting ?_) m
  exact Renews.configure settings (Renews.clear.bind fun _ => refl)

/-- Where no asset asks for other settings nothing happens at all. -/
theorem invokeReadout :
    Moves Fitting (Measurement.invokeReadout : Act α (WatchedCounter κ) μ Unit) := by
  refine Moves.get_bind fun m => ?_
  cases m.asset with
  | none => exact refl m
  | some info =>
    dsimp only
    cases info.metadata.readout with
    | none => exact refl m
    | some readout =>
      dsimp only
      refine Renews.fitting ?_ m
      refine Renews.change (fun _ => rfl) fun m => ?_
      exact Renews.configureIf _ _ Renews.clear m

/-- A refresh arranges its estimates by the settings of the moment. -/
theorem pull : Moves Fitting (Measurement.pull : Act α (WatchedCounter κ) μ Unit) := by
  refine Moves.bind trans (onCounter _) fun reading => ?_
  refine Moves.bind trans (Moves.modify fun m => ?_) fun _ => Moves.get_bind fun m => ?_
  · obtain ⟨counts, sweeps, recalled, same⟩ := withReading_eq reading m
    rw [same]
    exact of_sameResult rfl ⟨rfl, rfl, rfl, rfl, rfl, rfl⟩
  · cases analysed : m.analysed with
    | error f => exact refl m
    | ok data =>
      obtain ⟨axis, signal, errors⟩ := analysed_shape analysed
      exact fun watched => ⟨watched, fun fits => ⟨axis.trans fits.axis, signal, errors⟩⟩

/-- Everything else leaves settings and result alone. -/
theorem careful : Careful (Fitting (α := α) (κ := κ) (μ := μ)) where
  refl := refl
  trans := trans
  startCounter := onCounter _
  stopCounter := onCounter _
  pauseCounter := onCounter _
  resumeCounter := onCounter _
  extraction params m := by
    rw [onExtraction_after]
    exact of_sameResult rfl ⟨rfl, rfl, rfl, rfl, rfl, rfl⟩
  evaluation params m := by
    rw [onEvaluation_after]
    exact of_sameResult rfl ⟨rfl, rfl, rfl, rfl, rfl, rfl⟩
  change a b methods result := of_sameResult (congrArg _ methods.counter) result
  pull := pull
  invokeReadout := invokeReadout
  clears m _ watched := ⟨watched, fun _ => ⟨rfl, shape_fill _ _ _, shape_fill _ _ _⟩⟩

omit [Counter α κ] in
/-- No view has a part in the arrays. -/
theorem setView (kind : ViewKind) :
    Moves Fitting (Measurement.setView kind : Act α (WatchedCounter κ) μ ViewKind) := by
  intro m
  obtain ⟨viewKind, view, same⟩ := setView_after kind m
  rw [same]
  exact fun watched => ⟨watched, fun fits => ⟨fits.axis, fits.signal, fits.errors⟩⟩

variable [Microwave α μ]

theorem operation (op : Operation α) :
    Moves Fitting (op.run : Act α (WatchedCounter κ) μ Unit) :=
  careful.operation setSettings setCounterSettings setView
    (fun _ _ => of_sameResult rfl ⟨rfl, rfl, rfl, rfl, rfl, rfl⟩)
    op

theorem afterAll (ops : List (Operation α)) (m : Measurement α (WatchedCounter κ) μ) :
    Fitting m (Measurement.afterAll ops m) :=
  afterAll_of_operation refl trans operation ops m

end Fitting

/-! ## 5. Runs -/

variable [Analytic α] [Counter α κ]

/-- The arrays of a new measurement have the shape of the default settings. -/
theorem ofDevices_arranged {options : MeasurementOptions} {counter : κ} {microwave : Option μ}
    {m : Measurement α κ μ} (started : ofDevices options counter microwave = .ok m) :
    m.Arranged := by
  unfold ofDevices at started
  dsimp only at started
  split at started
  · rw [ok_bind] at started
    obtain ⟨extraction, _, started⟩ := bind_eq_ok.mp started
    obtain ⟨evaluation, _, made⟩ := bind_eq_ok.mp started
    cases made
    exact ⟨rfl, shape_fill _ _ _, shape_fill _ _ _⟩
  · cases started

/-- Whatever is done with a new measurement, on whatever counter and source, and whatever of it
fails: as long as the counter never refused to be configured, the axis of the result is that of the
settings, and signal and errors have a column for each of its points and one row, or two if the
settings say that the measurement alternates. -/
theorem arrays_match_settings [Microwave α μ] (options : MeasurementOptions) (counter : κ)
    (microwave : Option μ) (m : Measurement α (WatchedCounter κ) μ)
    (started : ofDevices options (WatchedCounter.fresh counter) microwave = .ok m)
    (ops : List (Operation α)) :
    let now := afterAll ops m
    now.counter.refused = false →
      now.data.axis = now.settings.axis ∧
      now.data.signal.shape =
        (if now.settings.alternating then 2 else 1, now.settings.axis.length) ∧
      now.data.errors.shape =
        (if now.settings.alternating then 2 else 1, now.settings.axis.length) := by
  intro now watched
  have fits : now.Arranged := (Fitting.afterAll ops m watched).2 (ofDevices_arranged started)
  exact ⟨fits.axis, fits.signal, fits.errors⟩

/-! An alternating run over three points, on a counter that can not be read. -/

/-- Two laser pulses per point. -/
def alternatingRun : List (Operation ℚ) :=
  [.setSettings
      { (.default : MeasurementSettings ℚ) with
        invoke := false, axis := [1, 2, 3], lasers := 6, alternating := true },
    .start .idle none, .refresh]

/-- The refresh fails and ends the run, and the arrays keep two rows of three points. -/
theorem arrays_match_settings_alternating :
    ∃ m, ofDevices benchOptions (WatchedCounter.fresh unreadable)
        (none : Option (MemoryMicrowave ℚ)) = .ok m ∧
      let now := afterAll alternatingRun m
      now.counter.refused = false ∧ now.state = .idle ∧ now.data.axis = [1, 2, 3] ∧
        now.data.signal.shape = (2, 3) ∧ now.data.errors.shape = (2, 3) := by
  have ran : (match ofDevices benchOptions (WatchedCounter.fresh unreadable)
      (none : Option (MemoryMicrowave ℚ)) with
    | .ok m =>
      let now := afterAll alternatingRun m
      !now.counter.refused && now.state == .idle && now.settings.alternating &&
        now.settings.axis == [1, 2, 3]
    | .error _ => false) = true := by decide +kernel
  cases started : ofDevices benchOptions (WatchedCounter.fresh unreadable)
      (none : Option (MemoryMicrowave ℚ)) with
  | error f => rw [started] at ran; cases ran
  | ok m =>
    rw [started] at ran
    simp only [Bool.and_eq_true, Bool.not_eq_true', beq_iff_eq] at ran
    obtain ⟨⟨⟨watched, idle⟩, alternating⟩, points⟩ := ran
    obtain ⟨axis, signal, errors⟩ :=
      arrays_match_settings _ _ _ _ started alternatingRun watched
    rw [alternating, points] at signal errors
    exact ⟨m, rfl, watched, idle, axis.trans points, signal, errors⟩

end Measurement

end PulseBench
