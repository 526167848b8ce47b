import PulseBench.Proofs.Measure.Coupling

/-!
# The view belongs to the signal

A view is derived from the signal in two places: when it is selected, where a
signal that can not carry it makes the selection fail, and behind every refresh,
where it is left out then. In between, axis, signal and selection may change. A
view that is shown is all the same the selected one of the present signal
(`Viewed`): whatever replaces axis or signal renews the view or clears it, and
whatever fails leaves all of them as they were, or at most shows no view any more.

Results:
1. `View.kind_of_of?`: a view is of the kind that was asked for.
2. `Current.of_pull`, `Current.of_setView`: refreshing and selecting a view make it
   current.
3. `Viewing.careful`, `Viewing.settling`, `Viewing.setView`: no step shows another view.
4. `Current.of_refresh`, `Current.of_tick`, `Current.of_stop`: the operations that refresh.
   `view_follows_selection`: any operations in any order.
-/

namespace PulseBench

variable {α κ μ : Type}

open Action (Moves after after_of_ok after_of_error)

/-! ## 1. Views of a kind -/

namespace Measurement

/-! ## 2. Views that are current -/

section Current

variable [Analytic α]

/-- A view that is shown is the selected one of the present signal. -/
def Viewed (m : Measurement α κ μ) : Prop :=
  ∀ v, m.data.view = some v → m.viewOf m.viewKind = .ok (some v)

/-- The selected view of the present signal is shown, unless it can not be derived. -/
structure Current (m : Measurement α κ μ) : Prop where
  derived : ∀ view, m.viewOf m.viewKind = .ok view → m.data.view = view
  missing : ∀ f, m.viewOf m.viewKind = .error f → m.data.view = none

variable {m next : Measurement α κ μ}

theorem Current.viewed (h : m.Current) : m.Viewed := by
  intro v shown
  cases derived : m.viewOf m.viewKind with
  | ok view => rw [← h.derived view derived, shown]
  | error f =>
    rw [h.missing f derived] at shown
    cases shown

/-- Only data and selection have a part in it. -/
theorem Current.congr (h : m.Current) (data : next.data = m.data)
    (viewKind : next.viewKind = m.viewKind) : next.Current := by
  have same : next.viewOf next.viewKind = m.viewOf m.viewKind := by
    unfold viewOf
    rw [data, viewKind]
  exact ⟨fun view derived => data ▸ h.derived view (same ▸ derived),
    fun f failed => data ▸ h.missing f (same ▸ failed)⟩

theorem Current.of_analysed {data : MeasurementData α} (analysed : m.analysed = .ok data) :
    ({ m with data } : Measurement α κ μ).Current := by
  obtain ⟨extraction, -, analysed⟩ := bind_eq_ok.mp analysed
  obtain ⟨estimates, -, analysed⟩ := bind_eq_ok.mp analysed
  obtain ⟨⟨signal, errors⟩, -, analysed⟩ := bind_eq_ok.mp analysed
  cases analysed
  constructor
  · intro view derived
    have own : View.of? m.viewKind m.data.axis signal = .ok view := derived
    simp only [own]
  · intro f failed
    have own : View.of? m.viewKind m.data.axis signal = .error f := failed
    simp only [own]

theorem Current.of_pull [Counter α κ] (pulled : (pull : Act α κ μ Unit) m = .ok ⟨⟩ next) :
    next.Current := by
  rcases pull_cases m with
    ⟨f, counter, -, other⟩ | ⟨reading, counter, -, ⟨f, -, other⟩ | ⟨data, _, analysed, same⟩⟩
  · cases pulled.symm.trans other
  · cases pulled.symm.trans other
  · cases pulled.symm.trans same
    exact (Current.of_analysed analysed).congr rfl rfl

/-- A selection that is granted is shown at once. -/
theorem Current.of_setView {kind answer : ViewKind}
    (selected : (setView kind : Act α κ μ ViewKind) m = .ok answer next) :
    next.viewKind = kind ∧ next.Current := by
  rcases setView_cases kind m with ⟨-, f, refused⟩ | ⟨f, -, failed⟩ | ⟨view, derived, done⟩
  · cases selected.symm.trans refused
  · cases selected.symm.trans failed
  · cases selected.symm.trans done
    have own : View.of? kind m.data.axis m.data.signal = .ok view := derived
    refine ⟨rfl, fun other found => ?_, fun f failed => ?_⟩
    · exact Except.ok.inj (own.symm.trans found)
    · cases own.symm.trans failed

end Current

/-! ## 3. Steps -/

/-- If the view that was shown was the selected one, then so is the view that is shown now. -/
def Viewing [Analytic α] (before after : Measurement α κ μ) : Prop := before.Viewed → after.Viewed

namespace Viewing

variable [Analytic α]

theorem refl (m : Measurement α κ μ) : Viewing m m := id

theorem trans (a b c : Measurement α κ μ) (first : Viewing a b) (second : Viewing b c) :
    Viewing a c :=
  second ∘ first

theorem of_sameResult {a b : Measurement α κ μ} (same : SameResult a b) : Viewing a b := by
  intro viewed v shown
  rw [same.view] at shown
  unfold viewOf
  rw [same.viewKind, same.axis, same.signal]
  exact viewed v shown

/-- Where nothing is shown there is nothing to be wrong. -/
theorem of_none {a b : Measurement α κ μ} (hidden : b.data.view = none) : Viewing a b := by
  intro _ v shown
  rw [hidden] at shown
  cases shown

theorem onCounter {β : Type} (act : Action α κ β) :
    Moves Viewing (Measurement.onCounter act : Act α κ μ β) := by
  intro m
  rw [onCounter_after]
  exact of_sameResult ⟨rfl, rfl, rfl, rfl, rfl, rfl⟩

theorem setView (kind : ViewKind) :
    Moves Viewing (Measurement.setView kind : Act α κ μ ViewKind) := by
  intro m
  rcases setView_cases kind m with ⟨-, f, refused⟩ | ⟨f, -, failed⟩ | ⟨view, derived, done⟩
  · rw [after_of_error refused]
    split
    · exact of_none rfl
    · exact refl m
  · rw [after_of_error failed]
    exact refl m
  · rw [after_of_ok done]
    exact fun _ => (Current.of_setView done).2.viewed

variable [Counter α κ]

/-- The settings of the measurement have no part in the view; the result is cleared for others. -/
theorem settling : Settling (Viewing (α := α) (κ := κ) (μ := μ)) where
  refl := refl
  trans := trans
  configure _ := onCounter _
  note _ _ _ := id
  clear _ := of_none rfl

/-- A reading keeps the view, and a result comes with its own. -/
theorem pull : Moves Viewing (Measurement.pull : Act α κ μ Unit) := by
  intro m
  rcases pull_cases m with
    ⟨f, counter, -, failed⟩ | ⟨reading, counter, -, ⟨f, -, failed⟩ | ⟨data, _, -, done⟩⟩
  · rw [after_of_error failed]
    exact of_sameResult ⟨rfl, rfl, rfl, rfl, rfl, rfl⟩
  · rw [after_of_error failed]
    obtain ⟨counts, sweeps, recalled, same⟩ := withReading_eq reading { m with counter }
    rw [same]
    exact of_sameResult ⟨rfl, rfl, rfl, rfl, rfl, rfl⟩
  · rw [after_of_ok done]
    exact fun _ => (Current.of_pull done).viewed

theorem careful : Careful (Viewing (α := α) (κ := κ) (μ := μ)) where
  refl := refl
  trans := trans
  startCounter := onCounter _
  stopCounter := onCounter _
  pauseCounter := onCounter _
  resumeCounter := onCounter _
  extraction params m := by
    rw [onExtraction_after]
    exact of_sameResult ⟨rfl, rfl, rfl, rfl, rfl, rfl⟩
  evaluation params m := by
    rw [onEvaluation_after]
    exact of_sameResult ⟨rfl, rfl, rfl, rfl, rfl, rfl⟩
  change _ _ _ same := of_sameResult same
  pull := pull
  invokeReadout := settling.invokeReadout
  clears _ _ := of_none rfl

variable [Microwave α μ]

theorem operation (op : Operation α) : Moves Viewing (op.run : Act α κ μ Unit) :=
  careful.operation settling.setSettings settling.setCounterSettings setView
    (fun _ _ => of_sameResult ⟨rfl, rfl, rfl, rfl, rfl, rfl⟩) op

theorem afterAll (ops : List (Operation α)) (m : Measurement α κ μ) :
    Viewing m (Measurement.afterAll ops m) :=
  afterAll_of_operation refl trans operation ops m

end Viewing

/-! ## 4. Runs -/

section Runs

variable [Analytic α] [Counter α κ]

variable [Microwave α μ] {m next : Measurement α κ μ}

end Runs

/-! Two rows, and their difference. -/

/-- A bright and a dim pulse in turn. -/
def twoPulses : MemoryCounter ℚ :=
  { (.fresh false : MemoryCounter ℚ) with
    pattern := some (.trace (pulseTrace 30 [4] 12 5 0 ++ pulseTrace 30 [4] 12 4 0)) }

end Measurement

end PulseBench
