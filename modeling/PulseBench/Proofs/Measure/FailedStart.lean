import PulseBench.Proofs.Measure.Continued
import PulseBench.Proofs.Measure.Starting

/-!
# Starts that fail

A start that fails should leave the last result as if it had never been asked for
(`Intact`). It does only if the asset did not allow it, or if there was nothing to
lose: a device fails when settings and result are already gone.

What a later refresh will report is compared whatever the counter answers then. It
tells not only results apart, but also the runs that a measurement goes on with:
behind a failed start, a refresh adds the recalled run to its counts.

Results:
1. `recalled_eq_of_reportsSame`: refreshes tell the recalled runs apart.
2. `failed_start_intact_iff`: which failed starts leave the last result intact.
-/

namespace PulseBench.Measurement

variable {α κ μ : Type}

open Action (after)

/-! ## 1. What later refreshes tell -/

section Reports

variable [Analytic α] [Counter α κ] [Microwave α μ]

/-- What a refresh reports: whether it fails, and the result behind it. -/
def reported (m : Measurement α κ μ) : Except (Failure α) Unit × MeasurementData α :=
  (((refresh : Act α κ μ Unit).run m).1, ((refresh : Act α κ μ Unit).after m).data)

/-- The measurement with other devices. -/
def connect {κ' : Type} (counter : κ') (microwave : Option μ) (m : Measurement α κ μ) :
    Measurement α κ' μ :=
  { m with counter, microwave }

/-- Two measurements report the same on any counter, whatever it answers, and with any source. -/
def ReportsSame (a b : Measurement α κ μ) : Prop :=
  ∀ (κ' : Type) [Counter α κ'] (counter : κ') (microwave : Option μ),
    (a.connect counter microwave).reported = (b.connect counter microwave).reported

end Reports

section Recalled

/-- A counter that answers zeros in some number of bins, and no sweeps. -/
def darkCounter (α : Type) [Scalar α] (bins : Nat) : MemoryCounter α :=
  { (.fresh false : MemoryCounter α) with accumulated := some (.trace (List.replicate bins 0)) }

/-- What it answers. -/
def darkRun (bins : Nat) : StashedRun := ⟨.trace (List.replicate bins 0), 0⟩

theorem isZero_darkRun (bins : Nat) : (darkRun bins).counts.isZero = true := by
  simp [darkRun, Counts.isZero, Counts.values]

variable [Analytic α] [Microwave α μ] {a b : Measurement α κ μ}

/-- As long as nothing is counted, a refresh shows the recalled run alone. -/
theorem reported_dark (m : Measurement α κ μ) (bins : Nat) :
    let shown := (m.connect (darkCounter α bins) none).reported.2
    m.recalled.getD (darkRun bins) = ⟨shown.counts, shown.sweeps⟩ := by
  obtain ⟨counter, answered⟩ : ∃ counter,
      (Counter.read : Action α (MemoryCounter α) Reading)
        (m.connect (darkCounter α bins) none).counter =
        .ok ⟨(darkRun bins).counts, some 0⟩ counter := ⟨_, rfl⟩
  obtain ⟨data, outbox, pulled, counts, sweeps⟩ := pull_after answered
  have shows : (m.connect (darkCounter α bins) none).reported.2 = data := by
    rw [reported, refresh_data, pulled]
  simp only [shows, counts, sweeps]
  unfold withReading connect
  cases m.recalled with
  | none => rfl
  | some run =>
    simp only [continued?, isZero_darkRun, if_true, Option.getD_some, Nat.zero_add]

/-- Refreshes tell the recalled runs apart. -/
theorem recalled_eq_of_reportsSame (same : ReportsSame a b) : a.recalled = b.recalled := by
  have agree (bins : Nat) : a.recalled.getD (darkRun bins) = b.recalled.getD (darkRun bins) := by
    rw [reported_dark, reported_dark, same (MemoryCounter α) (darkCounter α bins) none]
  have differ : darkRun 0 ≠ darkRun 1 := by decide
  cases left : a.recalled with
  | none =>
    cases right : b.recalled with
    | none => rfl
    | some run =>
      rw [left, right] at agree
      exact absurd ((agree 0).trans (agree 1).symm) differ
  | some run =>
    rw [left] at agree
    cases right : b.recalled with
    | none =>
      rw [right] at agree
      exact absurd ((agree 0).symm.trans (agree 1)) differ
    | some other =>
      rw [right] at agree
      exact congrArg some (agree 0)

end Recalled

/-! ## 2. Which failed starts leave the last result -/

/-- What a failed start should leave as it was. -/
structure Intact [Analytic α] [Counter α κ] [Microwave α μ] (before after : Measurement α κ μ) :
    Prop where
  idle : after.state = .idle
  data : after.data = before.data
  settings : after.settings = before.settings
  counterSettings : after.counterSettings = before.counterSettings
  reports : ReportsSame before after

theorem OnlyDevices.intact [Analytic α] [Counter α κ] [Microwave α μ] {m next : Measurement α κ μ}
    (same : OnlyDevices m next) (idle : m.state = .idle) : Intact m next := by
  obtain ⟨counter, microwave, rfl⟩ := same
  exact ⟨idle, rfl, rfl, rfl, fun _ _ _ _ => rfl⟩

/-- A start that an idle measurement fails leaves it idle, whatever asset is loaded, whatever run it
was to go on with, and whatever failed. The last result, the settings and what later refreshes will
report stay in these cases, and in no other: the asset did not allow the start; or the settings of
the asset were the present ones already, and the counter refused to be configured for it, or it was
configured as before, there was no result yet, and the run to go on with was recalled before. -/
theorem failed_start_intact_iff [Analytic α] [Counter α κ] [Microwave α μ]
    {m next : Measurement α κ μ} (idle : m.state = .idle) {guard : AssetGuard}
    {tag : Option String} {f : Failure α} (failed : start guard tag m = .error f next) :
    next.state = .idle ∧
    (Intact m next ↔ m.Unfit guard ∨ m.sought = m.settings ∧
      (m.Unconfigurable ∨ next.counterSettings = m.counterSettings ∧
        m.data = .blank m.settings m.counterSettings ∧ m.recalled = tag.bind m.stash.get?)) := by
  rcases start_of_error idle failed with
    ⟨unfit, rfl⟩ | ⟨fit, refuses, counter, rfl⟩ |
    ⟨fit, allows, counterSettings, counter, microwave, rfl⟩
  · exact ⟨idle, iff_of_true ((OnlyDevices.refl _).intact idle) (Or.inl unfit)⟩
  · refine ⟨idle, fun intact => Or.inr ⟨intact.settings, Or.inl refuses⟩, ?_⟩
    rintro (unfit | ⟨same, -⟩)
    · exact absurd unfit fit
    · have only : OnlyDevices m { m with settings := m.sought, counter } :=
        ⟨counter, m.microwave, by rw [same]⟩
      exact only.intact idle
  · refine ⟨idle, fun intact => Or.inr ⟨intact.settings, Or.inr ⟨intact.counterSettings, ?_,
      recalled_eq_of_reportsSame intact.reports⟩⟩, ?_⟩
    · have cleared : MeasurementData.blank m.sought counterSettings = m.data := intact.data
      have settings : m.sought = m.settings := intact.settings
      have configured : counterSettings = m.counterSettings := intact.counterSettings
      rw [← cleared, settings, configured]
    · rintro (unfit | ⟨same, refuses | ⟨configured, blank, recalled⟩⟩)
      · exact absurd unfit fit
      · exact absurd refuses allows
      · dsimp only at configured
        refine OnlyDevices.intact ⟨counter, microwave, ?_⟩ idle
        rw [same, configured, ← blank, ← recalled]

/-! A counter that is started once, and then no more. -/

/-- Counts one pulse of twelve bins in every sweep, and does not start from the fifth call on. -/
def startedOnce : FaultyCounter (MemoryCounter ℚ) :=
  .under ⟨fun call n => call = .start && decide (5 ≤ n), false⟩ pulsing

/-- An ensemble of which nothing is known. -/
def plainEnsemble : AssetInfo ℚ := ⟨⟨"pulse", .ensemble⟩, ⟨none, none⟩, ""⟩

/-- One sweep is counted and stashed. Then an ensemble is loaded; while it is compiled a start is
refused, and the result of that sweep stays. -/
theorem failed_start_intact_busy :
    ∃ m, ofDevices { benchOptions with evaluation := "sum" } startedOnce
        (none : Option (MemoryMicrowave ℚ)) = .ok m ∧
      let last := afterAll (stashOnce ++ [.setAsset (some plainEnsemble)]) m
      ∃ f next, start (AssetGuard.idle.mark "pulse") (some "run") last = .error f next ∧
        Intact last next ∧ next.data.refreshes = 1 := by
  have ran : (match ofDevices { benchOptions with evaluation := "sum" } startedOnce
      (none : Option (MemoryMicrowave ℚ)) with
    | .ok m =>
      let last := afterAll (stashOnce ++ [.setAsset (some plainEnsemble)]) m
      (match start (AssetGuard.idle.mark "pulse") (some "run") last with
        | .ok _ _ => false
        | .error _ _ => true) &&
      last.state == .idle && last.data.refreshes == 1 &&
      last.asset.any fun info => (AssetGuard.idle.mark "pulse").isBusy info.asset.name
    | .error _ => false) = true := by decide +kernel
  cases began : ofDevices { benchOptions with evaluation := "sum" } startedOnce
      (none : Option (MemoryMicrowave ℚ)) with
  | error f => rw [began] at ran; cases ran
  | ok m =>
    rw [began] at ran
    simp only [Bool.and_eq_true, beq_iff_eq, Option.any_eq_true] at ran
    obtain ⟨⟨⟨refused, idle⟩, once⟩, busy⟩ := ran
    refine ⟨m, rfl, ?_⟩
    intro last
    cases failed : start (AssetGuard.idle.mark "pulse") (some "run") last with
    | ok _ next => rw [failed] at refused; cases refused
    | error f next =>
      have intact := (failed_start_intact_iff idle failed).2.mpr (Or.inl (Or.inl busy))
      exact ⟨f, next, rfl, intact, (congrArg _ intact.data).trans once⟩

/-- Without the ensemble it is the counter that fails, and that result is gone. -/
theorem not_intact_of_startedOnce :
    ∃ m, ofDevices { benchOptions with evaluation := "sum" } startedOnce
        (none : Option (MemoryMicrowave ℚ)) = .ok m ∧
      let last := afterAll stashOnce m
      last.state = .idle ∧ last.data.refreshes = 1 ∧
      ∃ f next, start .idle (some "run") last = .error f next ∧
        ¬ Intact last next ∧ next.data.refreshes = 0 := by
  have ran : (match ofDevices { benchOptions with evaluation := "sum" } startedOnce
      (none : Option (MemoryMicrowave ℚ)) with
    | .ok m =>
      let last := afterAll stashOnce m
      (match start .idle (some "run") last with
        | .ok _ _ => none
        | .error _ next => some (last.state, last.data.refreshes, next.data.refreshes))
    | .error _ => none) = some (.idle, 1, 0) := by decide +kernel
  cases began : ofDevices { benchOptions with evaluation := "sum" } startedOnce
      (none : Option (MemoryMicrowave ℚ)) with
  | error f => rw [began] at ran; cases ran
  | ok m =>
    rw [began] at ran
    dsimp only at ran
    refine ⟨m, rfl, ?_⟩
    intro last
    cases failed : start .idle (some "run") last with
    | ok _ next => rw [failed] at ran; cases ran
    | error f next =>
      rw [failed, Option.some.injEq, Prod.mk.injEq, Prod.mk.injEq] at ran
      obtain ⟨idle, once, never⟩ := ran
      refine ⟨idle, once, f, next, rfl, fun intact => ?_, never⟩
      rw [intact.data, once] at never
      cases never

end PulseBench.Measurement
