import PulseBench.Proofs.Measure.Doing

/-!
# Starts, step by step

A start takes over the settings of the loaded asset, if it is asked for them, clears
the result, recalls the stashed run and switches the devices on, in this order. The
asset is checked first (`Unfit`), then the counter may refuse to be configured for it
(`Unconfigurable`), and then the devices may fail.

Results:
1. `invokeReadout_cases`: the settings of the asset.
2. `launch_cases`: clearing the result and switching the devices on.
3. `start_cases`, `start_of_ok`, `start_of_error`: a whole start, what it leaves when it
   succeeds, and how far it came when it fails.
-/

namespace PulseBench.Measurement

variable {α κ μ : Type}

open Action (Moves after after_of_ok after_of_error)

/-! ## 1. The settings of the asset -/

section Asset

/-- How the counts of the loaded asset are to be read, if it says so. -/
def readout? (m : Measurement α κ μ) : Option (Readout α) :=
  m.asset.bind fun info => info.metadata.readout

variable [Scalar α] [Counter α κ]

/-- The settings that a start goes by: those of the asset, if it is asked for them. -/
def sought (m : Measurement α κ μ) : MeasurementSettings α :=
  if m.settings.invoke then (m.readout?.map .ofReadout).getD m.settings else m.settings

/-- The settings that the counter should have to read the counts of an asset. -/
def settingsFor (readout : Readout α) (m : Measurement α κ μ) : CounterSettings α :=
  { m.counterSettings with
    recordLength := if 0.0 < readout.countingLength then readout.countingLength
      else m.counterSettings.recordLength
    gates := if Counter.isGated m.counter then readout.lasers else m.counterSettings.gates }

variable {m : Measurement α κ μ}

theorem invokeReadout_of_none (missing : m.readout? = none) :
    ∃ f, (invokeReadout : Act α κ μ Unit) m = .error f m := by
  unfold readout? at missing
  unfold invokeReadout
  rw [Action.bind_of_ok (Action.get_apply m)]
  cases loaded : m.asset with
  | none => exact ⟨_, rfl⟩
  | some info =>
    rw [loaded, Option.bind_some] at missing
    dsimp only
    rw [missing]
    exact ⟨_, rfl⟩

/-- Settings of an asset are noted before the counter is asked, and the result is cleared behind. -/
theorem invokeReadout_of_some {readout : Readout α} (found : m.readout? = some readout) :
    (invokeReadout : Act α κ μ Unit) m =
      (do
        if m.settingsFor readout != m.counterSettings then configure (m.settingsFor readout)
        modify clearData : Act α κ μ Unit) { m with settings := .ofReadout readout } := by
  unfold readout? at found
  obtain ⟨info, loaded, found⟩ := Option.bind_eq_some_iff.mp found
  unfold invokeReadout
  rw [Action.bind_of_ok (Action.get_apply m)]
  conv =>
    lhs
    rw [loaded]
  dsimp only
  rw [found]
  rfl

/-- Whether the counter is asked for other settings and refuses them. -/
def Unconfigurable (m : Measurement α κ μ) : Prop :=
  m.settings.invoke = true ∧ ∃ readout, m.readout? = some readout ∧
    (m.settingsFor readout != m.counterSettings) = true ∧ ∃ f counter,
      (Counter.configure (m.settingsFor readout) : Action α κ _) m.counter = .error f counter

/-- Settings of an asset are refused if the counter refuses; otherwise the result is cleared. -/
theorem invokeReadout_cases (invokes : m.settings.invoke = true) {readout : Readout α}
    (found : m.readout? = some readout) :
    (m.Unconfigurable ∧ ∃ f counter, (invokeReadout : Act α κ μ Unit) m =
      .error f { m with settings := m.sought, counter }) ∨
    ¬ m.Unconfigurable ∧ ∃ counter counterSettings, (invokeReadout : Act α κ μ Unit) m =
      .ok ⟨⟩ { m with
        settings := m.sought, counter, counterSettings
        data := .blank m.sought counterSettings } := by
  have same : m.sought = .ofReadout readout := by
    unfold sought
    rw [if_pos invokes, found]
    rfl
  rw [invokeReadout_of_some found, same]
  by_cases needed : (m.settingsFor readout != m.counterSettings) = true
  · simp only [needed, if_true]
    cases asked : (Counter.configure (m.settingsFor readout) : Action α κ _) m.counter with
    | error f counter =>
      exact Or.inl ⟨⟨invokes, readout, found, needed, f, counter, asked⟩, f, counter,
        Action.bind_of_error (configure_error asked)⟩
    | ok used counter =>
      refine Or.inr ⟨?_, counter, used,
        Action.bind_of_ok (configure_ok (m := { m with settings := .ofReadout readout }) asked)⟩
      rintro ⟨-, other, known, -, f, behind, refused⟩
      cases known.symm.trans found
      cases refused.symm.trans asked
  · simp only [needed]
    refine Or.inr ⟨?_, m.counter, m.counterSettings, rfl⟩
    rintro ⟨-, other, known, changes, -⟩
    cases known.symm.trans found
    exact needed changes

/-- The asset that is loaded is compiled or uploaded. -/
def Busy (guard : AssetGuard) (m : Measurement α κ μ) : Prop :=
  ∃ info, m.asset = some info ∧ guard.isBusy info.asset.name = true

/-- The asset does not allow a start: it is busy, or there are no settings to take over. -/
def Unfit (guard : AssetGuard) (m : Measurement α κ μ) : Prop :=
  m.Busy guard ∨ (m.settings.invoke = true ∧ m.readout? = none)

end Asset

/-! ## 2. Clearing the result -/

section Launching

variable [Counter α κ] [Microwave α μ]

theorem onlyDevices_startDevices : Moves OnlyDevices (startDevices : Act α κ μ Unit) := by
  have off := Moves.outcome (OnlyDevices.switchMicrowave (α := α) (κ := κ) (μ := μ) false)
  refine Moves.bind OnlyDevices.trans (OnlyDevices.switchMicrowave true) fun _ => ?_
  refine Moves.bind OnlyDevices.trans (Moves.outcome (OnlyDevices.onCounter _)) fun outcome => ?_
  cases outcome with
  | ok _ => exact OnlyDevices.refl
  | error f => exact Moves.bind OnlyDevices.trans off fun _ => OnlyDevices.refl

variable [Scalar α]

/-- The measurement as it is when its devices are switched on: the result is gone, and the stashed
run is recalled. -/
def readied (tag : Option String) (m : Measurement α κ μ) : Measurement α κ μ :=
  { m.clearData with recalled := tag.bind m.stash.get? }

/-- The devices fail, or it runs. -/
theorem launch_cases (tag : Option String) (m : Measurement α κ μ) :
    (∃ f next, (launch tag : Act α κ μ Unit) m = .error f next ∧
      OnlyDevices (m.readied tag) next) ∨
    ∃ next outbox, (launch tag : Act α κ μ Unit) m = .ok ⟨⟩ next ∧
      OnlyDevices { m.readied tag with state := .running, outbox } next := by
  have opening : (launch tag : Act α κ μ Unit) m = (do
      startDevices
      setState .running : Act α κ μ Unit) (m.readied tag) := by
    unfold launch
    rw [Action.bind_of_ok (Action.modify_apply _ m)]
    rfl
  have moved := onlyDevices_startDevices (m.readied tag)
  rw [opening]
  cases done : (startDevices : Act α κ μ Unit) (m.readied tag) with
  | error f next =>
    rw [after_of_error done] at moved
    exact Or.inl ⟨f, next, Action.bind_of_error done, moved⟩
  | ok _ next =>
    rw [after_of_ok done] at moved
    obtain ⟨counter, microwave, rfl⟩ := moved
    exact Or.inr ⟨_, _, Action.bind_of_ok done, counter, microwave, rfl⟩

end Launching

/-! ## 3. Whole starts -/

section Starting

variable [Analytic α] [Counter α κ] [Microwave α μ] {m next : Measurement α κ μ}
  {guard : AssetGuard} {tag : Option String}

omit [Analytic α] [Counter α κ] [Microwave α μ] in
/-- Only a busy asset is not ready. -/
theorem ensureAssetReady_cases (guard : AssetGuard) (m : Measurement α κ μ) :
    (m.Busy guard ∧ ∃ f, m.ensureAssetReady guard = .error f) ∨
    ¬ m.Busy guard ∧ m.ensureAssetReady guard = .ok ⟨⟩ := by
  unfold Busy ensureAssetReady
  cases m.asset with
  | none => exact Or.inr ⟨nofun, rfl⟩
  | some info =>
    by_cases busy : guard.isBusy info.asset.name = true
    · exact Or.inl ⟨⟨info, rfl, busy⟩, _, if_pos busy⟩
    · refine Or.inr ⟨?_, if_neg busy⟩
      rintro ⟨_, ⟨⟩, other⟩
      exact busy other

/-- An idle measurement is started unless its asset is busy. -/
theorem start_of_idle (idle : m.state = .idle) (guard : AssetGuard) (tag : Option String) :
    (m.Busy guard ∧ ∃ f, start guard tag m = .error f m) ∨
    ¬ m.Busy guard ∧ start guard tag m =
      (do
        if m.settings.invoke then invokeReadout
        launch tag : Act α κ μ Unit) m := by
  unfold start
  rw [Action.bind_of_ok (Action.get_apply m), ensureIdle_of_idle _ idle,
    Action.bind_of_ok (Action.lift_ok _ m), Action.bind_of_ok (Action.get_apply m)]
  rcases ensureAssetReady_cases guard m with ⟨busy, f, refused⟩ | ⟨free, ready⟩
  · rw [refused, Action.bind_of_error (Action.lift_error f m)]
    exact Or.inl ⟨busy, f, rfl⟩
  · rw [ready, Action.bind_of_ok (Action.lift_ok _ m), Action.bind_of_ok (Action.get_apply m)]
    exact Or.inr ⟨free, rfl⟩

/-- The asset does not allow a start, or the counter refuses the settings of the asset; else the
measurement starts with the settings that it goes by, and with what the counter made of them. -/
theorem start_cases (idle : m.state = .idle) (guard : AssetGuard) (tag : Option String) :
    (m.Unfit guard ∧ ∃ f, start guard tag m = .error f m) ∨
    (¬ m.Unfit guard ∧ m.Unconfigurable ∧ ∃ f counter,
      start guard tag m = .error f { m with settings := m.sought, counter }) ∨
    ¬ m.Unfit guard ∧ ¬ m.Unconfigurable ∧ ∃ counter counterSettings data,
      start guard tag m =
        launch tag { m with settings := m.sought, counter, counterSettings, data } := by
  rcases start_of_idle idle guard tag with ⟨busy, refused⟩ | ⟨free, launched⟩
  · exact Or.inl ⟨Or.inl busy, refused⟩
  · rw [launched]
    by_cases invokes : m.settings.invoke = true
    · rw [if_pos invokes]
      cases found : m.readout? with
      | none =>
        obtain ⟨f, refused⟩ := invokeReadout_of_none found
        exact Or.inl ⟨Or.inr ⟨invokes, found⟩, f, Action.bind_of_error refused⟩
      | some readout =>
        have fit : ¬ m.Unfit guard := by
          rintro (busy | ⟨-, missing⟩)
          · exact free busy
          · cases missing.symm.trans found
        rcases invokeReadout_cases invokes found with
          ⟨refuses, f, counter, refused⟩ | ⟨allows, counter, counterSettings, done⟩
        · exact Or.inr (Or.inl ⟨fit, refuses, f, counter, Action.bind_of_error refused⟩)
        · exact Or.inr (Or.inr ⟨fit, allows, counter, counterSettings, _, Action.bind_of_ok done⟩)
    · rw [if_neg invokes]
      have same : m.sought = m.settings := if_neg invokes
      have fit : ¬ m.Unfit guard := by
        rintro (busy | ⟨asks, -⟩)
        · exact free busy
        · exact invokes asks
      rw [same]
      exact Or.inr (Or.inr ⟨fit, fun refuses => invokes refuses.1, m.counter, m.counterSettings,
        m.data, rfl⟩)

/-- What a failed start leaves: everything as it was; or the settings of the asset, which the
counter refuses; or these settings, a blank result and the run to go on with, if the devices do not
start. -/
theorem start_of_error {f : Failure α} (idle : m.state = .idle)
    (failed : start guard tag m = .error f next) :
    (m.Unfit guard ∧ next = m) ∨
    (¬ m.Unfit guard ∧ m.Unconfigurable ∧ ∃ counter,
      next = { m with settings := m.sought, counter }) ∨
    ¬ m.Unfit guard ∧ ¬ m.Unconfigurable ∧ ∃ counterSettings, OnlyDevices
      { m with
        settings := m.sought, counterSettings, data := .blank m.sought counterSettings
        recalled := tag.bind m.stash.get? } next := by
  rcases start_cases idle guard tag with
    ⟨unfit, g, same⟩ | ⟨fit, refuses, g, counter, same⟩ |
    ⟨fit, allows, counter, counterSettings, data, same⟩
  · cases failed.symm.trans same
    exact Or.inl ⟨unfit, rfl⟩
  · cases failed.symm.trans same
    exact Or.inr (Or.inl ⟨fit, refuses, counter, rfl⟩)
  · rcases launch_cases tag { m with settings := m.sought, counter, counterSettings, data } with
      ⟨g, _, stuck, began, microwave, rfl⟩ | ⟨_, _, done, -⟩
    · cases failed.symm.trans (same.trans stuck)
      exact Or.inr (Or.inr ⟨fit, allows, counterSettings, began, microwave, rfl⟩)
    · cases failed.symm.trans (same.trans done)

/-- Only an idle measurement starts. It runs with a blank result then, and goes on with the stashed
run. -/
theorem start_of_ok (started : start guard tag m = .ok ⟨⟩ next) :
    m.state = .idle ∧ ∃ counterSettings outbox, OnlyDevices
      { m with
        settings := m.sought, counterSettings, data := .blank m.sought counterSettings
        recalled := tag.bind m.stash.get?, state := .running, outbox } next := by
  rcases ensureIdle_cases "the run state" m with ⟨idle, -⟩ | ⟨-, f, refused⟩
  · refine ⟨idle, ?_⟩
    rcases start_cases idle guard tag with
      ⟨-, g, same⟩ | ⟨-, -, g, counter, same⟩ | ⟨-, -, counter, counterSettings, data, same⟩
    · cases started.symm.trans same
    · cases started.symm.trans same
    · rcases launch_cases tag { m with settings := m.sought, counter, counterSettings, data } with
        ⟨g, _, stuck, -⟩ | ⟨_, outbox, done, began, microwave, only⟩
      · cases started.symm.trans (same.trans stuck)
      · cases started.symm.trans (same.trans done)
        exact ⟨counterSettings, outbox, began, microwave, only⟩
  · unfold start at started
    rw [Action.bind_of_ok (Action.get_apply m), refused,
      Action.bind_of_error (Action.lift_error f m)] at started
    cases started

end Starting

end PulseBench.Measurement
