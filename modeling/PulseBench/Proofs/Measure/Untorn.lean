import PulseBench.Proofs.Measure.Blameless
import PulseBench.Proofs.Measure.Coupling

/-!
# A refresh is all or nothing

A refresh reads the counter, finds the laser pulses in the counts, evaluates them
and arranges the estimates. Every one of these steps may fail. If one does, then
everything that was worked out before stays as it was, and only the counts may be
newer; if it was a device that failed then not even these (`Untorn`). If none
does, then the result behind the refresh belongs to one reading throughout
(`Refreshed`).

Three operations refresh: a tick of the clock, a request, and a stop. They differ
in what they do after a failure (`Abandoned`), but none of them touches the
result.

Results:
1. `ofDevices_dependable`, `dependable_sturdy`: devices and methods can be relied
   on throughout a run.
2. `refreshed_of_pull`, `untorn_of_pull`: a refresh by itself.
3. `tick_outcome`, `refresh_outcome`, `stop_outcome`: the operations that refresh.
4. `refresh_never_tears`: what a refresh does in any state of any run.
-/

namespace PulseBench.Measurement

variable {α κ μ : Type}

open Action (Moves after after_of_ok after_of_error)

/-! ## 1. Devices and methods -/

section Devices

variable [Analytic α] [Counter α κ] {m : Measurement α κ μ}

/-- The same methods can be selected. -/
def SameRegistry {ρ : Type} (before after : Selection α ρ) : Prop :=
  after.registry = before.registry

omit [Analytic α] [Counter α κ] in
/-- New parameters may select another method, but one out of the same registry. -/
theorem setParameters_sameRegistry [Scalar α] {ρ : Type} (params : ParamSet α) :
    Moves (SameRegistry (ρ := ρ)) (Selection.setParameters params) := by
  have refl (s : Selection α ρ) : SameRegistry s s := rfl
  have trans (a b c : Selection α ρ) (first : SameRegistry a b) (second : SameRegistry b c) :
      SameRegistry a c := second.trans first
  have store (merge : ParamSet α → ParamSet α) : Moves SameRegistry (do
      let s ← get
      let m ← Action.lift s.method
      let known ← Action.lift s.parameters
      let resolved ← Action.lift (m.schema.resolve (merge known))
      set { s with stored := s.stored.insert s.current resolved }
      return resolved : Action α (Selection α ρ) (ParamSet α)) := by
    -- What is stored goes into the selection that was read, so its state is followed here.
    refine Moves.get_bind fun s => ?_
    refine Action.lift_bind_after (refl s) _ fun m _ => ?_
    refine Action.lift_bind_after (refl s) _ fun known _ => ?_
    exact Action.lift_bind_after (refl s) _ fun resolved _ => rfl
  unfold Selection.setParameters
  split
  · refine Moves.bind trans (Moves.get_bind fun s => ?_) fun _ => store _
    split
    · rfl
    · rfl
  · exact refl
  · exact store _

/-- Devices and methods can be relied on. -/
structure Dependable (counts : CounterView α κ) (m : Measurement α κ μ) : Prop where
  sound : counts.sound m.counter
  innocent : m.Innocent

variable {counts : CounterView α κ}

/-- Whatever is done with a measurement, it can be relied on behind it as before. -/
theorem dependable_sturdy (counts : CounterView α κ) :
    Sturdy fun before after : Measurement α κ μ =>
      Dependable counts before → Dependable counts after := by
  have calling {β : Type} {act : Action α κ β}
      (kept : ∀ c, counts.sound c → counts.sound (act.after c)) :
      Moves (fun before after : Measurement α κ μ => Dependable counts before →
        Dependable counts after) (onCounter act) := by
    intro m h
    rw [onCounter_after]
    exact ⟨kept m.counter h.sound, h.innocent.congr rfl rfl⟩
  have answering {act : Action α κ Unit}
      (works : ∀ c, counts.sound c → ∃ next, act c = .ok ⟨⟩ next ∧ counts.sound next) :
      ∀ c, counts.sound c → counts.sound (act.after c) := by
    intro c sound
    obtain ⟨next, done, sound'⟩ := works c sound
    rw [after_of_ok done]
    exact sound'
  refine ⟨⟨fun _ => id, fun _ _ _ first second => second ∘ first, ?_, ?_, ?_, ?_, ?_, ?_, ?_, ?_,
    ?_⟩, fun m asset h => ⟨h.sound, h.innocent.congr rfl rfl⟩⟩
  · exact fun requested => calling fun c sound => (counts.configure c sound requested).1
  · exact calling fun c sound => (counts.read c sound).1
  · refine calling (answering fun c sound => ?_)
    obtain ⟨next, done, sound', -⟩ := counts.start c sound
    exact ⟨next, done, sound'⟩
  · refine calling (answering fun c sound => ?_)
    obtain ⟨next, done, sound', -⟩ := counts.stop c sound
    exact ⟨next, done, sound'⟩
  · refine calling (answering fun c sound => ?_)
    obtain ⟨next, done, sound', -⟩ := counts.pause c sound
    exact ⟨next, done, sound'⟩
  · refine calling (answering fun c sound => ?_)
    obtain ⟨next, done, sound', -⟩ := counts.resume c sound
    exact ⟨next, done, sound'⟩
  · intro params m h
    rw [onExtraction_after]
    exact ⟨h.sound, h.innocent.congr (setParameters_sameRegistry params m.extraction) rfl⟩
  · intro params m h
    rw [onEvaluation_after]
    exact ⟨h.sound, h.innocent.congr rfl (setParameters_sameRegistry params m.evaluation)⟩
  · intro a b same h
    refine ⟨?_, h.innocent.congr (congrArg _ same.extraction) (congrArg _ same.evaluation)⟩
    rw [same.counter]
    exact h.sound

/-- A new measurement can be relied on if its counter can. -/
theorem ofDevices_dependable {options : MeasurementOptions} {counter : κ} {microwave : Option μ}
    (sound : counts.sound counter) (started : ofDevices options counter microwave = .ok m) :
    Dependable counts m := by
  have new := ofDevices_new started
  obtain ⟨requested, used, done⟩ := new.configured
  have sound' := (counts.configure counter sound requested).1
  rw [after_of_ok done] at sound'
  refine ⟨sound', ⟨?_, ?_⟩⟩
  · rw [new.extraction]
    exact ExtractionMethod.registry_innocent _
  · rw [new.evaluation]
    exact EvaluationMethod.registry_innocent _

end Devices

/-! ## 2. A refresh -/

section Definitions

variable [Analytic α]

/-- These laser pulses are what the selected method extracts from the counts. -/
def Extracts (m : Measurement α κ μ) (counts : Counts) (lasers : Grid Nat) : Prop :=
  ∃ method params extraction, m.extraction.method = .ok method ∧
    m.extraction.parameters = .ok params ∧
    ExtractionMethod.extract method counts m.extractionContext params = .ok extraction ∧
    extraction.counts = lasers

/-- These estimates are what the selected method makes of the laser pulses; without any count they
are zero. -/
def Evaluates (m : Measurement α κ μ) (lasers : Grid Nat) (estimates : List (Estimate α)) : Prop :=
  if lasers.values.all (· == 0) then estimates = List.replicate lasers.rowCount .zero
  else ∃ method params, m.evaluation.method = .ok method ∧ m.evaluation.parameters = .ok params ∧
    EvaluationMethod.evaluate method lasers m.counterSettings.binWidth params = .ok estimates

/-- Every part of the result belongs to one reading of the counter. -/
structure Refreshed [Counter α κ] (before : Measurement α κ μ) (after : MeasurementData α) :
    Prop where
  read : ∃ reading counter, (Counter.read : Action α κ Reading) before.counter =
    .ok reading counter ∧ after.counts = (withReading reading before).data.counts ∧
      after.sweeps = (withReading reading before).data.sweeps
  lasers : Extracts before after.counts after.lasers
  signal : ∃ estimates, Evaluates before after.lasers estimates ∧
    before.settings.arrange estimates = .ok (after.signal, after.errors)
  axis : after.axis = before.data.axis
  view : ∀ view, View.of? before.viewKind after.axis after.signal = .ok view → after.view = view
  refreshes : after.refreshes = before.data.refreshes + 1

end Definitions

/-- Behind a failure nothing that was worked out differs. Counts are only new if no device
failed. -/
structure Untorn (f : Failure α) (before after : MeasurementData α) : Prop where
  axis : after.axis = before.axis
  signal : after.signal = before.signal
  errors : after.errors = before.errors
  view : after.view = before.view
  lasers : after.lasers = before.lasers
  refreshes : after.refreshes = before.refreshes
  counts : f.isHardware = true → after.counts = before.counts
  sweeps : f.isHardware = true → after.sweeps = before.sweeps

theorem Untorn.unchanged (f : Failure α) (data : MeasurementData α) : Untorn f data data :=
  ⟨rfl, rfl, rfl, rfl, rfl, rfl, fun _ => rfl, fun _ => rfl⟩

/-- What a reading does to the result depends on the result and the recalled run only. -/
theorem withReading_data_congr (m next : Measurement α κ μ) (data : next.data = m.data)
    (recalled : next.recalled = m.recalled) (reading : Reading) :
    (withReading reading next).data = (withReading reading m).data := by
  unfold withReading
  rw [data, recalled]
  cases m.recalled with
  | none => rfl
  | some run =>
    dsimp only
    cases continued? run reading.counts with
    | none => rfl
    | some counts => rfl

variable [Analytic α] {m : Measurement α κ μ}

theorem extracts_of_ok {extraction : Extraction} (h : m.extractLasers = .ok extraction) :
    Extracts m m.data.counts extraction.counts := by
  obtain ⟨method, selected, h⟩ := bind_eq_ok.mp h
  obtain ⟨params, stored, h⟩ := bind_eq_ok.mp h
  exact ⟨method, params, extraction, selected, stored, h, rfl⟩

theorem evaluates_of_ok {lasers : Grid Nat} {estimates : List (Estimate α)}
    (h : m.evaluateLasers lasers = .ok estimates) : Evaluates m lasers estimates := by
  unfold evaluateLasers at h
  unfold Evaluates
  split
  · rename_i dark
    rw [if_pos dark] at h
    cases h
    rfl
  · rename_i lit
    rw [if_neg lit] at h
    obtain ⟨method, selected, h⟩ := bind_eq_ok.mp h
    obtain ⟨params, stored, h⟩ := bind_eq_ok.mp h
    exact ⟨method, params, selected, stored, h⟩

variable [Counter α κ]

/-- Counts that can be evaluated give a whole result. -/
theorem refreshed_of_analysed {reading : Reading} {counter : κ}
    (read : (Counter.read : Action α κ Reading) m.counter = .ok reading counter)
    {data : MeasurementData α}
    (analysed : (withReading reading { m with counter }).analysed = .ok data) :
    Refreshed m data := by
  have counted := withReading_data_congr m { m with counter } rfl rfl reading
  obtain ⟨counts, sweeps, recalled, same⟩ := withReading_eq reading { m with counter }
  rw [same] at analysed counted
  obtain ⟨extraction, extracted, analysed⟩ := bind_eq_ok.mp analysed
  obtain ⟨estimates, evaluated, analysed⟩ := bind_eq_ok.mp analysed
  obtain ⟨⟨signal, errors⟩, arranged, analysed⟩ := bind_eq_ok.mp analysed
  cases analysed
  exact {
    read := ⟨reading, counter, read, by rw [← counted], by rw [← counted]⟩
    lasers := extracts_of_ok extracted
    signal := ⟨estimates, evaluates_of_ok evaluated, arranged⟩
    axis := rfl
    view := fun view derived => by simp only [derived]
    refreshes := rfl }

theorem refreshed_of_pull {next : Measurement α κ μ}
    (pulled : (pull : Act α κ μ Unit) m = .ok ⟨⟩ next) : Refreshed m next.data := by
  rcases pull_cases m with
    ⟨f, counter, -, other⟩ | ⟨reading, counter, read, ⟨f, -, other⟩ | ⟨_, _, analysed, same⟩⟩
  · cases pulled.symm.trans other
  · cases pulled.symm.trans other
  · cases pulled.symm.trans same
    exact refreshed_of_analysed read analysed

variable {counts : CounterView α κ}

/-- A failed refresh leaves the last result, and the state. -/
theorem untorn_of_pull (h : Dependable counts m) {f : Failure α}
    {behind : Measurement α κ μ} (pulled : (pull : Act α κ μ Unit) m = .error f behind) :
    Dependable counts behind ∧ behind.state = m.state ∧ Untorn f m.data behind.data := by
  have kept := (dependable_sturdy counts).gentle.pull m h
  rw [after_of_error pulled] at kept
  refine ⟨kept, ?_⟩
  rcases pull_cases m with
    ⟨_, counter, -, same⟩ | ⟨reading, counter, -, ⟨_, analysed, same⟩ | ⟨_, _, -, other⟩⟩
  · cases pulled.symm.trans same
    exact ⟨rfl, .unchanged f _⟩
  · cases pulled.symm.trans same
    refine ⟨(sameRun_withReading reading { m with counter }).state, ?_⟩
    -- Behind the reading no device is asked any more.
    have software : f.isHardware ≠ true :=
      Bool.eq_false_iff.mp (analysed_blameless kept.innocent f analysed)
    obtain ⟨counts, sweeps, recalled, same⟩ := withReading_eq reading { m with counter }
    rw [same]
    exact ⟨rfl, rfl, rfl, rfl, rfl, rfl, fun hardware => absurd hardware software,
      fun hardware => absurd hardware software⟩
  · cases pulled.symm.trans other

/-! ## 3. Operations that refresh -/

/-- A refresh failed, and that was all, unless a device did during a run: then the run is over. -/
structure Abandoned (counts : CounterView α κ) (f : Failure α) (before after : Measurement α κ μ) :
    Prop where
  untorn : Untorn f before.data after.data
  halted : f.isHardware = true → before.state.isActive = true →
    after.state = .idle ∧ counts.running after.counter = false
  stays : f.isHardware = false → after.state = before.state

omit [Analytic α] in
/-- Without a failing device nothing but counts has changed. -/
theorem Abandoned.of_software {f : Failure α} {behind next : Measurement α κ μ}
    (software : f.isHardware ≠ true) (untorn : Untorn f m.data behind.data)
    (state : behind.state = m.state) (data : next.data = behind.data)
    (same : next.state = behind.state) : Abandoned counts f m next where
  untorn := by
    rw [data]
    exact untorn
  halted hardware := absurd hardware software
  stays _ := same.trans state

omit [Analytic α] in
/-- A failing device ends the run. -/
theorem Abandoned.of_hardware {f : Failure α} {behind next : Measurement α κ μ}
    (hardware : f.isHardware = true) (untorn : Untorn f m.data behind.data)
    (data : next.data = behind.data)
    (halted : next.state = .idle ∧ counts.running next.counter = false) :
    Abandoned counts f m next where
  untorn := by
    rw [data]
    exact untorn
  halted _ _ := halted
  stays software := absurd (hardware.symm.trans software) nofun

variable [Microwave α μ]

omit [Analytic α] in
/-- Halting the devices leaves the result alone. -/
theorem failStop_halts (sound : counts.sound m.counter) (cause : Failure α) :
    let next := (failStop cause : Act α κ μ Unit).after m
    next.data = m.data ∧ next.state = .idle ∧ counts.running next.counter = false := by
  obtain ⟨counter, stopped, -, halted⟩ := counts.stop m.counter sound
  obtain ⟨microwave, switched⟩ := switchMicrowave_after false { m with counter }
  unfold failStop
  rw [after, Action.run, Action.bind_of_ok (Action.outcome_of_ok (onCounter_ok stopped)),
    Action.bind_of_ok (Action.outcome_apply _ _), switched]
  exact ⟨rfl, rfl, halted⟩

theorem tick_outcome (h : Dependable counts m) :
    (m.state ≠ .running ∧ (tick : Act α κ μ Bool) m = .ok false m) ∨
    (∃ next, (tick : Act α κ μ Bool) m = .ok true next ∧ Refreshed m next.data) ∨
    ∃ f next, (tick : Act α κ μ Bool) m = .error f next ∧ Abandoned counts f m next := by
  by_cases running : m.state = .running
  · right
    rcases tick_of_running running with ⟨next, pulled, ticked⟩ | ⟨f, behind, pulled, ticked⟩
    · exact Or.inl ⟨next, ticked, refreshed_of_pull pulled⟩
    · obtain ⟨kept, state, untorn⟩ := untorn_of_pull h pulled
      refine Or.inr ⟨f, _, ticked, ?_⟩
      split
      · rename_i hardware
        obtain ⟨data, halted⟩ := failStop_halts kept.sound f
        exact .of_hardware hardware untorn data halted
      · rename_i software
        exact .of_software software untorn state rfl rfl
  · exact Or.inl ⟨running, tick_of_interrupted running⟩

theorem refresh_outcome (h : Dependable counts m) :
    (∃ next, (refresh : Act α κ μ Unit) m = .ok ⟨⟩ next ∧ Refreshed m next.data) ∨
    ∃ f next, (refresh : Act α κ μ Unit) m = .error f next ∧ Abandoned counts f m next := by
  rcases refresh_cases m with ⟨next, pulled, refreshed⟩ | ⟨f, behind, pulled, refreshed⟩
  · exact Or.inl ⟨next, refreshed, refreshed_of_pull pulled⟩
  · obtain ⟨kept, state, untorn⟩ := untorn_of_pull h pulled
    refine Or.inr ⟨f, _, refreshed, ?_⟩
    split
    · rename_i ends
      obtain ⟨data, halted⟩ := failStop_halts kept.sound f
      exact .of_hardware ends.1 untorn data halted
    · rename_i goesOn
      refine ⟨untorn, fun hardware active => ?_, fun _ => state⟩
      rw [← state] at active
      exact absurd ⟨hardware, active⟩ goesOn

/-- The result is the same. -/
def SameData (before after : Measurement α κ μ) : Prop := after.data = before.data

omit [Analytic α] in
/-- Whatever happens behind the last refresh of a run, its result stays. -/
theorem wrapUp_sameData (tag : Option String) : Moves SameData (wrapUp tag : Act α κ μ Unit) := by
  intro m
  obtain ⟨microwave, outbox, ended⟩ := wrapUp_after tag m
  rw [ended]
  cases tag with
  | none => rfl
  | some tag => rfl

omit [Microwave α μ] in
/-- What a refresh gives does not depend on the state of the run. -/
theorem Refreshed.of_stopping {data : MeasurementData α} (h : Refreshed m.stopping data) :
    Refreshed m data := by
  obtain ⟨reading, counter, read, counts, sweeps⟩ := h.read
  rw [withReading_data_congr m m.stopping rfl rfl] at counts sweeps
  exact ⟨⟨reading, counter, read, counts, sweeps⟩, h.lasers, h.signal, h.axis, h.view, h.refreshes⟩

theorem stop_outcome (h : Dependable counts m) (running : m.state = .running)
    (tag : Option String) :
    (∃ behind, (pull : Act α κ μ Unit) m.stopping = .ok ⟨⟩ behind ∧
      Refreshed m ((stop tag).after m).data) ∨
    ∃ f behind, (pull : Act α κ μ Unit) m.stopping = .error f behind ∧
      Untorn f m.data ((stop tag).after m).data := by
  have reliable : Dependable counts m.stopping := (dependable_sturdy counts).careful.setState .stopping m h
  have data : ((stop tag).after m).data = ((pull : Act α κ μ Unit).after m.stopping).data := by
    rw [after, Action.run, stop_of_running running tag]
    exact wrapUp_sameData tag _
  rw [data]
  cases pulled : (pull : Act α κ μ Unit) m.stopping with
  | ok _ next =>
    rw [after_of_ok pulled]
    exact Or.inl ⟨next, rfl, (refreshed_of_pull pulled).of_stopping⟩
  | error f behind =>
    rw [after_of_error pulled]
    exact Or.inr ⟨f, behind, rfl, (untorn_of_pull reliable pulled).2.2⟩

/-! ## 4. Runs -/

/-- Whatever was done with a measurement before, a tick while it is not running does nothing. Any
other tick, a request and the last refresh of a stop give a whole result that belongs to the new
counts, with one refresh more; or they fail, and then axis, signal, errors, view, laser pulses and
the number of refreshes are as they were, and if a device failed so are counts and sweeps. A device
that fails in a tick or a request during a run ends the run and leaves the counter stopped; any
other failure leaves the state alone. -/
theorem refresh_never_tears (counts : CounterView α κ) {options : MeasurementOptions} {counter : κ}
    {microwave : Option μ} (sound : counts.sound counter)
    (started : ofDevices options counter microwave = .ok m) (ops : List (Operation α)) :
    let now := afterAll ops m
    ((now.state ≠ .running ∧ (tick : Act α κ μ Bool) now = .ok false now) ∨
      (∃ next, (tick : Act α κ μ Bool) now = .ok true next ∧ Refreshed now next.data) ∨
      ∃ f next, (tick : Act α κ μ Bool) now = .error f next ∧ Abandoned counts f now next) ∧
    ((∃ next, (refresh : Act α κ μ Unit) now = .ok ⟨⟩ next ∧ Refreshed now next.data) ∨
      ∃ f next, (refresh : Act α κ μ Unit) now = .error f next ∧ Abandoned counts f now next) ∧
    (now.state = .running → ∀ tag,
      (∃ behind, (pull : Act α κ μ Unit) now.stopping = .ok ⟨⟩ behind ∧
        Refreshed now ((stop tag).after now).data) ∨
      ∃ f behind, (pull : Act α κ μ Unit) now.stopping = .error f behind ∧
        Untorn f now.data ((stop tag).after now).data) := by
  intro now
  have reliable : Dependable counts now :=
    (dependable_sturdy counts).afterAll ops m (ofDevices_dependable sound started)
  exact ⟨tick_outcome reliable, refresh_outcome reliable, stop_outcome reliable⟩

/-! A run whose counter answers once. -/

/-- Counts one pulse of twelve bins in every sweep, and answers only the third of all calls. -/
def shortLived : FaultyCounter (MemoryCounter ℚ) :=
  .under ⟨fun call n => call = .read && decide (4 ≤ n), false⟩
    { (.fresh false : MemoryCounter ℚ) with pattern := some (.trace (pulseTrace 20 [4] 12 5 0)) }

/-- One point, one laser pulse. -/
def onePoint : List (Operation ℚ) :=
  [.setSettings
      { (.default : MeasurementSettings ℚ) with invoke := false, axis := [1], lasers := 1 },
    .start .idle none]

/-- The first tick gives a result. The second one can not read the counter: it ends the run and
leaves that result. -/
theorem refresh_never_tears_short_lived :
    let counts := FaultyCounter.view (MemoryCounter.view (α := ℚ))
    counts.sound shortLived ∧
    ∃ m, ofDevices { benchOptions with evaluation := "sum" } shortLived
        (none : Option (MemoryMicrowave ℚ)) = .ok m ∧
      (∃ once, (tick : Act _ _ _ Bool) (afterAll onePoint m) = .ok true once ∧
        Refreshed (afterAll onePoint m) once.data) ∧
      ∃ f next, (tick : Act _ _ _ Bool) (afterAll (onePoint ++ [.tick]) m) = .error f next ∧
        next.data.refreshes = 1 ∧ next.state = .idle ∧ counts.running next.counter = false := by
  intro counts
  have sound : counts.sound shortLived := by
    refine ⟨trivial, fun call n fails => Or.inl ?_⟩
    exact of_decide_eq_true (Bool.and_eq_true_iff.mp fails).1
  refine ⟨sound, ?_⟩
  have ran : (match ofDevices { benchOptions with evaluation := "sum" } shortLived
      (none : Option (MemoryMicrowave ℚ)) with
    | .ok m =>
      let now := afterAll (onePoint ++ [.tick]) m
      (match (tick : Act _ _ _ Bool) (afterAll onePoint m) with
        | .ok ticked _ => ticked
        | .error _ _ => false) &&
      (match (tick : Act _ _ _ Bool) now with
        | .ok _ _ => false
        | .error f _ => f.isHardware) &&
      now.data.refreshes == 1 && now.state.isActive
    | .error _ => false) = true := by decide +kernel
  cases started : ofDevices { benchOptions with evaluation := "sum" } shortLived
      (none : Option (MemoryMicrowave ℚ)) with
  | error f => rw [started] at ran; cases ran
  | ok m =>
    rw [started] at ran
    simp only [Bool.and_eq_true, beq_iff_eq] at ran
    obtain ⟨⟨⟨gave, failed⟩, refreshes⟩, active⟩ := ran
    obtain ⟨first, -⟩ := refresh_never_tears counts sound started onePoint
    obtain ⟨second, -⟩ := refresh_never_tears counts sound started (onePoint ++ [.tick])
    refine ⟨m, rfl, ?_, ?_⟩
    · rcases first with ⟨-, same⟩ | ⟨once, done, refreshed⟩ | ⟨f, next, same, -⟩
      · rw [same] at gave; cases gave
      · exact ⟨once, done, refreshed⟩
      · rw [same] at gave; cases gave
    · rcases second with ⟨-, same⟩ | ⟨next, same, -⟩ | ⟨f, next, same, abandoned⟩
      · rw [same] at failed; cases failed
      · rw [same] at failed; cases failed
      · rw [same] at failed
        exact ⟨f, next, same, abandoned.untorn.refreshes.trans refreshes,
          abandoned.halted failed active⟩

end PulseBench.Measurement
