import PulseBench.Proofs.Counting.Configuring
import PulseBench.Proofs.Exact
import PulseBench.Proofs.Measure.Coupling

/-!
# Refused settings

Two requests change settings that the counter depends on: those of the counter
itself, and those of the measurement, which may ask for another number of gates. A
request that is refused should leave settings, result and counter as they were
(`Untouched`).

A request for settings of the counter does. A request for settings of the measurement
notes them before the counter is asked for one gate per laser. If the counter
refuses, they stay, although result, counter settings and counter are still the old
ones. There is no other way in which a refused request leaves a trace.

Results:
1. `setCounterSettings_error_iff`, `setSettings_error_iff`: what is refused, and what
   is left then.
2. `refusal_changes_nothing_iff`: when a refused request changes nothing.
-/

namespace PulseBench.Measurement

variable {α κ μ : Type}

/-! ## 1. Requests -/

section Requests

variable [Counter α κ] {m next : Measurement α κ μ} {f : Failure α}

omit [Counter α κ] in
/-- What is only done while the measurement is idle fails during a run, or as it does itself. -/
theorem whenIdle_error_iff {β : Type} {what : String} {rest : Act α κ μ β} :
    (do Action.lift (ensureIdle what (← get)); rest : Act α κ μ β) m = .error f next ↔
      (m.state ≠ .idle ∧ f = .measure (.notIdle what m.state) ∧ next = m) ∨
      (m.state = .idle ∧ rest m = .error f next) := by
  rw [Action.bind_of_ok (Action.get_apply m)]
  by_cases idle : m.state = .idle
  · rw [ensureIdle_of_idle what idle, Action.bind_of_ok (Action.lift_ok _ m)]
    simp only [idle, ne_eq, not_true_eq_false, false_and, true_and, false_or]
  · have refused : ensureIdle what m = .error (.measure (.notIdle what m.state)) := by
      unfold ensureIdle RunState.isActive
      exact if_pos (by simpa using idle)
    rw [refused, Action.bind_of_error (Action.lift_error _ m)]
    constructor
    · rintro ⟨⟩
      exact Or.inl ⟨idle, rfl, rfl⟩
    · rintro (⟨-, rfl, rfl⟩ | ⟨already, -⟩)
      · rfl
      · exact absurd already idle

/-- Where the counter is configured and the rest does not fail, the counter fails. -/
theorem configure_bind_error_iff {β : Type} {requested : CounterSettings α}
    {rest : Unit → Act α κ μ β} (later : ∀ m, ∃ b next, rest ⟨⟩ m = .ok b next) :
    (configure requested >>= rest) m = .error f next ↔ ∃ counter,
      (Counter.configure requested : Action α κ _) m.counter = .error f counter ∧
      next = { m with counter } := by
  cases asked : (Counter.configure requested : Action α κ _) m.counter with
  | error g counter =>
    rw [Action.bind_of_error (configure_error asked)]
    constructor
    · rintro ⟨⟩
      exact ⟨counter, rfl, rfl⟩
    · rintro ⟨_, ⟨⟩, rfl⟩
      rfl
  | ok used counter =>
    obtain ⟨b, behind, done⟩ := later { m with counter, counterSettings := used }
    rw [Action.bind_of_ok (configure_ok asked), done]
    exact iff_of_false nofun nofun

variable [Scalar α]

/-- Settings of the counter are refused during a run, or by the counter. -/
theorem setCounterSettings_error_iff {request : CounterSettings α} :
    setCounterSettings request m = .error f next ↔
      (m.state ≠ .idle ∧ f = .measure (.notIdle "counter settings" m.state) ∧ next = m) ∨
      (m.state = .idle ∧ ∃ counter,
        (Counter.configure request : Action α κ _) m.counter = .error f counter ∧
        next = { m with counter }) := by
  unfold setCounterSettings
  rw [whenIdle_error_iff, configure_bind_error_iff]
  exact fun m => ⟨_, _, rfl⟩

/-- Whether settings of the measurement make a gated counter be asked for other gates. -/
def AsksForGates (m : Measurement α κ μ) (request : MeasurementSettings α) : Prop :=
  Counter.isGated m.counter = true ∧ request.lasers ≠ m.counterSettings.gates

/-- Settings of the measurement are refused during a run, or by a counter that is asked for other
gates; and then they stay. -/
theorem setSettings_error_iff {request : MeasurementSettings α} :
    setSettings request m = .error f next ↔
      (m.state ≠ .idle ∧ f = .measure (.notIdle "measurement settings" m.state) ∧ next = m) ∨
      (m.state = .idle ∧ m.AsksForGates request ∧ ∃ counter,
        (Counter.configure { m.counterSettings with gates := request.lasers } :
          Action α κ _) m.counter = .error f counter ∧
        next = { m with settings := request.sorted, counter }) := by
  unfold setSettings
  rw [whenIdle_error_iff]
  refine or_congr_right (and_congr_right fun _ => ?_)
  rw [Action.bind_of_ok (Action.modify_apply _ m), Action.bind_of_ok (Action.get_apply _)]
  by_cases asks : m.AsksForGates request
  · refine (Eq.congr_left (congrFun (if_pos asks) _)).trans ?_
    rw [configure_bind_error_iff]
    · exact (and_iff_right asks).symm
    · exact fun m => ⟨_, _, rfl⟩
  · refine (Eq.congr_left (congrFun (if_neg asks) _)).trans ?_
    exact iff_of_false nofun fun asked => asks asked.1

end Requests

/-! ## 2. When a refusal leaves nothing behind -/

section Kept

/-- What a refused request for other settings should leave as it was. -/
structure Untouched (before after : Measurement α (FaultyCounter (MemoryCounter α)) μ) : Prop where
  settings : after.settings = before.settings
  counterSettings : after.counterSettings = before.counterSettings
  data : after.data = before.data
  /-- Settings that the counter itself has. -/
  own : after.counter.inner.settings = before.counter.inner.settings

variable [Scalar α] {m next : Measurement α (FaultyCounter (MemoryCounter α)) μ} {f : Failure α}

/-- A counter that refuses is still as it was set. -/
theorem own_of_refused {requested : CounterSettings α} {counter : FaultyCounter (MemoryCounter α)}
    (refused : (Counter.configure requested : Action α (FaultyCounter (MemoryCounter α)) _)
      m.counter = .error f counter) :
    m.counter.Refuses requested ∧ counter.inner.settings = m.counter.inner.settings := by
  rcases m.counter.configure_cases requested with
    ⟨refuses, _, _, failed, own⟩ | ⟨-, _, done⟩
  · cases failed.symm.trans refused
    exact ⟨refuses, own⟩
  · cases done.symm.trans refused

theorem untouched_of_setCounterSettings {request : CounterSettings α}
    (refused : setCounterSettings request m = .error f next) : Untouched m next := by
  rcases setCounterSettings_error_iff.mp refused with ⟨-, -, rfl⟩ | ⟨-, counter, asked, rfl⟩
  · exact ⟨rfl, rfl, rfl, rfl⟩
  · exact ⟨rfl, rfl, rfl, (own_of_refused asked).2⟩

/-- All that a refused request for settings of the measurement leaves are these settings. -/
theorem untouched_of_setSettings {request : MeasurementSettings α}
    (refused : setSettings request m = .error f next) (idle : m.state = .idle) :
    Untouched { m with settings := request.sorted } next := by
  rcases setSettings_error_iff.mp refused with ⟨active, -⟩ | ⟨-, -, counter, asked, rfl⟩
  · exact absurd idle active
  · exact ⟨rfl, rfl, rfl, (own_of_refused asked).2⟩

/-- Whatever state a measurement is in, on a counter with or without gates, with any limits, behind
any plan: a refused request for settings of the counter changes neither the settings of the
measurement nor those of the counter, neither the result nor what the counter itself is set to. A
refused request for settings of the measurement does not either, unless the measurement is idle, the
counter is gated and has not one gate per laser that is asked for, it refuses that many, and the
settings differ from those before. Then these settings stay, and nothing else changes. -/
theorem refusal_changes_nothing_iff (m : Measurement α (FaultyCounter (MemoryCounter α)) μ) :
    (∀ request f next, setCounterSettings request m = .error f next → Untouched m next) ∧
    ∀ request : MeasurementSettings α,
      ((∀ f next, setSettings request m = .error f next → Untouched m next) ↔
        ¬ (m.state = .idle ∧ m.AsksForGates request ∧
          m.counter.Refuses { m.counterSettings with gates := request.lasers } ∧
          request.sorted ≠ m.settings)) ∧
      ∀ f next, setSettings request m = .error f next → m.state = .idle →
        Untouched { m with settings := request.sorted } next := by
  refine ⟨fun request f next => untouched_of_setCounterSettings,
    fun request => ⟨⟨?_, ?_⟩, fun f next => untouched_of_setSettings⟩⟩
  · rintro kept ⟨idle, asks, refuses, other⟩
    rcases m.counter.configure_cases { m.counterSettings with gates := request.lasers } with
      ⟨-, f, counter, asked, -⟩ | ⟨admits, -⟩
    · have refused := setSettings_error_iff.mpr (Or.inr ⟨idle, asks, counter, asked, rfl⟩)
      exact other (kept f _ refused).settings
    · exact admits refuses
  · intro harmless f next refused
    rcases setSettings_error_iff.mp refused with ⟨-, -, rfl⟩ | ⟨idle, asks, counter, asked, rfl⟩
    · exact ⟨rfl, rfl, rfl, rfl⟩
    · obtain ⟨refuses, own⟩ := own_of_refused asked
      have same : request.sorted = m.settings := by
        by_contra other
        exact harmless ⟨idle, asks, refuses, other⟩
      exact ⟨same, rfl, rfl, own⟩

end Kept

/-! A gated counter, which takes a thousand gates. -/

def gatedCounter : FaultyCounter (MemoryCounter ℚ) := .under .none (.fresh true)

/-- One laser pulse more than the counter has gates. -/
def crowded : MeasurementSettings ℚ := { MeasurementSettings.default with lasers := 1001 }

/-- No bins at all. -/
def binless : CounterSettings ℚ := { CounterSettings.default with binWidth := 0 }

/-- A new measurement on it refuses both; the first leaves no trace, and the second nothing but the
settings asked for. -/
theorem refusal_changes_nothing_gated :
    ∃ m, ofDevices benchOptions gatedCounter (none : Option (MemoryMicrowave ℚ)) = .ok m ∧
      (∃ f next, setCounterSettings binless m = .error f next ∧ Untouched m next) ∧
      ∃ f next, setSettings crowded m = .error f next ∧ m.state = .idle ∧
        Untouched { m with settings := crowded.sorted } next := by
  have ran : (match ofDevices benchOptions gatedCounter (none : Option (MemoryMicrowave ℚ)) with
    | .ok m =>
      (match setCounterSettings binless m with
        | .ok _ _ => false
        | .error _ _ => true) &&
      (match setSettings crowded m with
        | .ok _ _ => false
        | .error _ _ => true) &&
      m.state == .idle
    | .error _ => false) = true := by decide +kernel
  cases started : ofDevices benchOptions gatedCounter (none : Option (MemoryMicrowave ℚ)) with
  | error f => rw [started] at ran; cases ran
  | ok m =>
    rw [started] at ran
    simp only [Bool.and_eq_true, beq_iff_eq] at ran
    obtain ⟨⟨counterRefused, refused⟩, idle⟩ := ran
    obtain ⟨untouched, changed⟩ := refusal_changes_nothing_iff m
    refine ⟨m, rfl, ?_, ?_⟩
    · cases asked : setCounterSettings binless m with
      | ok used next => rw [asked] at counterRefused; cases counterRefused
      | error f next => exact ⟨f, next, rfl, untouched binless f next asked⟩
    · cases asked : setSettings crowded m with
      | ok used next => rw [asked] at refused; cases refused
      | error f next => exact ⟨f, next, rfl, idle, (changed crowded).2 f next asked idle⟩

/-- It was idle, and the settings are other ones behind the refusal. -/
theorem not_untouched_of_crowded :
    ∃ m, ofDevices benchOptions gatedCounter (none : Option (MemoryMicrowave ℚ)) = .ok m ∧
      m.state = .idle ∧ ∃ f next, setSettings crowded m = .error f next ∧ ¬ Untouched m next := by
  have ran : (match ofDevices benchOptions gatedCounter (none : Option (MemoryMicrowave ℚ)) with
    | .ok m =>
      (match setSettings crowded m with
        | .ok _ _ => none
        | .error _ next => some (m.state, m.settings.lasers, next.settings.lasers))
    | .error _ => none) = some (.idle, 50, 1001) := by decide +kernel
  cases started : ofDevices benchOptions gatedCounter (none : Option (MemoryMicrowave ℚ)) with
  | error f => rw [started] at ran; cases ran
  | ok m =>
    rw [started] at ran
    dsimp only at ran
    cases asked : setSettings crowded m with
    | ok used next => rw [asked] at ran; cases ran
    | error f next =>
      rw [asked, Option.some.injEq, Prod.mk.injEq, Prod.mk.injEq] at ran
      obtain ⟨idle, before, after⟩ := ran
      refine ⟨m, rfl, idle, f, next, asked, fun untouched => ?_⟩
      have same := congrArg MeasurementSettings.lasers untouched.settings
      rw [before, after] at same
      cases same

end PulseBench.Measurement
