import PulseBench.Proofs.Measure.Devices

/-!
# Settings of a counter

A counter is asked for settings, and answers with those that it really uses. It
refuses settings beyond its limits (`CounterLimits.Admits`), and any settings while
it runs. A counter behind a plan also refuses when the plan fails the call. A
counter that refuses goes on with the settings that it had.

Results:
1. `CounterLimits.check_eq_ok_iff`: the limits of a counter.
2. `MemoryCounter.configure_cases`, `FaultyCounter.configure_cases`: what comes of a
   request, and when it is refused.
3. `MemoryCounter.requests_configure`: every request is counted.
   `MemoryCounter.settingsView`, `FaultyCounter.settingsView`: only a request changes
   the settings that a counter goes by, and they are what it answers.
-/

namespace PulseBench

open Action (Moves after after_of_ok after_of_error)

variable {α κ : Type}

section Refusing

variable [Scalar α]

/-! ## 1. Limits -/

/-- The settings keep to the limits of a counter. -/
structure CounterLimits.Admits (l : CounterLimits α) (gated : Bool) (s : CounterSettings α) :
    Prop where
  binWidth : (0.0 : α) < s.binWidth
  recordLength : (0.0 : α) < s.recordLength
  notTooLong : ¬ l.maxRecordLength < s.recordLength
  someGate : gated = true → s.gates ≠ 0
  gates : s.gates ≤ l.maxGates

/-- The checks of a counter ask for these limits and nothing else. -/
theorem CounterLimits.check_eq_ok_iff {l : CounterLimits α} {gated : Bool}
    {s : CounterSettings α} : l.check gated s = .ok ⟨⟩ ↔ l.Admits gated s := by
  unfold check
  by_cases times : (0.0 : α) < s.binWidth ∧ (0.0 : α) < s.recordLength
  · by_cases long : l.maxRecordLength < s.recordLength
    · simp only [times, long, if_true]
      exact iff_of_false nofun fun admits => admits.notTooLong long
    · by_cases none : gated = true ∧ s.gates = 0
      · simp only [times, long, none, if_false]
        exact iff_of_false nofun fun admits => admits.someGate rfl none.2
      · by_cases many : l.maxGates < s.gates
        · simp only [times, long, none, many, if_true, if_false]
          exact iff_of_false nofun fun admits => Nat.not_le_of_lt many admits.gates
        · simp only [times, long, none, many, if_false]
          exact iff_of_true rfl ⟨times.1, times.2, long, fun isGated => (none ⟨isGated, ·⟩),
            Nat.le_of_not_lt many⟩
  · simp only [times, if_false]
    exact iff_of_false nofun fun admits => times ⟨admits.binWidth, admits.recordLength⟩

/-! ## 2. Requests -/

/-- A counter in memory refuses settings while it runs, and those beyond its limits. -/
def MemoryCounter.Refuses (c : MemoryCounter α) (requested : CounterSettings α) : Prop :=
  c.running = true ∨ ¬ c.limits.Admits c.gated requested

/-- The settings that a counter in memory uses for requested ones. -/
def MemoryCounter.used (c : MemoryCounter α) (requested : CounterSettings α) : CounterSettings α :=
  { requested with
    binWidth := nearestWidth c.limits.binWidths requested.binWidth
    gates := if c.gated then requested.gates else 0 }

/-- A counter that refuses settings notes that it was asked, and nothing more. -/
theorem MemoryCounter.configure_cases (c : MemoryCounter α) (requested : CounterSettings α) :
    let asked := note (.configure requested) c
    (c.Refuses requested ∧ ∃ f, configure requested c = .error f asked) ∨
    ¬ c.Refuses requested ∧ configure requested c = .ok (c.used requested)
      { asked with settings := c.used requested, accumulated := none } := by
  intro asked
  unfold configure
  rw [Action.bind_of_ok (Action.modify_apply _ c), Action.bind_of_ok (Action.get_apply _)]
  by_cases running : c.running = true
  · exact Or.inl ⟨Or.inl running, .device .counterBusy, congrFun (if_pos running) asked⟩
  · cases checked : c.limits.check c.gated requested with
    | error f =>
      refine Or.inl ⟨Or.inr fun admits => ?_, f, (congrFun (if_neg running) asked).trans ?_⟩
      · cases (CounterLimits.check_eq_ok_iff.mpr admits).symm.trans checked
      · exact Action.bind_of_error (congrFun (congrArg Action.lift checked) asked)
    | ok _ =>
      have admits := CounterLimits.check_eq_ok_iff.mp checked
      refine Or.inr ⟨not_or_intro running (not_not_intro admits), ?_⟩
      refine (congrFun (if_neg running) asked).trans ?_
      exact Action.bind_of_ok (congrFun (congrArg Action.lift checked) asked)

/-- A counter in memory behind a plan refuses settings if the plan fails the call, or the counter
does. -/
def FaultyCounter.Refuses (c : FaultyCounter (MemoryCounter α)) (requested : CounterSettings α) :
    Prop :=
  c.plan.fails .configure (c.calls + 1) = true ∨ c.inner.Refuses requested

/-- A counter behind a plan that refuses settings keeps its own. -/
theorem FaultyCounter.configure_cases (c : FaultyCounter (MemoryCounter α))
    (requested : CounterSettings α) :
    (c.Refuses requested ∧ ∃ f next,
      (Counter.configure requested : Action α (FaultyCounter (MemoryCounter α)) _) c =
        .error f next ∧ next.inner.settings = c.inner.settings) ∨
    ¬ c.Refuses requested ∧ ∃ next,
      (Counter.configure requested : Action α (FaultyCounter (MemoryCounter α)) _) c =
        .ok (c.inner.used requested) next := by
  cases fails : c.plan.fails .configure (c.calls + 1) with
  | true => exact Or.inl ⟨Or.inl fails, _, _, attempt_failed fails, rfl⟩
  | false =>
    rcases c.inner.configure_cases requested with ⟨refuses, f, failed⟩ | ⟨admits, done⟩
    · exact Or.inl ⟨Or.inr refuses, f, _, attempt_error fails failed, rfl⟩
    · refine Or.inr ⟨not_or_intro (Bool.eq_false_iff.mp fails) admits, _, attempt_ok fails done⟩

end Refusing

/-! ## 3. Settings that a counter goes by -/

/-- Neither the settings of a counter differ nor what it was asked for. -/
def Unasked (settings : κ → CounterSettings α) (requests : κ → List (CounterSettings α))
    (before after : κ) : Prop :=
  settings after = settings before ∧ requests after = requests before

theorem Unasked.trans {settings : κ → CounterSettings α} {requests : κ → List (CounterSettings α)}
    (a b c : κ) (first : Unasked settings requests a b) (second : Unasked settings requests b c) :
    Unasked settings requests a c :=
  ⟨second.1.trans first.1, second.2.trans first.2⟩

/-- A counter that shows the settings that it goes by, and all requests for others that reached it.
It goes by what it answered to the last request that it did not refuse. -/
structure SettingsView (α κ : Type) [Counter α κ] where
  settings : κ → CounterSettings α
  requests : κ → List (CounterSettings α)
  configure_ok : ∀ {c requested used next},
    (Counter.configure requested : Action α κ _) c = .ok used next → settings next = used
  configure_error : ∀ {c requested f next},
    (Counter.configure requested : Action α κ _) c = .error f next → settings next = settings c
  read : Moves (Unasked settings requests) (Counter.read : Action α κ Reading)
  start : Moves (Unasked settings requests) (Counter.start : Action α κ Unit)
  stop : Moves (Unasked settings requests) (Counter.stop : Action α κ Unit)
  pause : Moves (Unasked settings requests) (Counter.pause : Action α κ Unit)
  resume : Moves (Unasked settings requests) (Counter.resume : Action α κ Unit)

/-- The settings that an entry of the log asks for. -/
def CounterEntry.requested? : CounterEntry α → Option (CounterSettings α)
  | .configure requested => some requested
  | .call _ => none

namespace MemoryCounter

/-- The settings that a counter in memory was asked for, whether it refused them or not. -/
def requests (c : MemoryCounter α) : List (CounterSettings α) :=
  c.log.filterMap CounterEntry.requested?

theorem requests_note (requested : CounterSettings α) (c : MemoryCounter α) :
    (c.note (.configure requested)).requests = c.requests ++ [requested] :=
  List.filterMap_append

/-- A request is counted, whether it is refused or not. -/
theorem requests_configure [Scalar α] (requested : CounterSettings α) (c : MemoryCounter α) :
    ((configure requested).after c).requests = c.requests ++ [requested] := by
  rcases c.configure_cases requested with ⟨-, f, refused⟩ | ⟨-, done⟩
  · rw [after_of_error refused, requests_note]
  · rw [after_of_ok done]
    exact requests_note requested c

theorem requests_call (call : CounterCall) (c : MemoryCounter α) :
    (c.note (.call call)).requests = c.requests :=
  List.filterMap_append.trans (List.append_nil _)

theorem sweep_unasked (c : MemoryCounter α) : Unasked settings requests c c.sweep := by
  unfold sweep
  split
  · split <;> exact ⟨rfl, rfl⟩
  · exact ⟨rfl, rfl⟩

theorem read_unasked [Scalar α] :
    Moves (Unasked settings requests) (read : Action α (MemoryCounter α) Reading) := by
  refine Moves.bind Unasked.trans (Moves.modify fun c => ⟨rfl, requests_call .read c⟩) fun _ => ?_
  refine Moves.get_bind fun c => ?_
  by_cases silent : c.silentFrom.any (fun first => decide (first ≤ c.reads)) = true
  · rw [if_pos silent]
    exact ⟨rfl, rfl⟩
  · rw [if_neg silent]
    exact sweep_unasked c

/-- A counter in memory, as it is. -/
def settingsView [Scalar α] : SettingsView α (MemoryCounter α) where
  settings := settings
  requests := requests
  configure_ok {c requested _ _} done := by
    rcases c.configure_cases requested with ⟨-, _, refused⟩ | ⟨-, admitted⟩
    · cases refused.symm.trans done
    · cases admitted.symm.trans done
      rfl
  configure_error {c requested _ _} refused := by
    rcases c.configure_cases requested with ⟨-, _, failed⟩ | ⟨-, admitted⟩
    · cases failed.symm.trans refused
      rfl
    · cases admitted.symm.trans refused
  read := read_unasked
  start c := ⟨rfl, requests_call .start c⟩
  stop c := ⟨rfl, requests_call .stop c⟩
  pause c := ⟨rfl, requests_call .pause c⟩
  resume c := ⟨rfl, requests_call .resume c⟩

end MemoryCounter

namespace FaultyCounter

/-- A call that does not ask the counter behind the plan for settings does not do so through the
plan. -/
theorem attempt_unasked {β : Type} {settings : κ → CounterSettings α}
    {requests : κ → List (CounterSettings α)} {act : Action α κ β}
    (kept : Moves (Unasked settings requests) act) (call : CounterCall) :
    Moves (Unasked (fun c : FaultyCounter κ => settings c.inner) fun c => requests c.inner)
      (attempt call act) := by
  intro c
  change Unasked settings requests c.inner ((attempt call act).after c).inner
  rcases (attempt_after call act c).2 with same | called
  · rw [same]
    exact ⟨rfl, rfl⟩
  · rw [called]
    exact kept c.inner

/-- A call that succeeds got through to the counter behind the plan. -/
theorem attempt_eq_ok {β : Type} {call : CounterCall} {act : Action α κ β} {c next : FaultyCounter κ}
    {b : β} (done : attempt call act c = .ok b next) : act c.inner = .ok b next.inner := by
  cases fails : c.plan.fails call (c.calls + 1) with
  | true => cases (attempt_failed fails).symm.trans done
  | false =>
    cases called : act c.inner with
    | ok b' inner =>
      cases (attempt_ok fails called).symm.trans done
      rfl
    | error f inner => cases (attempt_error fails called).symm.trans done

/-- One that fails did not get through, or failed there. -/
theorem attempt_eq_error {β : Type} {call : CounterCall} {act : Action α κ β}
    {c next : FaultyCounter κ} {f : Failure α} (failed : attempt call act c = .error f next) :
    next.inner = c.inner ∨ act c.inner = .error f next.inner := by
  cases fails : c.plan.fails call (c.calls + 1) with
  | true =>
    cases (attempt_failed fails).symm.trans failed
    exact Or.inl rfl
  | false =>
    cases called : act c.inner with
    | ok b inner => cases (attempt_ok fails called).symm.trans failed
    | error g inner =>
      cases (attempt_error fails called).symm.trans failed
      exact Or.inr rfl

/-- A counter behind any plan. -/
def settingsView [Counter α κ] (inner : SettingsView α κ) : SettingsView α (FaultyCounter κ) where
  settings c := inner.settings c.inner
  requests c := inner.requests c.inner
  configure_ok done := inner.configure_ok (attempt_eq_ok done)
  configure_error refused :=
    (attempt_eq_error refused).elim (congrArg inner.settings) inner.configure_error
  read c := by
    have kept := attempt_unasked inner.read .read c
    rw [← read_after] at kept
    exact kept
  start := attempt_unasked inner.start .start
  stop := attempt_unasked inner.stop .stop
  pause := attempt_unasked inner.pause .pause
  resume := attempt_unasked inner.resume .resume

end FaultyCounter

end PulseBench
