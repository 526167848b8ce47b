import PulseBench.Counting.FaultyCounter
import PulseBench.Counting.MemoryCounter
import PulseBench.Microwave
import PulseBench.Proofs.Outcome

/-!
# The devices of a measurement

What a measurement relies on, and what it does not. A `CounterView` shows whether
a counter runs and whether it is paused: starting, stopping, pausing and resuming
do what they say, while reading and configuring may fail at any time. A
`SourceView` of a microwave source says which sources never failed so far; every
call may fail, and what a failed call did to the output is unknown.

Results:
1. `MemoryCounter.view`, `FaultyCounter.view`: counters with a view.
2. `MemoryMicrowave.obedient`, `FaultyMicrowave.view`: a source in memory does
   what it says, and so does one behind a plan that fails some of its calls, as
   long as it failed none.
-/

namespace PulseBench

variable {α κ μ β : Type}

open Action (after Moves)

/-! ## 1. Counters -/

/-- The state of a run that matches what the counter does. -/
def RunState.ofFlags (running paused : Bool) : RunState :=
  if running then if paused then .paused else .running else .idle

/-- A counter that can be watched. Only states that are `sound` are meant; calls leave them so. -/
structure CounterView (α κ : Type) [Counter α κ] where
  sound : κ → Prop
  running : κ → Bool
  paused : κ → Bool
  /-- Whether the counter can be configured does not matter. -/
  configure : ∀ c, sound c → ∀ requested,
    let next := (Counter.configure requested : Action α κ (CounterSettings α)).after c
    sound next ∧ running next = running c ∧ paused next = paused c
  /-- Neither does whether it answers. -/
  read : ∀ c, sound c →
    let next := (Counter.read : Action α κ Reading).after c
    sound next ∧ running next = running c ∧ paused next = paused c
  start : ∀ c, sound c → ∃ next, (Counter.start : Action α κ Unit) c = .ok ⟨⟩ next ∧
    sound next ∧ running next = true ∧ paused next = false
  stop : ∀ c, sound c → ∃ next, (Counter.stop : Action α κ Unit) c = .ok ⟨⟩ next ∧
    sound next ∧ running next = false
  pause : ∀ c, sound c → ∃ next, (Counter.pause : Action α κ Unit) c = .ok ⟨⟩ next ∧
    sound next ∧ running next = running c ∧ paused next = true
  resume : ∀ c, sound c → ∃ next, (Counter.resume : Action α κ Unit) c = .ok ⟨⟩ next ∧
    sound next ∧ running next = running c ∧ paused next = false

/-- The state of a run that matches what the counter does. -/
def CounterView.state [Counter α κ] (view : CounterView α κ) (c : κ) : RunState :=
  .ofFlags (view.running c) (view.paused c)

namespace MemoryCounter

variable [Scalar α]

/-- Two counters run and pause alike. -/
def SameFlags (a b : MemoryCounter α) : Prop := b.running = a.running ∧ b.paused = a.paused

omit [Scalar α] in
theorem SameFlags.refl (a : MemoryCounter α) : SameFlags a a := ⟨rfl, rfl⟩

omit [Scalar α] in
theorem SameFlags.trans (a b c : MemoryCounter α) (first : SameFlags a b)
    (second : SameFlags b c) : SameFlags a c :=
  ⟨second.1.trans first.1, second.2.trans first.2⟩

theorem configure_sameFlags (requested : CounterSettings α) :
    Moves SameFlags (configure requested) := by
  refine Moves.bind SameFlags.trans (Moves.modify fun c => ⟨rfl, rfl⟩) fun _ => ?_
  refine Moves.get_bind fun c => ?_
  by_cases busy : c.running = true
  · rw [if_pos busy]
    exact SameFlags.refl c
  · rw [if_neg busy]
    cases c.limits.check c.gated requested with
    | error f => exact SameFlags.refl c
    | ok _ => exact ⟨rfl, rfl⟩

omit [Scalar α] in
theorem sweep_sameFlags (c : MemoryCounter α) : SameFlags c c.sweep := by
  unfold sweep
  split
  · split
    · exact ⟨rfl, rfl⟩
    · exact SameFlags.refl c
  · exact SameFlags.refl c

theorem read_sameFlags : Moves SameFlags (read : Action α (MemoryCounter α) Reading) := by
  refine Moves.bind SameFlags.trans (Moves.modify fun c => ⟨rfl, rfl⟩) fun _ => ?_
  refine Moves.get_bind fun c => ?_
  by_cases silent : c.silentFrom.any (fun first => decide (first ≤ c.reads)) = true
  · rw [if_pos silent]
    exact SameFlags.refl c
  · rw [if_neg silent]
    exact sweep_sameFlags c

/-- A counter in memory, as it is. -/
def view : CounterView α (MemoryCounter α) where
  sound _ := True
  running := running
  paused := paused
  configure c _ requested := ⟨trivial, configure_sameFlags requested c⟩
  read c _ := ⟨trivial, read_sameFlags c⟩
  start _ _ := ⟨_, rfl, trivial, rfl, rfl⟩
  stop _ _ := ⟨_, rfl, trivial, rfl⟩
  pause _ _ := ⟨_, rfl, trivial, rfl, rfl⟩
  resume _ _ := ⟨_, rfl, trivial, rfl, rfl⟩

end MemoryCounter

namespace FaultyCounter

section Calls

variable {call : CounterCall} {act : Action α κ β} {c : FaultyCounter κ} {b : β} {f : Failure α}
  {next : κ}

theorem attempt_failed (fails : c.plan.fails call (c.calls + 1) = true) :
    attempt call act c =
      .error (.device (.injected call.name)) { c with calls := c.calls + 1 } := by
  unfold attempt
  rw [Action.bind_of_ok (Action.modify_apply _ c), Action.bind_of_ok (Action.get_apply _)]
  simp only [fails]
  rfl

theorem attempt_passed (passes : c.plan.fails call (c.calls + 1) = false) :
    attempt call act c = reach act { c with calls := c.calls + 1 } := by
  unfold attempt
  rw [Action.bind_of_ok (Action.modify_apply _ c), Action.bind_of_ok (Action.get_apply _)]
  simp only [passes]
  rfl

theorem attempt_ok (passes : c.plan.fails call (c.calls + 1) = false)
    (done : act c.inner = .ok b next) :
    attempt call act c = .ok b { c with inner := next, calls := c.calls + 1 } := by
  rw [attempt_passed passes]
  unfold reach
  rw [show act ({ c with calls := c.calls + 1 } : FaultyCounter κ).inner = .ok b next from done]

theorem attempt_error (passes : c.plan.fails call (c.calls + 1) = false)
    (failed : act c.inner = .error f next) :
    attempt call act c = .error f { c with inner := next, calls := c.calls + 1 } := by
  rw [attempt_passed passes]
  unfold reach
  rw [show act ({ c with calls := c.calls + 1 } : FaultyCounter κ).inner = .error f next
    from failed]

/-- Whatever comes of a call, the counter behind the plan is as it was, or as the call left it. -/
theorem attempt_after (call : CounterCall) (act : Action α κ β) (c : FaultyCounter κ) :
    ((attempt call act).after c).plan = c.plan ∧
      (((attempt call act).after c).inner = c.inner ∨
        ((attempt call act).after c).inner = act.after c.inner) := by
  cases fails : c.plan.fails call (c.calls + 1) with
  | true =>
    rw [Action.after_of_error (attempt_failed fails)]
    exact ⟨rfl, Or.inl rfl⟩
  | false =>
    cases done : act c.inner with
    | ok b next =>
      rw [Action.after_of_ok (attempt_ok fails done), Action.after_of_ok done]
      exact ⟨rfl, Or.inr rfl⟩
    | error f next =>
      rw [Action.after_of_error (attempt_error fails done), Action.after_of_error done]
      exact ⟨rfl, Or.inr rfl⟩

end Calls

/-- The plan fails nothing but reading and configuring. -/
def OnlyReads (plan : CounterPlan) : Prop :=
  ∀ call n, plan.fails call n = true → call = .read ∨ call = .configure

theorem OnlyReads.passes {plan : CounterPlan} (h : OnlyReads plan) (call : CounterCall)
    (reads : call ≠ .read) (configures : call ≠ .configure) (n : Nat) :
    plan.fails call n = false := by
  cases fails : plan.fails call n with
  | false => rfl
  | true => exact absurd (h call n fails) (not_or_intro reads configures)

variable [Counter α κ]

/-- Leaving out the number of sweeps does not change the counter. -/
theorem read_after (c : FaultyCounter κ) :
    (read : Action α (FaultyCounter κ) Reading).after c =
      (attempt .read (Counter.read : Action α κ Reading)).after c := by
  unfold read
  cases done : attempt .read (Counter.read : Action α κ Reading) c with
  | ok reading next =>
    rw [Action.after_of_ok done]
    exact Action.after_of_ok (Action.bind_of_ok done)
  | error f next =>
    rw [Action.after_of_error done]
    exact Action.after_of_error (Action.bind_of_error done)

/-- A call that leaves the counter behind the plan running and paused as it is does so through the
plan. -/
theorem attempt_kept (inner : CounterView α κ) {c : FaultyCounter κ}
    (sound : inner.sound c.inner ∧ OnlyReads c.plan) (call : CounterCall) (act : Action α κ β)
    (kept : inner.sound (act.after c.inner) ∧
      inner.running (act.after c.inner) = inner.running c.inner ∧
      inner.paused (act.after c.inner) = inner.paused c.inner) :
    let next := (attempt call act).after c
    (inner.sound next.inner ∧ OnlyReads next.plan) ∧
      inner.running next.inner = inner.running c.inner ∧
      inner.paused next.inner = inner.paused c.inner := by
  intro next
  obtain ⟨plan, same | called⟩ : next.plan = c.plan ∧ _ := attempt_after call act c
  · rw [plan, show next.inner = c.inner from same]
    exact ⟨sound, rfl, rfl⟩
  · rw [plan, show next.inner = act.after c.inner from called]
    exact ⟨⟨kept.1, sound.2⟩, kept.2⟩

/-- A counter behind a plan that fails nothing but reading and configuring. -/
def view (inner : CounterView α κ) : CounterView α (FaultyCounter κ) where
  sound c := inner.sound c.inner ∧ OnlyReads c.plan
  running c := inner.running c.inner
  paused c := inner.paused c.inner
  configure c sound requested :=
    attempt_kept inner sound .configure _ (inner.configure c.inner sound.1 requested)
  read c sound := by
    have kept := attempt_kept inner sound .read _ (inner.read c.inner sound.1)
    rw [← read_after] at kept
    exact kept
  start c sound := by
    obtain ⟨next, done, sound', flags⟩ := inner.start c.inner sound.1
    have passes := sound.2.passes .start nofun nofun (c.calls + 1)
    exact ⟨_, attempt_ok passes done, ⟨sound', sound.2⟩, flags⟩
  stop c sound := by
    obtain ⟨next, done, sound', flags⟩ := inner.stop c.inner sound.1
    have passes := sound.2.passes .stop nofun nofun (c.calls + 1)
    exact ⟨_, attempt_ok passes done, ⟨sound', sound.2⟩, flags⟩
  pause c sound := by
    obtain ⟨next, done, sound', flags⟩ := inner.pause c.inner sound.1
    have passes := sound.2.passes .pause nofun nofun (c.calls + 1)
    exact ⟨_, attempt_ok passes done, ⟨sound', sound.2⟩, flags⟩
  resume c sound := by
    obtain ⟨next, done, sound', flags⟩ := inner.resume c.inner sound.1
    have passes := sound.2.passes .resume nofun nofun (c.calls + 1)
    exact ⟨_, attempt_ok passes done, ⟨sound', sound.2⟩, flags⟩

end FaultyCounter

/-! ## 2. Microwave sources -/

/-- A call fails, and then the source is not `unfailed` any more; or it leaves the output as told,
at least of a source that never failed. -/
def Answers [Microwave α μ] (unfailed : μ → Prop) (act : Action α μ β) (on : μ → Bool) : Prop :=
  ∀ s, (∃ b next, act s = .ok b next ∧
      (unfailed next → unfailed s ∧ Microwave.isOn next = on s)) ∨
    ∃ f next, act s = .error f next ∧ ¬ unfailed next

/-- A source that can be watched: it is known whether a call failed ever. -/
structure SourceView (α μ : Type) [Microwave α μ] where
  unfailed : μ → Prop
  setCarrier : ∀ frequency power, Answers unfailed
    (Microwave.setCarrier frequency power : Action α μ (α × α)) Microwave.isOn
  setTiming : ∀ timing, Answers unfailed
    (Microwave.setTiming timing : Action α μ (TriggerTiming α)) Microwave.isOn
  switchOn : Answers unfailed (Microwave.switchOn : Action α μ Unit) fun _ => true
  switchOff : Answers unfailed (Microwave.switchOff : Action α μ Unit) fun _ => false

/-- A call of a source that succeeds leaves the output as told. -/
def Obeys [Microwave α μ] (act : Action α μ β) (on : μ → Bool) : Prop :=
  ∀ s b next, act s = .ok b next → Microwave.isOn next = on s

/-- Every call of a source that succeeds does what it says. -/
structure Obedient (α μ : Type) [Microwave α μ] : Prop where
  setCarrier : ∀ frequency power,
    Obeys (Microwave.setCarrier frequency power : Action α μ (α × α)) Microwave.isOn
  setTiming : ∀ timing,
    Obeys (Microwave.setTiming timing : Action α μ (TriggerTiming α)) Microwave.isOn
  switchOn : Obeys (Microwave.switchOn : Action α μ Unit) fun _ => true
  switchOff : Obeys (Microwave.switchOff : Action α μ Unit) fun _ => false

namespace MemoryMicrowave

variable [Scalar α]

/-- What comes behind an accepted call is all that happens. -/
theorem obeys_accept {call : MicrowaveCall} {rest : Action α (MemoryMicrowave α) β}
    {on : MemoryMicrowave α → Bool} (noted : ∀ s log, on { s with log } = on s)
    (told : Obeys rest on) : Obeys (accept call >>= fun _ => rest) on := by
  intro s b next done
  have passed : accept call s = .ok ⟨⟩ { s with log := s.log ++ [call] } ∨
      ∃ f, accept call s = .error f { s with log := s.log ++ [call] } := by
    unfold accept
    rw [Action.bind_of_ok (Action.modify_apply _ s), Action.bind_of_ok (Action.get_apply _)]
    cases rejects : s.rejects with
    | true => exact Or.inr ⟨_, rfl⟩
    | false => exact Or.inl rfl
  rcases passed with accepted | ⟨f, rejected⟩
  · rw [Action.bind_of_ok accepted] at done
    exact (told _ b next done).trans (noted s _)
  · rw [Action.bind_of_error rejected] at done
    cases done

/-- A source in memory rejects a call, or does what it says. -/
theorem obedient : Obedient α (MemoryMicrowave α) where
  setCarrier _ _ := obeys_accept (fun _ _ => rfl) fun _ _ _ done => by cases done; rfl
  setTiming _ := obeys_accept (fun _ _ => rfl) fun _ _ _ done => by cases done; rfl
  switchOn := obeys_accept (fun _ _ => rfl) fun _ _ _ done => by cases done; rfl
  switchOff := obeys_accept (fun _ _ => rfl) fun _ _ _ done => by cases done; rfl

end MemoryMicrowave

/-- A source behind a plan. A call that the plan fails never reaches it. Calls are numbered from
one, since the plan was made. -/
structure FaultyMicrowave (μ : Type) where
  inner : μ
  plan : MicrowaveCall → Nat → Bool
  calls : Nat
  /-- Calls that failed, in front of the source or behind. -/
  failures : Nat

namespace FaultyMicrowave

/-- A source under a new plan. -/
def under (plan : MicrowaveCall → Nat → Bool) (inner : μ) : FaultyMicrowave μ :=
  ⟨inner, plan, 0, 0⟩

/-- A call, if the plan lets it pass. -/
def attempt (call : MicrowaveCall) (act : Action α μ β) : Action α (FaultyMicrowave μ) β := fun s =>
  let calls := s.calls + 1
  if s.plan call calls then
    .error (.device (.injected call.name)) { s with calls, failures := s.failures + 1 }
  else
    match act s.inner with
    | .ok b inner => .ok b { s with inner, calls }
    | .error f inner => .error f { s with inner, calls, failures := s.failures + 1 }

variable [Microwave α μ]

instance : Microwave α (FaultyMicrowave μ) where
  setCarrier frequency power := attempt .setCarrier (Microwave.setCarrier frequency power)
  setTiming timing := attempt .setTiming (Microwave.setTiming timing)
  switchOn := attempt .on Microwave.switchOn
  switchOff := attempt .off Microwave.switchOff
  isOn s := Microwave.isOn s.inner

theorem answers_attempt {act : Action α μ β} {on : μ → Bool} (h : Obeys act on)
    (call : MicrowaveCall) :
    Answers (fun s : FaultyMicrowave μ => s.failures = 0) (attempt call act)
      fun s => on s.inner := by
  intro s
  by_cases fails : s.plan call (s.calls + 1) = true
  · exact Or.inr ⟨.device (.injected call.name),
      { s with calls := s.calls + 1, failures := s.failures + 1 }, if_pos fails,
      Nat.succ_ne_zero _⟩
  · cases called : act s.inner with
    | ok b inner =>
      exact Or.inl ⟨b, { s with inner, calls := s.calls + 1 },
        (if_neg fails).trans (by rw [called]), fun none => ⟨none, h s.inner b inner called⟩⟩
    | error f inner =>
      exact Or.inr ⟨f, { s with inner, calls := s.calls + 1, failures := s.failures + 1 },
        (if_neg fails).trans (by rw [called]), Nat.succ_ne_zero _⟩

/-- A source behind any plan, with its failures counted. -/
def view (obedient : Obedient α μ) : SourceView α (FaultyMicrowave μ) where
  unfailed s := s.failures = 0
  setCarrier frequency power := answers_attempt (obedient.setCarrier frequency power) .setCarrier
  setTiming timing := answers_attempt (obedient.setTiming timing) .setTiming
  switchOn := answers_attempt obedient.switchOn .on
  switchOff := answers_attempt obedient.switchOff .off

end FaultyMicrowave

end PulseBench
