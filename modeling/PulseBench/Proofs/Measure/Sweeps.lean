import Mathlib.Data.List.Infix
import PulseBench.Proofs.Measure.Continued
import PulseBench.Proofs.Measure.Starting

/-!
# Sweeps that are not told

Not every counter tells how many sweeps it has made. A reading that does not leaves
the sweeps of the result as they were, and a run that goes on with a stashed one adds
the stashed sweeps to the sweeps of a reading. The two do not go together: the sweeps
of the result already have the stashed ones in them, so that they are added anew at
every reading, and not once.

Results:
1. `withReading_untold`, `Counting.pull`: one reading.
2. `Counting.operation`, `Counting.afterAll`: operations of a run, and runs.
3. `untold_sweeps_accumulate`: what the sweeps are after any number of readings.
-/

namespace PulseBench.Measurement

variable {α κ μ : Type} [Counter α κ]

open Action (Moves after after_of_ok after_of_error)

/-! ## 1. Readings -/

/-- The reading does not tell the sweeps. -/
def Untold (reading : Reading) : Prop := reading.sweeps = none

instance : DecidablePred Untold := fun reading => decEq reading.sweeps none

/-- Whether the counter answers when it is read next. -/
def answers (m : Measurement α κ μ) : Bool :=
  match (Counter.read : Action α κ Reading) m.counter with
  | .ok _ _ => true
  | .error _ _ => false

/-- Whether an operation reads the counter and is answered. -/
def Operation.reads (m : Measurement α κ μ) : Operation α → Bool
  | .tick => m.state == .running && m.answers
  | .refresh => m.answers
  | _ => false

variable {run : StashedRun} {k : Nat} {m : Measurement α κ μ}

omit [Counter α κ] in
/-- A reading that does not tell the sweeps puts those of the stashed run in once more. -/
theorem withReading_untold {reading : Reading} (untold : Untold reading)
    (kept : (withReading reading m).recalled ≠ none) :
    (withReading reading m).recalled = m.recalled ∧ ∃ run, m.recalled = some run ∧
      (withReading reading m).data.sweeps = m.data.sweeps + run.sweeps := by
  have same : reading.sweeps.getD m.data.sweeps = m.data.sweeps := by rw [untold]; rfl
  unfold withReading at kept ⊢
  dsimp only at kept ⊢
  cases recalled : m.recalled with
  | none =>
    rw [recalled] at kept
    exact absurd rfl kept
  | some run =>
    rw [recalled] at kept
    dsimp only at kept ⊢
    cases continued : continued? run reading.counts with
    | none =>
      rw [continued] at kept
      exact absurd rfl kept
    | some counts => exact ⟨rfl, run, rfl, congrArg (· + run.sweeps) same⟩

/-- As long as the run goes on with the stashed one, its sweeps are in the result `k` times. -/
def Counting (run : StashedRun) (k : Nat) (m : Measurement α κ μ) : Prop :=
  m.recalled ≠ none → m.recalled = some run ∧ m.data.sweeps = k * run.sweeps

variable [Analytic α]

theorem Counting.pull (h : Counting run k m) (untold : Counter.Answers Untold m.counter) :
    Counting run (k + m.answers.toNat) ((pull : Act α κ μ Unit).after m) := by
  cases answered : (Counter.read : Action α κ Reading) m.counter with
  | error f counter =>
    have silent : m.answers = false := by rw [answers, answered]
    rw [pull_after_of_error answered, silent]
    exact h
  | ok reading counter =>
    have heard : m.answers = true := by rw [answers, answered]
    obtain ⟨data, outbox, pulled, -, sweeps⟩ := pull_after answered
    rw [pulled, heard]
    intro kept
    obtain ⟨recalled, other, known, more⟩ :=
      withReading_untold (m := { m with counter }) (untold reading counter answered) kept
    obtain ⟨same, before⟩ := h fun gone => nomatch gone.symm.trans known
    obtain rfl : other = run := Option.some.inj (known.symm.trans same)
    refine ⟨recalled.trans same, (sweeps.trans more).trans ?_⟩
    change m.data.sweeps + other.sweeps = (k + 1) * other.sweeps
    rw [before, Nat.succ_mul]

/-! ## 2. Runs -/

variable [Microwave α μ]

omit [Analytic α] in
theorem lasting_counting (run : StashedRun) (k : Nat) :
    Lasting (Counting (α := α) (κ := κ) (μ := μ) run k) where
  pauseCounter m h := by
    rw [onCounter_after]
    exact h
  resumeCounter m h := by
    rw [onCounter_after]
    exact h
  microwave _ _ h := h
  outbox _ _ h := h
  state _ _ h _ _ := h
  failStop cause m _ := by
    obtain ⟨microwave, outbox, ended⟩ := failStop_after cause m
    rw [ended]
    exact fun kept => absurd rfl kept

theorem Counting.operation (h : Counting run k m) {op : Operation α} (continues : op.Continues)
    (untold : Counter.Answers Untold m.counter) :
    Counting run (k + (op.reads m).toNat) (op.after m) := by
  cases op with
  | tick =>
    change Counting run _ ((do let _ ← Measurement.tick : Act α κ μ Unit).after m)
    rw [Action.after_discard]
    refine (lasting_counting run _).tick (fun resting => ?_) fun running => ?_
    · have reads : Operation.tick.reads m = false := by simp [Operation.reads, resting]
      rw [reads]
      exact h
    · have reads : Operation.tick.reads m = m.answers := by simp [Operation.reads, running]
      rw [reads]
      exact h.pull untold
  | refresh => exact (lasting_counting run _).refresh (h.pull untold)
  | pause => exact (lasting_counting run k).pause h
  | resume guard => exact (lasting_counting run k).resume h guard
  | _ => exact continues.elim

/-- The number of readings in a run. -/
def readings : List (Operation α) → Measurement α κ μ → Nat
  | [], _ => 0
  | op :: rest, m => (op.reads m).toNat + readings rest (op.after m)

theorem Counting.afterAll {ops : List (Operation α)} (h : Counting run k m)
    (continues : ∀ op ∈ ops, op.Continues)
    (untold : ∀ done, done <+: ops → Counter.Answers Untold (afterAll done m).counter) :
    Counting run (k + readings ops m) (afterAll ops m) := by
  induction ops generalizing k m with
  | nil => exact h
  | cons op rest ih =>
    have once := h.operation (continues op List.mem_cons_self) (untold [] List.nil_prefix)
    rw [readings, ← Nat.add_assoc]
    refine ih once (fun other member => continues other (List.mem_cons_of_mem _ member)) ?_
    exact fun done first => untold (op :: done) ((List.prefix_cons_inj op).mpr first)

/-! ## 3. What the sweeps are -/

/-- A measurement is started with a tag, and there is a run stashed under it. Then any of ticks,
refreshes, pauses and resumptions follow, in which the counter never tells its sweeps, and the run
goes on with the stashed one at any time. Then the sweeps are those of the stashed run, as often as
the counter was read. So behind the `n`-th reading they are what they were behind the first one if
`n` is one, or if the stashed run had no sweeps; and not in any other case. -/
theorem untold_sweeps_accumulate {m begun : Measurement α κ μ} {guard : AssetGuard}
    {tag : String} {run : StashedRun} (stashed : m.stash.get? tag = some run)
    (started : start guard (some tag) m = .ok ⟨⟩ begun) (ops : List (Operation α))
    (continues : ∀ op ∈ ops, op.Continues)
    (untold : ∀ done, done <+: ops → Counter.Answers Untold (afterAll done begun).counter)
    (kept : ∀ done, done <+: ops → (afterAll done begun).recalled ≠ none) :
    (afterAll ops begun).data.sweeps = readings ops begun * run.sweeps ∧
    ∀ first, first <+: ops → readings first begun = 1 →
      ((afterAll ops begun).data.sweeps = (afterAll first begun).data.sweeps ↔
        readings ops begun = 1 ∨ run.sweeps = 0) := by
  have begins : Counting run 0 begun := by
    obtain ⟨-, counterSettings, outbox, counter, microwave, rfl⟩ := start_of_ok started
    exact fun _ => ⟨stashed, (Nat.zero_mul run.sweeps).symm⟩
  have counted (done : List (Operation α)) (part : done <+: ops) :
      (afterAll done begun).data.sweeps = readings done begun * run.sweeps := by
    have goesOn := begins.afterAll (fun op member => continues op (part.subset member))
      fun shorter before => untold shorter (before.trans part)
    rw [(goesOn (kept done part)).2, Nat.zero_add]
  refine ⟨counted ops List.prefix_rfl, fun first part once => ?_⟩
  rw [counted ops List.prefix_rfl, counted first part, once]
  exact mul_eq_mul_right_iff

/-! A counter that told its sweeps in the stashed run, and does not tell them any more. -/

/-- The measurement with a counter that does not tell its sweeps from now on. -/
def hushed (m : Measurement ℚ (FaultyCounter (MemoryCounter ℚ)) (MemoryMicrowave ℚ)) :
    Measurement ℚ (FaultyCounter (MemoryCounter ℚ)) (MemoryMicrowave ℚ) :=
  { m with counter := .under ⟨fun _ _ => false, true⟩ m.counter.inner }

/-- A run with three readings. -/
def readThrice : List (Operation ℚ) := [.tick, .pause, .refresh, .resume .idle, .tick]

/-- One sweep is stashed, and added three times; it was added once behind the first tick. -/
theorem untold_sweeps_accumulate_thrice :
    ∃ m, ofDevices { benchOptions with evaluation := "sum" } (.under .none pulsing) none = .ok m ∧
      ∃ run begun, (hushed (afterAll stashOnce m)).stash.get? "run" = some run ∧
        start .idle (some "run") (hushed (afterAll stashOnce m)) = .ok ⟨⟩ begun ∧
        run.sweeps = 1 ∧ (afterAll readThrice begun).data.sweeps = 3 ∧
        (afterAll readThrice begun).data.sweeps ≠ (afterAll [.tick] begun).data.sweeps := by
  have ran : (match ofDevices { benchOptions with evaluation := "sum" }
      (.under .none pulsing : FaultyCounter (MemoryCounter ℚ))
      (none : Option (MemoryMicrowave ℚ)) with
    | .ok m =>
      (match (hushed (afterAll stashOnce m)).stash.get? "run" with
        | some run => run.sweeps == 1
        | none => false) &&
      match start .idle (some "run") (hushed (afterAll stashOnce m)) with
      | .ok _ begun =>
        readings readThrice begun == 3 && readings [.tick] begun == 1 &&
        readThrice.inits.all fun done =>
          decide (Counter.Answers Untold (afterAll done begun).counter) &&
          (afterAll done begun).recalled.isSome
      | .error _ _ => false
    | .error _ => false) = true := by decide +kernel
  cases made : ofDevices { benchOptions with evaluation := "sum" }
      (.under .none pulsing : FaultyCounter (MemoryCounter ℚ))
      (none : Option (MemoryMicrowave ℚ)) with
  | error f => rw [made] at ran; cases ran
  | ok m =>
    rw [made] at ran
    obtain ⟨swept, ran⟩ := Bool.and_eq_true_iff.mp ran
    cases stashed : (hushed (afterAll stashOnce m)).stash.get? "run" with
    | none => rw [stashed] at swept; cases swept
    | some run =>
      rw [stashed, beq_iff_eq] at swept
      cases started : start .idle (some "run") (hushed (afterAll stashOnce m)) with
      | error f next => rw [started] at ran; cases ran
      | ok _ begun =>
        rw [started] at ran
        simp only [Bool.and_eq_true, beq_iff_eq] at ran
        obtain ⟨⟨thrice, once⟩, all⟩ := ran
        have always (done : List (Operation ℚ)) (first : done <+: readThrice) :
            Counter.Answers Untold (afterAll done begun).counter ∧
              (afterAll done begun).recalled.isSome = true := by
          have told := List.all_eq_true.mp all done ((List.mem_inits _ _).mpr first)
          rwa [Bool.and_eq_true, decide_eq_true_iff] at told
        obtain ⟨total, grows⟩ := untold_sweeps_accumulate stashed started readThrice
          (by simp [readThrice, Operation.Continues]) (fun done first => (always done first).1)
          fun done first gone => by
            have known := (always done first).2
            rw [gone] at known
            cases known
        refine ⟨m, rfl, run, begun, stashed, started, swept, ?_, fun same => ?_⟩
        · rw [total, thrice, swept]
        · rcases (grows [.tick] ⟨_, rfl⟩ once).mp same with single | nothing
          · rw [thrice] at single
            cases single
          · rw [swept] at nothing
            cases nothing

/-- Two ticks are enough: the sweeps are one behind the first, and two behind the second. -/
theorem untold_sweeps_grow :
    ∃ m, ofDevices { benchOptions with evaluation := "sum" } (.under .none pulsing) none = .ok m ∧
      ∃ begun, start .idle (some "run") (hushed (afterAll stashOnce m)) = .ok ⟨⟩ begun ∧
        Counter.Answers Untold begun.counter ∧
        Counter.Answers Untold (afterAll [.tick] begun).counter ∧
        (afterAll [.tick, .tick] begun).recalled ≠ none ∧
        (afterAll [.tick] begun).data.sweeps = 1 ∧
        (afterAll [.tick, .tick] begun).data.sweeps = 2 := by
  have ran : (match ofDevices { benchOptions with evaluation := "sum" }
      (.under .none pulsing : FaultyCounter (MemoryCounter ℚ))
      (none : Option (MemoryMicrowave ℚ)) with
    | .ok m =>
      match start .idle (some "run") (hushed (afterAll stashOnce m)) with
      | .ok _ begun => decide (Counter.Answers Untold begun.counter ∧
        Counter.Answers Untold (afterAll [.tick] begun).counter ∧
        (afterAll [.tick, .tick] begun).recalled ≠ none ∧
        (afterAll [.tick] begun).data.sweeps = 1 ∧
        (afterAll [.tick, .tick] begun).data.sweeps = 2)
      | .error _ _ => false
    | .error _ => false) = true := by decide +kernel
  cases made : ofDevices { benchOptions with evaluation := "sum" }
      (.under .none pulsing : FaultyCounter (MemoryCounter ℚ))
      (none : Option (MemoryMicrowave ℚ)) with
  | error f => rw [made] at ran; cases ran
  | ok m =>
    rw [made] at ran
    dsimp only at ran
    cases started : start .idle (some "run") (hushed (afterAll stashOnce m)) with
    | error f next => rw [started] at ran; cases ran
    | ok _ begun =>
      rw [started] at ran
      exact ⟨m, rfl, begun, started, of_decide_eq_true ran⟩

end PulseBench.Measurement
