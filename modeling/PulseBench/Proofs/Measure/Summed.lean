import Mathlib.Data.List.Infix
import PulseBench.Proofs.Measure.Continued
import PulseBench.Proofs.Measure.Starting
import PulseBench.Proofs.Measure.Untorn

/-!
# Stashed counts are added once

A counter counts on from the start of a run, so every reading holds all counts of the
run. A run that goes on with a stashed one therefore adds the stashed counts anew to
every reading, and never to counts that they were added to before. The same holds
for the sweeps, if the counter tells them (`Fits`).

It makes no difference whether laser pulses are found in the sums, nor how often the
run is read, interrupted or resumed (`Recalling`).

Results:
1. `withReading_totals`, `pull_totals`: one reading.
2. `lasting_recalling`, `Recalling.afterAll`: a whole run.
3. `stashed_run_added_once`: what every refresh shows, and what a stop stashes.
-/

namespace PulseBench.Measurement

variable {α κ μ : Type} [Analytic α] [Counter α κ]

open Action (Moves after after_of_ok after_of_error)

variable {run : StashedRun} {stash : Roster StashedRun} {m : Measurement α κ μ}

/-! ## 1. Readings -/

section Readings

/-- The reading is of the shape of a stashed run, and tells its sweeps. -/
def Fits (run : StashedRun) (reading : Reading) : Prop :=
  reading.counts.shape = run.counts.shape ∧ reading.sweeps.isSome = true

instance (run : StashedRun) : DecidablePred (Fits run) := fun _ =>
  inferInstanceAs (Decidable (_ ∧ _))

/-- The result holds the counts and sweeps of a reading and those of a stashed run, each once. -/
structure Totals (run : StashedRun) (reading : Reading) (data : MeasurementData α) : Prop where
  counts : reading.counts.IsSum run.counts data.counts
  sweeps : ∃ sweeps, reading.sweeps = some sweeps ∧ data.sweeps = sweeps + run.sweeps

omit [Analytic α] [Counter α κ] in
/-- A run that goes on with a stashed one adds it to a reading of its shape. -/
theorem withReading_totals {reading : Reading} (recalled : m.recalled = some run)
    (fits : Fits run reading) :
    ∃ counts sweeps, withReading reading m = { m with data := { m.data with counts, sweeps } } ∧
      Totals run reading { m.data with counts, sweeps } := by
  obtain ⟨counts, added, isSum⟩ : ∃ counts, continued? run reading.counts = some counts ∧
      reading.counts.IsSum run.counts counts := by
    unfold continued?
    split
    · rename_i nothing
      exact ⟨run.counts, rfl, Counts.isSum_of_isZero fits.1 nothing⟩
    · exact Counts.add?_isSum fits.1
  obtain ⟨sweeps, told⟩ := Option.isSome_iff_exists.mp fits.2
  refine ⟨counts, sweeps + run.sweeps, ?_, isSum, sweeps, told, rfl⟩
  simp only [withReading, recalled, added, told, Option.getD_some]

/-- Whatever comes of the counts, they are in the result, and the run goes on. -/
theorem pull_totals {reading : Reading} {counter : κ} (recalled : m.recalled = some run)
    (answers : Counter.Answers (Fits run) m.counter)
    (answered : (Counter.read : Action α κ Reading) m.counter = .ok reading counter) :
    let next := (pull : Act α κ μ Unit).after m
    Totals run reading next.data ∧ next.recalled = some run := by
  obtain ⟨data, outbox, pulled, counts, sweeps⟩ := pull_after answered
  obtain ⟨counts', sweeps', same, totals⟩ :=
    withReading_totals (m := { m with counter }) recalled (answers reading counter answered)
  rw [same] at pulled counts sweeps
  intro next
  rw [show next = _ from pulled]
  exact ⟨⟨counts ▸ totals.counts, sweeps ▸ totals.sweeps⟩, recalled⟩

end Readings

/-! ## 2. Runs -/

section Runs

/-- The run goes on with a stashed one, or it is over. What is stashed is as it was. -/
structure Recalling (run : StashedRun) (stash : Roster StashedRun) (m : Measurement α κ μ) :
    Prop where
  stash : m.stash = stash
  recalled : m.state ≠ .idle → m.recalled = some run

theorem Recalling.pull (h : Recalling run stash m)
    (answers : Counter.Answers (Fits run) m.counter) :
    Recalling run stash ((pull : Act α κ μ Unit).after m) := by
  cases answered : (Counter.read : Action α κ Reading) m.counter with
  | error f counter =>
    rw [pull_after_of_error answered]
    exact ⟨h.stash, h.recalled⟩
  | ok reading counter =>
    have kept (active : m.state ≠ .idle) := (pull_totals (h.recalled active) answers answered).2
    obtain ⟨data, outbox, pulled, -⟩ := pull_after answered
    obtain ⟨counts, sweeps, recalled, same⟩ := withReading_eq reading { m with counter }
    rw [same] at pulled
    rw [pulled] at kept ⊢
    exact ⟨h.stash, kept⟩

variable [Microwave α μ]

omit [Analytic α] in
theorem lasting_recalling (run : StashedRun) (stash : Roster StashedRun) :
    Lasting (Recalling (α := α) (κ := κ) (μ := μ) run stash) where
  pauseCounter m h := by
    rw [onCounter_after]
    exact ⟨h.stash, h.recalled⟩
  resumeCounter m h := by
    rw [onCounter_after]
    exact ⟨h.stash, h.recalled⟩
  microwave _ _ h := ⟨h.stash, h.recalled⟩
  outbox _ _ h := ⟨h.stash, h.recalled⟩
  state _ _ h active _ := ⟨h.stash, fun _ => h.recalled active⟩
  failStop cause m h := by
    obtain ⟨microwave, outbox, ended⟩ := failStop_after cause m
    rw [ended]
    exact ⟨h.stash, fun active => absurd rfl active⟩

/-- A run goes on with the stashed one as long as it lasts, if all readings fit. -/
theorem Recalling.afterAll {ops : List (Operation α)} (h : Recalling run stash m)
    (continues : ∀ op ∈ ops, op.Continues)
    (answers : ∀ done, done <+: ops → Counter.Answers (Fits run) (afterAll done m).counter) :
    Recalling run stash (afterAll ops m) := by
  induction ops generalizing m with
  | nil => exact h
  | cons op rest ih =>
    have pulled := h.pull (answers [] List.nil_prefix)
    refine ih ((lasting_recalling run stash).operation (continues op List.mem_cons_self) h pulled)
      (fun other member => continues other (List.mem_cons_of_mem _ member)) fun done first => ?_
    exact answers (op :: done) ((List.prefix_cons_inj op).mpr first)

/-! ## 3. From the start to the end -/

/-- A run that is about to be ended, behind its last refresh. An interrupted one has none. -/
def finished (m : Measurement α κ μ) : Measurement α κ μ :=
  if m.state = .running then (pull : Act α κ μ Unit).after m.stopping else m.stopping

omit [Microwave α μ] in
theorem Recalling.finished (h : Recalling run stash m) (active : m.state ≠ .idle)
    (answers : Counter.Answers (Fits run) m.counter) : Recalling run stash m.finished := by
  have announced : Recalling run stash m.stopping := ⟨h.stash, fun _ => h.recalled active⟩
  unfold Measurement.finished
  split
  · exact announced.pull answers
  · exact announced

/-- A stop stashes the result as it is behind the last refresh, and touches no other tag. -/
theorem stop_stashes (active : m.state ≠ .idle) (tag : String) :
    let stopped := (stop (some tag)).after m
    stopped.data = m.finished.data ∧ stopped.stash =
      m.finished.stash.insert tag ⟨m.finished.data.counts, m.finished.data.sweeps⟩ := by
  have ends : stop (some tag) m = wrapUp (some tag) m.finished := by
    unfold Measurement.finished
    by_cases running : m.state = .running
    · rw [if_pos running, stop_of_running running]
    · rw [if_neg running, stop_of_interrupted active running]
  rw [after, Action.run, ends]
  exact ⟨wrapUp_sameData (some tag) m.finished, wrapUp_stash (some tag) m.finished⟩

/-- A measurement is started with a tag, and there is a run stashed under it. Then any of ticks,
refreshes, pauses and resumptions follow, and the run is not over. As far as the counter answers in
it, its readings are of the shape of the stashed run and tell their sweeps. The next refresh, by a
tick or on request, may fail behind the reading, but its result holds the sums of the stashed counts
and those of the reading, bin by bin, and so it is with the sweeps. A stop stashes counts and sweeps
as they are behind its last refresh, where they are these sums if the counter was read. What is
stashed under other tags stays. -/
theorem stashed_run_added_once {m begun : Measurement α κ μ} {guard : AssetGuard}
    {tag : String} {run : StashedRun} (stashed : m.stash.get? tag = some run)
    (started : start guard (some tag) m = .ok ⟨⟩ begun) (ops : List (Operation α))
    (continues : ∀ op ∈ ops, op.Continues)
    (answers : ∀ done, done <+: ops → Counter.Answers (Fits run) (afterAll done begun).counter)
    (active : (afterAll ops begun).state ≠ .idle) :
    let now := afterAll ops begun
    (∀ reading counter, (Counter.read : Action α κ Reading) now.counter = .ok reading counter →
      Totals run reading (refresh.after now).data ∧
      (now.state = .running → Totals run reading (tick.after now).data ∧
        Totals run reading now.finished.data)) ∧
    ∀ tag,
      let stopped := (stop (some tag)).after now
      stopped.data = now.finished.data ∧
      stopped.stash.get? tag = some ⟨now.finished.data.counts, now.finished.data.sweeps⟩ ∧
      ∀ other, other ≠ tag → stopped.stash.get? other = m.stash.get? other := by
  intro now
  have begins : Recalling run m.stash begun := by
    obtain ⟨-, counterSettings, outbox, counter, microwave, rfl⟩ := start_of_ok started
    exact ⟨rfl, fun _ => stashed⟩
  have goesOn : Recalling run m.stash now := begins.afterAll continues answers
  have answersNow : Counter.Answers (Fits run) now.counter := answers ops List.prefix_rfl
  refine ⟨fun reading counter answered => ⟨?_, fun running => ⟨?_, ?_⟩⟩, fun tag => ?_⟩
  · rw [refresh_data]
    exact (pull_totals (goesOn.recalled active) answersNow answered).1
  · rw [tick_data running]
    exact (pull_totals (goesOn.recalled active) answersNow answered).1
  · rw [Measurement.finished, if_pos running]
    exact (pull_totals (m := now.stopping) (goesOn.recalled active) answersNow answered).1
  · obtain ⟨data, stash⟩ := stop_stashes active tag
    refine ⟨data, ?_, fun other differs => ?_⟩
    · rw [stash]
      exact Roster.get?_insert_self _ tag _
    · rw [stash, (goesOn.finished active answersNow).stash]
      exact Roster.get?_insert_of_ne _ _ differs

end Runs

/-! One sweep is stashed, and the run that goes on with it is interrupted once. -/

/-- A refresh during a run, and one while it is interrupted. -/
def readTwice : List (Operation ℚ) := [.tick, .pause, .refresh, .resume .idle]

/-- The next tick reads the second sweep and shows three; and a stop with another tag leaves the run
that is stashed. -/
theorem stashed_run_added_once_interrupted :
    ∃ m, ofDevices { benchOptions with evaluation := "sum" } pulsing
        (none : Option (MemoryMicrowave ℚ)) = .ok m ∧
      ∃ run begun, (afterAll stashOnce m).stash.get? "run" = some run ∧
        start .idle (some "run") (afterAll stashOnce m) = .ok ⟨⟩ begun ∧
        let now := afterAll readTwice begun
        (∃ counts counter, (Counter.read : Action ℚ (MemoryCounter ℚ) Reading) now.counter =
            .ok ⟨counts, some 2⟩ counter ∧
          counts.IsSum run.counts (tick.after now).data.counts ∧ (tick.after now).data.sweeps = 3) ∧
        ((stop (some "other")).after now).stash.get? "run" = some run := by
  have ran : (match ofDevices { benchOptions with evaluation := "sum" } pulsing
      (none : Option (MemoryMicrowave ℚ)) with
    | .ok m =>
      match (afterAll stashOnce m).stash.get? "run" with
      | some run =>
        run.sweeps == 1 &&
        match start .idle (some "run") (afterAll stashOnce m) with
        | .ok _ begun =>
          let now := afterAll readTwice begun
          now.state == .running &&
          (readTwice.inits.all fun done =>
            decide (Counter.Answers (Fits run) (afterAll done begun).counter)) &&
          match (Counter.read : Action ℚ (MemoryCounter ℚ) Reading) now.counter with
          | .ok reading _ => reading.sweeps == some 2
          | .error _ _ => false
        | .error _ _ => false
      | none => false
    | .error _ => false) = true := by decide +kernel
  cases made : ofDevices { benchOptions with evaluation := "sum" } pulsing
      (none : Option (MemoryMicrowave ℚ)) with
  | error f => rw [made] at ran; cases ran
  | ok m =>
    rw [made] at ran
    dsimp only at ran
    cases stashed : (afterAll stashOnce m).stash.get? "run" with
    | none => rw [stashed] at ran; cases ran
    | some run =>
      rw [stashed] at ran
      obtain ⟨once, ran⟩ := Bool.and_eq_true_iff.mp ran
      rw [beq_iff_eq] at once
      cases started : start .idle (some "run") (afterAll stashOnce m) with
      | error f next => rw [started] at ran; cases ran
      | ok _ begun =>
        rw [started] at ran
        simp only [Bool.and_eq_true, beq_iff_eq] at ran
        obtain ⟨⟨running, answers⟩, twice⟩ := ran
        have fits (done : List (Operation ℚ)) (first : done <+: readTwice) :
            Counter.Answers (Fits run) (afterAll done begun).counter :=
          of_decide_eq_true (List.all_eq_true.mp answers done ((List.mem_inits _ _).mpr first))
        obtain ⟨sums, stops⟩ := stashed_run_added_once stashed started readTwice
          (by simp [readTwice, Operation.Continues]) fits (by rw [running]; decide)
        refine ⟨m, rfl, run, begun, stashed, started, ?_, ?_⟩
        · cases answered : (Counter.read : Action ℚ (MemoryCounter ℚ) Reading)
            (afterAll readTwice begun).counter with
          | error f next => rw [answered] at twice; cases twice
          | ok reading counter =>
            rw [answered, beq_iff_eq] at twice
            obtain ⟨counts, told⟩ := reading
            obtain rfl : told = some 2 := twice
            obtain ⟨counted, sweeps, told, shown⟩ := ((sums _ counter answered).2 running).1
            cases told
            exact ⟨counts, counter, rfl, counted, shown.trans (by rw [once])⟩
        · exact ((stops "other").2.2 "run" (by decide)).trans stashed

end PulseBench.Measurement
