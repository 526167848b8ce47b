import PulseBench.Proofs.Counting.Reading
import PulseBench.Proofs.Exact
import PulseBench.Proofs.Measure.Coupling
import PulseBench.Proofs.Measure.Lasting
import PulseBench.Proofs.Roster

/-!
# Going on with a stashed run

A run that is started with a tag goes on with the run stashed under it: its counts
and sweeps are added to those of every reading. A stop with the same tag stashes
the sum.

It does so as soon as the counter was read once. A start clears the counts, and
only a reading brings the stashed ones back. A stop reads the counter itself unless
the run is interrupted, so there is exactly one way to lose a stashed run: to start
with its tag, to interrupt the run before the first reading, and to stop it with
the tag (`stop_forgets_unread_run`).

Results:
1. `pull_after`, `failStop_data`, `wrapUp_stash`: what a reading and the end of a
   run leave behind. `refresh_data`, `tick_data`: results come from readings alone.
2. `Adding.pull`: one reading of a run that goes on with another.
3. `GoesOn.operation`, `GoesOn.afterAll`: ticks, refreshes, pauses and resumptions.
4. `continued_run_kept_iff_read`: what is stashed in the end.
-/

namespace PulseBench

/-- No less in any bin of the same shape, and no fewer sweeps. -/
structure StashedRun.AtMost (a b : StashedRun) : Prop where
  counts : a.counts.AtMost b.counts
  sweeps : a.sweeps ≤ b.sweeps

theorem StashedRun.AtMost.refl (a : StashedRun) : a.AtMost a := ⟨.refl _, le_rfl⟩

namespace Measurement

variable {α κ μ : Type}

open Action (Moves after after_of_ok after_of_error)

/-! ## 1. Readings and the end of a run -/

section Steps

variable [Analytic α] [Counter α κ]

omit [Counter α κ] in
/-- The counts of the result are those it is worked out from. -/
theorem analysed_counts {m : Measurement α κ μ} {data : MeasurementData α}
    (h : m.analysed = .ok data) : data.counts = m.data.counts ∧ data.sweeps = m.data.sweeps := by
  obtain ⟨extraction, -, h⟩ := bind_eq_ok.mp h
  obtain ⟨estimates, -, h⟩ := bind_eq_ok.mp h
  obtain ⟨arranged, -, h⟩ := bind_eq_ok.mp h
  cases h
  exact ⟨rfl, rfl⟩

/-- A refresh that read the counter leaves the counts of the reading, whatever comes of them. -/
theorem pull_after {m : Measurement α κ μ} {reading : Reading} {counter : κ}
    (answered : (Counter.read : Action α κ Reading) m.counter = .ok reading counter) :
    let read := withReading reading { m with counter }
    ∃ data outbox, (pull : Act α κ μ Unit).after m = { read with data, outbox } ∧
      data.counts = read.data.counts ∧ data.sweeps = read.data.sweeps := by
  intro read
  have opening : (pull : Act α κ μ Unit) m = (do
      let data ← Action.lift read.analysed
      modify fun m => { m with data }
      announce (.result data) : Act α κ μ Unit) read := by
    unfold pull
    rw [Action.bind_of_ok (onCounter_ok answered), Action.bind_of_ok (Action.modify_apply _ _),
      Action.bind_of_ok (Action.get_apply _)]
  rw [after, Action.run, opening]
  cases analysed : read.analysed with
  | error f =>
    rw [Action.bind_of_error (Action.lift_error f read)]
    exact ⟨read.data, read.outbox, rfl, rfl, rfl⟩
  | ok data =>
    obtain ⟨counts, sweeps⟩ := analysed_counts analysed
    exact ⟨data, _, rfl, counts, sweeps⟩

theorem pull_after_of_error {m : Measurement α κ μ} {f : Failure α} {counter : κ}
    (failed : (Counter.read : Action α κ Reading) m.counter = .error f counter) :
    (pull : Act α κ μ Unit).after m = { m with counter } :=
  after_of_error (Action.bind_of_error (onCounter_error failed))

variable [Microwave α μ]

omit [Analytic α] in
theorem failStop_data (cause : Failure α) (m : Measurement α κ μ) :
    ((failStop cause : Act α κ μ Unit).after m).data = m.data := by
  obtain ⟨microwave, outbox, ended⟩ := failStop_after cause m
  rw [ended]

/-- What becomes of a failed refresh does not touch the result any more. -/
theorem refresh_data (m : Measurement α κ μ) :
    ((refresh : Act α κ μ Unit).after m).data = ((pull : Act α κ μ Unit).after m).data := by
  rcases refresh_cases m with ⟨next, pulled, refreshed⟩ | ⟨f, behind, pulled, refreshed⟩
  · rw [after_of_ok refreshed, after_of_ok pulled]
  · rw [after_of_error refreshed, after_of_error pulled]
    split
    · exact failStop_data f behind
    · rfl

theorem tick_data {m : Measurement α κ μ} (running : m.state = .running) :
    ((tick : Act α κ μ Bool).after m).data = ((pull : Act α κ μ Unit).after m).data := by
  rcases tick_of_running running with ⟨next, pulled, ticked⟩ | ⟨f, behind, pulled, ticked⟩
  · rw [after_of_ok ticked, after_of_ok pulled]
  · rw [after_of_error ticked, after_of_error pulled]
    split
    · exact failStop_data f behind
    · rfl

omit [Analytic α] in
/-- The end of a run stashes its counts if it is told to. -/
theorem wrapUp_stash (tag : Option String) (m : Measurement α κ μ) :
    ((wrapUp tag : Act α κ μ Unit).after m).stash = (m.withStash tag).stash := by
  obtain ⟨microwave, outbox, ended⟩ := wrapUp_after tag m
  rw [ended]

end Steps

/-! ## 2. A reading that adds to a stashed run -/

variable {run : StashedRun} {blank : Counts} {reads : Nat} {tag : String}
  {m next : Measurement α (MemoryCounter α) μ}

/-- The run goes on with a stashed one. Since it began, when the counter had been read `reads` times,
either nothing was read and the counts are still `blank`, or the counts contain the stashed ones. -/
structure Adding (run : StashedRun) (blank : Counts) (reads : Nat)
    (m : Measurement α (MemoryCounter α) μ) : Prop where
  recalled : m.recalled = some run
  counted : m.counter.Counted run.counts.shape
  read : reads ≤ m.counter.reads
  before : m.counter.reads = reads → m.data.counts = blank ∧ m.data.sweeps = 0
  behind : m.counter.reads ≠ reads → run.AtMost ⟨m.data.counts, m.data.sweeps⟩

/-- Counts that are of the shape of the stashed ones, or nothing at all, are added to them. -/
theorem withReading_adds {reading : Reading} (recalled : m.recalled = some run)
    (fits : reading.counts.isZero = true ∨ reading.counts.shape = run.counts.shape) :
    ∃ counts sweeps, withReading reading m = { m with data := { m.data with counts, sweeps } } ∧
      run.AtMost ⟨counts, sweeps⟩ := by
  obtain ⟨counts, added, grown⟩ : ∃ counts, continued? run reading.counts = some counts ∧
      run.counts.AtMost counts := by
    unfold continued?
    split
    · exact ⟨run.counts, rfl, .refl _⟩
    · rename_i counting
      exact Counts.atMost_add (fits.resolve_left counting)
  refine ⟨counts, _, ?_, grown, Nat.le_add_left run.sweeps (reading.sweeps.getD m.data.sweeps)⟩
  simp only [withReading, recalled, added]

section Running

variable [Analytic α] [Microwave α μ]

omit [Microwave α μ] in
/-- One reading brings the stashed counts in. -/
theorem Adding.pull (h : Adding run blank reads m) (fits : m.counter.Fits run.counts.shape) :
    let next := (pull : Act α (MemoryCounter α) μ Unit).after m
    Adding run blank reads next ∧ reads < next.counter.reads := by
  obtain ⟨reading, counter, answered, -, count, counted⟩ := MemoryCounter.read_ok fits
  obtain ⟨counted, shape⟩ := counted h.counted
  obtain ⟨data, outbox, pulled, counts, sweeps⟩ := pull_after answered
  obtain ⟨counts', sweeps', same, grown⟩ :=
    withReading_adds (m := { m with counter }) h.recalled shape
  rw [same] at pulled counts sweeps
  have more : reads < counter.reads := count ▸ Nat.lt_succ_of_le h.read
  intro next
  rw [show next = _ from pulled]
  refine ⟨⟨h.recalled, counted, more.le, fun none => absurd none more.ne', fun _ => ?_⟩, more⟩
  rw [counts, sweeps]
  exact grown

/-! ## 3. Operations during the run -/

/-- The stashed run is there, and the counter counts in its shape. -/
structure Stashed (tag : String) (run : StashedRun) (m : Measurement α (MemoryCounter α) μ) :
    Prop where
  stashed : m.stash.get? tag = some run
  fits : m.counter.Fits run.counts.shape

/-- A run that goes on with a stashed one, or that is over. -/
structure GoesOn (tag : String) (run : StashedRun) (blank : Counts) (reads : Nat)
    (m : Measurement α (MemoryCounter α) μ) : Prop extends Stashed tag run m where
  notStopping : m.state ≠ .stopping
  active : m.state ≠ .idle → Adding run blank reads m

/-- Nothing differs that counts are made from. -/
structure SameCounts (before after : Measurement α (MemoryCounter α) μ) : Prop where
  stash : after.stash = before.stash
  recalled : after.recalled = before.recalled
  data : after.data = before.data
  pattern : after.counter.pattern = before.counter.pattern
  silentFrom : after.counter.silentFrom = before.counter.silentFrom
  accumulated : after.counter.accumulated = before.counter.accumulated
  reads : after.counter.reads = before.counter.reads

omit [Analytic α] [Microwave α μ] in
theorem SameCounts.adding (same : SameCounts m next) (h : Adding run blank reads m) :
    Adding run blank reads next where
  recalled := same.recalled.trans h.recalled
  counted counts known := h.counted counts (same.accumulated ▸ known)
  read := same.reads.symm ▸ h.read
  before unread := by
    rw [same.data]
    exact h.before (same.reads ▸ unread)
  behind read := by
    rw [same.data]
    exact h.behind (same.reads ▸ read)

omit [Analytic α] [Microwave α μ] in
theorem SameCounts.stashed (same : SameCounts m next) (h : Stashed tag run m) :
    Stashed tag run next where
  stashed := same.stash ▸ h.stashed
  fits := ⟨same.silentFrom.trans h.fits.answers, fun p known =>
    h.fits.pattern p (same.pattern ▸ known)⟩

/-- A failing device ends the run, and what is stashed stays. -/
theorem Stashed.failStop (h : Stashed tag run m) (cause : Failure α) :
    GoesOn tag run blank reads ((failStop cause).after m) := by
  obtain ⟨microwave, outbox, ended⟩ := failStop_after cause m
  rw [ended]
  exact ⟨⟨h.stashed, h.fits.answers, h.fits.pattern⟩, nofun, fun active => absurd rfl active⟩

omit [Microwave α μ] in
theorem GoesOn.pull (h : GoesOn tag run blank reads m) :
    GoesOn tag run blank reads ((pull : Act α (MemoryCounter α) μ Unit).after m) := by
  obtain ⟨reading, counter, answered, fits, -⟩ := MemoryCounter.read_ok h.fits
  obtain ⟨data, outbox, pulled, -⟩ := pull_after answered
  obtain ⟨counts, sweeps, recalled, same⟩ := withReading_eq reading { m with counter }
  have adds (active : m.state ≠ .idle) := ((h.active active).pull h.fits).1
  rw [same] at pulled
  rw [pulled] at adds ⊢
  exact ⟨⟨h.stashed, fits⟩, h.notStopping, adds⟩

omit [Analytic α] [Microwave α μ] in
theorem SameCounts.goesOn (same : SameCounts m next) (state : next.state = m.state)
    (h : GoesOn tag run blank reads m) : GoesOn tag run blank reads next :=
  ⟨same.stashed h.toStashed, state ▸ h.notStopping, fun active =>
    same.adding (h.active (state ▸ active))⟩

/-- Devices, announcements and interruptions leave the counts alone. -/
theorem lasting_goesOn (tag : String) (run : StashedRun) (blank : Counts) (reads : Nat) :
    Lasting (GoesOn (α := α) (μ := μ) tag run blank reads) where
  pauseCounter m h := by
    rw [onCounter_after]
    exact SameCounts.goesOn (m := m) ⟨rfl, rfl, rfl, rfl, rfl, rfl, rfl⟩ rfl h
  resumeCounter m h := by
    rw [onCounter_after]
    exact SameCounts.goesOn (m := m) ⟨rfl, rfl, rfl, rfl, rfl, rfl, rfl⟩ rfl h
  microwave m _ h := SameCounts.goesOn (m := m) ⟨rfl, rfl, rfl, rfl, rfl, rfl, rfl⟩ rfl h
  outbox m _ h := SameCounts.goesOn (m := m) ⟨rfl, rfl, rfl, rfl, rfl, rfl, rfl⟩ rfl h
  state m state h active target := by
    have same : SameCounts m { m with state } := ⟨rfl, rfl, rfl, rfl, rfl, rfl, rfl⟩
    refine ⟨same.stashed h.toStashed, ?_, fun _ => same.adding (h.active active)⟩
    rcases target with rfl | rfl <;> exact nofun
  failStop cause _ h := h.toStashed.failStop cause

theorem GoesOn.operation (h : GoesOn tag run blank reads m) {op : Operation α}
    (continues : op.Continues) : GoesOn tag run blank reads (op.after m) :=
  (lasting_goesOn tag run blank reads).operation continues h h.pull

theorem GoesOn.afterAll (h : GoesOn tag run blank reads m) {ops : List (Operation α)}
    (continues : ∀ op ∈ ops, op.Continues) : GoesOn tag run blank reads (afterAll ops m) := by
  induction ops generalizing m with
  | nil => exact h
  | cons op rest ih =>
    exact ih (h.operation (continues op List.mem_cons_self)) fun other member =>
      continues other (List.mem_cons_of_mem _ member)

/-! ## 4. From the start to the end -/

/-- A measurement that waits for a start, with a stashed run. -/
structure Waiting (tag : String) (run : StashedRun) (m : Measurement α (MemoryCounter α) μ) :
    Prop extends Stashed tag run m where
  idle : m.state = .idle

omit [Analytic α] [Microwave α μ] in
theorem Waiting.goesOn (h : Waiting tag run m) : GoesOn tag run blank reads m :=
  ⟨h.toStashed, h.idle ▸ nofun, fun active => absurd h.idle active⟩

omit [Microwave α μ] in
/-- Settings taken over from the asset may configure the counter, and that is all. -/
theorem waiting_invokeReadout (tag : String) (run : StashedRun) :
    Moves (fun a b => Waiting tag run a → Waiting tag run b)
      (invokeReadout : Act α (MemoryCounter α) μ Unit) := by
  have trans (a b c : Measurement α (MemoryCounter α) μ)
      (first : Waiting tag run a → Waiting tag run b)
      (second : Waiting tag run b → Waiting tag run c) : Waiting tag run a → Waiting tag run c :=
    second ∘ first
  have changing {f : Measurement α (MemoryCounter α) μ → Measurement α (MemoryCounter α) μ}
      (same : ∀ m, (f m).stash = m.stash ∧ (f m).counter = m.counter ∧ (f m).state = m.state) :
      Moves (fun a b => Waiting tag run a → Waiting tag run b)
        (modify f : Act α (MemoryCounter α) μ PUnit) := by
    refine Moves.modify fun m h => ?_
    obtain ⟨stash, counter, state⟩ := same m
    exact ⟨⟨stash ▸ h.stashed, counter ▸ h.fits⟩, state.trans h.idle⟩
  have configuring (requested : CounterSettings α) :
      Moves (fun a b => Waiting tag run a → Waiting tag run b)
        (configure requested : Act α (MemoryCounter α) μ Unit) := by
    refine Moves.bind trans (fun m => ?_) fun _ => changing fun _ => ⟨rfl, rfl, rfl⟩
    rw [onCounter_after]
    exact fun h => ⟨⟨h.stashed, MemoryCounter.configure_fits _ requested m.counter h.fits⟩, h.idle⟩
  have adapting (needed : Prop) [Decidable needed] (requested : CounterSettings α) :
      Moves (fun a b => Waiting tag run a → Waiting tag run b) (do
        if needed then configure requested
        modify clearData : Act α (MemoryCounter α) μ Unit) := by
    have clearing : Moves (fun a b => Waiting tag run a → Waiting tag run b)
        (modify clearData : Act α (MemoryCounter α) μ PUnit) :=
      changing fun _ => ⟨rfl, rfl, rfl⟩
    by_cases needs : needed
    · simp only [needs, if_true]
      exact Moves.bind trans (configuring requested) fun _ => clearing
    · simp only [needs, if_false]
      exact clearing
  refine Moves.get_bind fun m => ?_
  cases m.asset with
  | none => exact id
  | some info =>
    dsimp only
    cases info.metadata.readout with
    | none => exact id
    | some readout =>
      dsimp only
      refine Moves.bind trans (changing fun _ => ?_) (fun _ => ?_) m
      · exact ⟨rfl, rfl, rfl⟩
      refine Moves.get_bind fun m => ?_
      exact adapting _ _ m

omit [Analytic α] in
/-- The counter begins anew, unless the source fails. -/
theorem startDevices_cases [Scalar α] (m : Measurement α (MemoryCounter α) μ) :
    (∃ f microwave, startDevices m = .error f { m with microwave }) ∨
    ∃ microwave, startDevices m = .ok ⟨⟩
      { m with counter := (Counter.start : Action α (MemoryCounter α) Unit).after m.counter
               microwave } := by
  obtain ⟨microwave, switched⟩ := switchMicrowave_after true m
  unfold startDevices
  cases done : Measurement.switchMicrowave true m with
  | error f behind =>
    rw [after_of_error done] at switched
    subst switched
    exact Or.inl ⟨f, microwave, Action.bind_of_error done⟩
  | ok _ middle =>
    rw [after_of_ok done] at switched
    subst switched
    rw [Action.bind_of_ok done]
    exact Or.inr ⟨microwave, rfl⟩

/-- A run that begins with blank counts goes on with the stashed one, if the devices start. -/
theorem Waiting.begin (h : Waiting tag run m) :
    let begun := (do
      modify fun m => { m.clearData with recalled := (some tag).bind m.stash.get? }
      startDevices
      setState .running : Act α (MemoryCounter α) μ Unit).after m
    GoesOn tag run begun.counterSettings.zeros begun.counter.reads begun := by
  rw [after, Action.run, Action.bind_of_ok (Action.modify_apply _ m)]
  rcases startDevices_cases { m.clearData with recalled := (some tag).bind m.stash.get? } with
    ⟨f, microwave, failed⟩ | ⟨microwave, done⟩
  · rw [Action.bind_of_error failed]
    exact Waiting.goesOn ⟨⟨h.stashed, h.fits⟩, h.idle⟩
  · rw [Action.bind_of_ok done]
    refine ⟨⟨h.stashed, h.fits.answers, h.fits.pattern⟩, RunState.noConfusion, fun _ => ?_⟩
    exact ⟨h.stashed, fun _ found => (Option.some_ne_none _ found.symm).elim, le_rfl,
      fun _ => ⟨rfl, rfl⟩, fun read => absurd rfl read⟩

/-- A start with the tag either does not begin a run, or the run goes on with the stashed one. -/
theorem Waiting.start (h : Waiting tag run m) (guard : AssetGuard) :
    let begun := (start guard (some tag)).after m
    GoesOn tag run begun.counterSettings.zeros begun.counter.reads begun := by
  unfold Measurement.start
  rw [after, Action.run, Action.bind_of_ok (Action.get_apply m)]
  rcases ensureIdle_cases "the run state" m with ⟨-, passed⟩ | ⟨busy, -⟩
  · rw [passed, Action.bind_of_ok (Action.lift_ok _ m), Action.bind_of_ok (Action.get_apply m)]
    cases ready : m.ensureAssetReady guard with
    | error f =>
      rw [Action.bind_of_error (Action.lift_error f m)]
      exact h.goesOn
    | ok _ =>
      rw [Action.bind_of_ok (Action.lift_ok _ m), Action.bind_of_ok (Action.get_apply m)]
      by_cases invokes : m.settings.invoke = true
      · rw [if_pos invokes]
        have waits := waiting_invokeReadout tag run m h
        cases done : (invokeReadout : Act α (MemoryCounter α) μ Unit) m with
        | error f middle =>
          rw [after_of_error done] at waits
          rw [Action.bind_of_error done]
          exact waits.goesOn
        | ok _ middle =>
          rw [after_of_ok done] at waits
          rw [Action.bind_of_ok done]
          exact waits.begin
      · rw [if_neg invokes]
        exact h.begin
  · exact absurd h.idle busy

/-- What a stop with the tag leaves stashed. It reads the counter before, unless the run is
interrupted. -/
theorem GoesOn.stop (h : GoesOn tag run blank reads m) :
    let stashed := ((stop (some tag)).after m).stash.get? tag
    (¬ (m.state = .paused ∧ m.counter.reads = reads) →
      ∃ kept, stashed = some kept ∧ run.AtMost kept) ∧
    (m.state = .paused ∧ m.counter.reads = reads → stashed = some ⟨blank, 0⟩) := by
  intro stashed
  have stashing (m : Measurement α (MemoryCounter α) μ) :
      ((wrapUp (some tag) : Act α (MemoryCounter α) μ Unit).after m).stash.get? tag =
        some ⟨m.data.counts, m.data.sweeps⟩ := by
    rw [wrapUp_stash]
    exact m.stash.get?_insert_self tag _
  have announced : SameCounts m m.stopping := ⟨rfl, rfl, rfl, rfl, rfl, rfl, rfl⟩
  cases state : m.state with
  | idle =>
    have untouched : (Measurement.stop (some tag)).after m = m :=
      after_of_ok (stop_of_idle state (some tag))
    have same : stashed = some run := by
      change ((Measurement.stop (some tag)).after m).stash.get? tag = some run
      rw [untouched]
      exact h.stashed
    exact ⟨fun _ => ⟨run, same, .refl run⟩, nofun⟩
  | running =>
    have adding := announced.adding (h.active (by rw [state]; decide))
    obtain ⟨added, more⟩ := adding.pull (announced.stashed h.toStashed).fits
    refine ⟨fun _ => ⟨_, ?_, added.behind more.ne'⟩, nofun⟩
    change ((Measurement.stop (some tag)).after m).stash.get? tag = _
    rw [after, Action.run, stop_of_running state (some tag)]
    exact stashing _
  | paused =>
    have adding := h.active (by rw [state]; decide)
    have same : stashed = some ⟨m.data.counts, m.data.sweeps⟩ := by
      change ((Measurement.stop (some tag)).after m).stash.get? tag = _
      rw [after, Action.run, stop_of_interrupted (by rw [state]; decide) (by rw [state]; decide)]
      exact stashing m.stopping
    refine ⟨fun read => ⟨_, same, adding.behind fun unread => read ⟨rfl, unread⟩⟩, fun unread => ?_⟩
    obtain ⟨counts, sweeps⟩ := adding.before unread.2
    rw [same, counts, sweeps]
  | stopping => exact absurd state h.notStopping

/-- From a measurement that waits, with a run stashed under a tag and a counter that answers and
counts in the shape of that run: start with the tag, do anything of ticks, refreshes, pauses and
resumptions, and stop with the tag. If the run is then interrupted and was never read, the blank
counts that it began with are stashed in place of the run. In every other case what is stashed has
no less in any bin, and no fewer sweeps. -/
theorem continued_run_kept_iff_read (m : Measurement α (MemoryCounter α) μ) (idle : m.state = .idle)
    (answers : m.counter.silentFrom = none) (tag : String) (run : StashedRun)
    (stashed : m.stash.get? tag = some run)
    (shape : ∀ pattern, m.counter.pattern = some pattern → pattern.shape = run.counts.shape)
    (guard : AssetGuard) (ops : List (Operation α)) (continues : ∀ op ∈ ops, op.Continues) :
    let begun := (start guard (some tag)).after m
    let last := afterAll ops begun
    let unread := last.state = .paused ∧ last.counter.reads = begun.counter.reads
    let behind := ((stop (some tag)).after last).stash.get? tag
    (¬ unread → ∃ kept, behind = some kept ∧ run.AtMost kept) ∧
    (unread → behind = some ⟨begun.counterSettings.zeros, 0⟩) := by
  intro begun last
  have waits : Waiting tag run m := ⟨⟨stashed, answers, shape⟩, idle⟩
  have begins : GoesOn tag run begun.counterSettings.zeros begun.counter.reads begun :=
    waits.start guard
  exact (begins.afterAll continues).stop

end Running

/-! A stashed run of one sweep. -/

/-- Counts one pulse of twelve bins in every sweep. -/
def pulsing : MemoryCounter ℚ :=
  { (.fresh false : MemoryCounter ℚ) with pattern := some (.trace (pulseTrace 20 [4] 12 5 0)) }

/-- One sweep is counted and stashed. -/
def stashOnce : List (Operation ℚ) :=
  [.setSettings
      { (.default : MeasurementSettings ℚ) with invoke := false, axis := [1], lasers := 1 },
    .start .idle none, .stop (some "run")]

/-- The measurement goes on with that run. It is interrupted before the counter was read, and goes
on, so that the stop reads the counter. -/
theorem continued_run_kept_of_resumed :
    ∃ m : Measurement ℚ (MemoryCounter ℚ) (MemoryMicrowave ℚ),
      ofDevices { benchOptions with evaluation := "sum" } pulsing none = .ok m ∧
      ∃ run kept, (afterAll stashOnce m).stash.get? "run" = some run ∧
        ((stop (some "run")).after (afterAll [.pause, .resume .idle]
          ((start .idle (some "run")).after (afterAll stashOnce m)))).stash.get? "run" = some kept ∧
        run.sweeps = 1 ∧ run.AtMost kept := by
  have ran : (match ofDevices { benchOptions with evaluation := "sum" } pulsing
      (none : Option (MemoryMicrowave ℚ)) with
    | .ok m =>
      let waits := afterAll stashOnce m
      match waits.stash.get? "run" with
      | some run =>
        waits.state == .idle && waits.counter.silentFrom == none &&
        (waits.counter.pattern.all fun pattern => pattern.shape == run.counts.shape) &&
        run.sweeps == 1 &&
        (afterAll [.pause, .resume .idle] ((start .idle (some "run")).after waits)).state == .running
      | none => false
    | .error _ => false) = true := by decide +kernel
  cases started : ofDevices { benchOptions with evaluation := "sum" } pulsing
      (none : Option (MemoryMicrowave ℚ)) with
  | error f => rw [started] at ran; cases ran
  | ok m =>
    rw [started] at ran
    dsimp only at ran
    cases stashed : (afterAll stashOnce m).stash.get? "run" with
    | none => rw [stashed] at ran; cases ran
    | some run =>
      rw [stashed] at ran
      simp only [Bool.and_eq_true, beq_iff_eq] at ran
      obtain ⟨⟨⟨⟨idle, answers⟩, shape⟩, once⟩, running⟩ := ran
      have fits : ∀ pattern, (afterAll stashOnce m).counter.pattern = some pattern →
          pattern.shape = run.counts.shape := by
        intro pattern known
        rw [known] at shape
        exact eq_of_beq shape
      obtain ⟨kept, same, atMost⟩ := (continued_run_kept_iff_read (afterAll stashOnce m) idle answers
        "run" run stashed fits .idle [.pause, .resume .idle] (by simp [Operation.Continues])).1
        fun unread => nomatch running.symm.trans unread.1
      exact ⟨m, rfl, run, kept, stashed, same, once, atMost⟩

/-- The measurement goes on with that run, and is stopped while it is interrupted, before the
counter was read: what is stashed then has no sweeps at all. -/
theorem stop_forgets_unread_run :
    ∃ m : Measurement ℚ (MemoryCounter ℚ) (MemoryMicrowave ℚ),
      ofDevices { benchOptions with evaluation := "sum" } pulsing none = .ok m ∧
      ∃ run forgotten, (afterAll stashOnce m).stash.get? "run" = some run ∧
        ((stop (some "run")).after (afterAll [.pause]
          ((start .idle (some "run")).after (afterAll stashOnce m)))).stash.get? "run" =
          some forgotten ∧
        run.sweeps = 1 ∧ forgotten.sweeps = 0 ∧ ¬ run.AtMost forgotten := by
  have ran : (match ofDevices { benchOptions with evaluation := "sum" } pulsing
      (none : Option (MemoryMicrowave ℚ)) with
    | .ok m =>
      let waits := afterAll stashOnce m
      let stopped := (stop (some "run")).after (afterAll [.pause]
        ((start .idle (some "run")).after waits))
      ((waits.stash.get? "run").map StashedRun.sweeps,
        (stopped.stash.get? "run").map StashedRun.sweeps)
    | .error _ => (none, none)) = (some 1, some 0) := by decide +kernel
  cases started : ofDevices { benchOptions with evaluation := "sum" } pulsing
      (none : Option (MemoryMicrowave ℚ)) with
  | error f => rw [started] at ran; cases ran
  | ok m =>
    rw [started, Prod.mk.injEq, Option.map_eq_some_iff, Option.map_eq_some_iff] at ran
    obtain ⟨⟨run, stashed, once⟩, forgotten, behind, none⟩ := ran
    refine ⟨m, rfl, run, forgotten, stashed, behind, once, none, fun atMost => ?_⟩
    have fewer := atMost.sweeps
    rw [once, none] at fewer
    exact absurd fewer (by decide)

end Measurement

end PulseBench
