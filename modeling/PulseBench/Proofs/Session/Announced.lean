import PulseBench.Counting.MemoryCounter
import PulseBench.Proofs.Session.Interleaving

/-!
# What is loaded is known before it is answered

A caller that got an answer from the generator may start a run at once, and the run
has to see what that command loaded. The measurement is told about it through its
queue, in which the start of the run comes later. So it is enough that it is told
before the command is answered, and whenever anything about the loaded asset
changed.

Whether anything changed is decided against what was told last, which has to be
the asset that the queue names last. Equality is that of the program: assets that
it takes for the same are not told apart (`Agrees`).

Results:
1. `lastNamed_append`: what a list of commands names last.
2. `Bench.Informed.step`, `Bench.informed_of_reached`: what was told, what the measurement
   saw and what was loaded fit together at every moment. `Bench.Informed.current`: what is
   loaded was told.
3. `Bench.loaded_known_before_answer`: between two commands of the generator, what is
   loaded is what was told last; and a command that was asked of the measurement
   behind an answer is handled with what was loaded then or later.
-/

namespace PulseBench

variable {α δ κ μ : Type}

/-! ## 1. What is named last -/

/-- The asset that a list of commands names last, if any. -/
def lastNamed (commands : List (MeasurementCommand α)) : Option (AssetInfo α) :=
  (commands.filterMap MeasurementCommand.named?).getLast?.join

theorem lastNamed_append (commands : List (MeasurementCommand α)) (command : MeasurementCommand α) :
    lastNamed (commands ++ [command]) = command.named?.getD (lastNamed commands) := by
  unfold lastNamed
  rw [List.filterMap_append]
  cases named : command.named? with
  | none => simp [named]
  | some asset => simp [named]

/-- An entry of a list that grew by one is an old one, or it is the new one. -/
theorem getElem?_append_cases {β : Type} {entries : List β} {new entry : β} {i : Nat}
    (known : (entries ++ [new])[i]? = some entry) :
    entries[i]? = some entry ∨ i = entries.length ∧ new = entry := by
  rcases Nat.lt_or_ge i entries.length with before | behind
  · rw [List.getElem?_append_left before] at known
    exact Or.inl known
  · have bound := (List.getElem?_eq_some_iff.mp known).1
    rw [List.length_append, List.length_singleton] at bound
    obtain rfl : i = entries.length := by omega
    rw [List.getElem?_concat_length] at known
    exact Or.inr ⟨rfl, Option.some.inj known⟩

/-- What is loaded is what was told, as far as the program can tell. -/
def Agrees [Analytic α] (info told : Option (AssetInfo α)) : Prop :=
  told = info ∨ (info == told) = true

namespace Bench

variable [Analytic α]

/-- An asset is what was loaded behind the `k`-th command of the generator or a later one. -/
def LoadedSince (b : Bench α δ κ μ) (k : Nat) (asset : Option (AssetInfo α)) : Prop :=
  ∃ j info, k ≤ j ∧ b.infos[j]? = some info ∧ Agrees info asset

/-! ## 2. What was told and seen -/

/-- What was told last, what the measurement saw and what was loaded fit together. -/
structure Informed (b : Bench α δ κ μ) : Prop where
  forwarded : b.session.forwarded = lastNamed b.commands
  asset : b.session.measurement.asset = lastNamed (b.commands.take b.seen.length)
  seen : ∀ i asset, b.seen[i]? = some asset → asset = lastNamed (b.commands.take i)
  told : b.LoadedSince (b.answers + b.phase.announced) (lastNamed b.commands)
  /-- What is named in the queue before a command is new enough for it. -/
  asked : ∀ i q, b.asked[i]? = some q → b.LoadedSince q.answers (lastNamed (b.commands.take i))

variable {b next : Bench α δ κ μ}

theorem LoadedSince.mono {k n : Nat} {asset : Option (AssetInfo α)} (h : b.LoadedSince n asset)
    (le : k ≤ n) : b.LoadedSince k asset := by
  obtain ⟨j, info, since, known, agrees⟩ := h
  exact ⟨j, info, le.trans since, known, agrees⟩

/-- Later commands of the generator do not change what was loaded before. -/
theorem LoadedSince.append {k : Nat} {asset : Option (AssetInfo α)} (h : b.LoadedSince k asset)
    (more : List (Option (AssetInfo α))) (infos : next.infos = b.infos ++ more) :
    next.LoadedSince k asset := by
  obtain ⟨j, info, since, known, agrees⟩ := h
  refine ⟨j, info, since, ?_, agrees⟩
  rw [infos, List.getElem?_append_left (List.getElem?_eq_some_iff.mp known).1]
  exact known

theorem opening_informed {s : Session α δ κ μ} (new : s.New) : (opening s).Informed where
  forwarded := new.forwarded
  asset := new.asset
  seen _ _ h := by cases h
  told := ⟨0, s.generator.loadedInfo, Nat.le_refl 0, rfl, Or.inl (by
    rw [Generator.loadedInfo, new.loaded]
    rfl)⟩
  asked _ _ h := by cases h

/-- Whatever is asked of the measurement, its place in the queue is behind what was told last. -/
theorem Informed.append (h : b.Informed) (recorded : b.Recorded) (next : Bench α δ κ μ)
    {command : MeasurementCommand α} (infos : next.infos = b.infos) (seen : next.seen = b.seen)
    (asked : next.asked = b.asked ++ [⟨b.answers, command⟩]) :
    lastNamed next.commands = command.named?.getD (lastNamed b.commands) ∧
    lastNamed (next.commands.take next.seen.length) = lastNamed (b.commands.take b.seen.length) ∧
    (∀ i asset, next.seen[i]? = some asset → asset = lastNamed (next.commands.take i)) ∧
    ∀ i q, next.asked[i]? = some q →
      next.LoadedSince q.answers (lastNamed (next.commands.take i)) := by
  have commands : next.commands = b.commands ++ [command] := by simp [Bench.commands, asked]
  have earlier {i : Nat} (le : i ≤ b.commands.length) :
      next.commands.take i = b.commands.take i := by
    rw [commands, List.take_append_of_le_length le]
  have since {k : Nat} {asset : Option (AssetInfo α)} (known : b.LoadedSince k asset) :
      next.LoadedSince k asset := known.append [] (by simp [infos])
  refine ⟨?_, ?_, ?_, ?_⟩
  · rw [commands, lastNamed_append]
  · rw [seen, earlier recorded.handled]
  · intro i asset known
    rw [seen] at known
    have handled := (List.getElem?_eq_some_iff.mp known).1
    rw [earlier (handled.le.trans recorded.handled)]
    exact h.seen i asset known
  · intro i q known
    have length : b.commands.length = b.asked.length := List.length_map _
    rw [asked] at known
    rcases getElem?_append_cases known with before | ⟨rfl, rfl⟩
    · rw [earlier (length ▸ (List.getElem?_eq_some_iff.mp before).1.le)]
      exact since (h.asked i q before)
    · -- The new command finds what was told last.
      rw [← length, earlier (Nat.le_refl _), List.take_length]
      exact since (h.told.mono (Nat.le_add_right _ _))

/-- Between two commands of the generator, what is loaded is what was told last. -/
theorem Informed.current (h : b.Informed) (recorded : b.Recorded) (idle : b.phase = .idle) :
    Agrees b.session.generator.loadedInfo (lastNamed b.commands) := by
  obtain ⟨j, info, since, known, agrees⟩ := h.told
  have counted := recorded.counted
  have latest := recorded.latest
  rw [idle] at since counted
  rw [List.getLast?_eq_getElem?] at latest
  have bound := (List.getElem?_eq_some_iff.mp known).1
  -- Only the last of what was loaded is known that late.
  obtain rfl : j = b.infos.length - 1 := by
    simp only [Phase.announced, Phase.unanswered] at since counted
    omega
  rw [latest] at known
  obtain rfl := Option.some.inj known
  exact agrees

section Steps

variable [Pulser α δ] [Counter α κ] [Microwave α μ]

theorem Informed.step (h : b.Informed) (recorded : b.Recorded) (step : Step b next) :
    next.Informed := by
  have told := h.told
  cases step with
  | ask command => exact ⟨h.forwarded, h.asset, h.seen, h.told, h.asked⟩
  | hold guard => exact ⟨h.forwarded, h.asset, h.seen, h.told, h.asked⟩
  | @request command other =>
    obtain ⟨last, handled, seen, asked⟩ :=
      h.append recorded (b.request command) rfl rfl rfl
    rw [other, Option.getD_none] at last
    refine ⟨?_, ?_, seen, ?_, asked⟩
    · rw [last]
      exact h.forwarded
    · rw [handled]
      exact h.asset
    · rw [last]
      exact h.told
  | take idle waiting =>
    rw [idle] at told
    exact ⟨h.forwarded, h.asset, h.seen, told, h.asked⟩
  | @run command taken =>
    rw [taken] at told
    refine ⟨h.forwarded, h.asset, h.seen, told.append _ rfl, fun i q known => ?_⟩
    exact (h.asked i q known).append _ rfl
  | tell ran =>
    -- Of the command that ran last the measurement knows from here on, before it is answered.
    have current : b.infos[b.answers + 1]? = some b.session.generator.loadedInfo := by
      have counted := recorded.counted
      rw [ran] at counted
      rw [← recorded.latest, List.getLast?_eq_getElem?, counted]
      rfl
    rcases b.tell_cases with ⟨known, same⟩ | told
    · rw [same]
      refine ⟨h.forwarded, h.asset, h.seen, ?_, h.asked⟩
      refine ⟨b.answers + 1, _, Nat.le_refl _, current, Or.inr ?_⟩
      rw [h.forwarded] at known
      exact known
    · obtain ⟨last, handled, seen, asked⟩ := h.append recorded b.tell rfl rfl (by rw [told])
      rw [told] at last handled seen asked ⊢
      refine ⟨last.symm, h.asset.trans handled.symm, seen, ?_, asked⟩
      exact ⟨b.answers + 1, _, Nat.le_refl _, current, Or.inl last⟩
  | answer phase =>
    rw [phase] at told
    exact ⟨h.forwarded, h.asset, h.seen, told, h.asked⟩
  | @handle command rest queued =>
    obtain ⟨generatorQueue, handled⟩ :=
      Session.handleMeasurement_eq command { b.session with measurementQueue := rest }
    have length : (b.handle command rest).seen.length = b.seen.length + 1 := List.length_append
    refine ⟨?_, ?_, fun i asset known => ?_, h.told, h.asked⟩
    · simp only [Bench.handle, handled]
      exact h.forwarded
    · have behind : b.commands.take (b.seen.length + 1) =
          b.commands.take b.seen.length ++ [command] := by
        rw [List.take_add_one, (recorded.first queued).1]
        rfl
      rw [length]
      change _ = lastNamed (b.commands.take (b.seen.length + 1))
      rw [behind, lastNamed_append, ← h.asset]
      simp only [Bench.handle, handled, Measurement.command_asset]
    · rcases getElem?_append_cases known with before | ⟨rfl, rfl⟩
      · exact h.seen i asset before
      · exact h.asset
  | tick =>
    obtain ⟨generatorQueue, ticked⟩ := Session.tick_eq b.session
    refine ⟨?_, ?_, h.seen, h.told, h.asked⟩
    · simp only [Bench.tick, ticked]
      exact h.forwarded
    · simp only [Bench.tick, ticked, Measurement.tick_asset]
      exact h.asset

theorem informed_of_reached {s : Session α δ κ μ} (new : s.New) (reached : Reaches s b) :
    b.Recorded ∧ b.Informed := by
  induction reached with
  | refl => exact ⟨opening_recorded new, opening_informed new⟩
  | tail _ step ih => exact ⟨ih.1.step step, ih.2.step ih.1 step⟩

/-! ## 3. The law -/

/-- A run that is started on an answer sees what was loaded then. However the steps of both
workers and of the callers follow each other: whenever the generator worker is between two
commands, what is loaded is the asset that the measurement was told last. The measurement handles
what it was asked in that order, and a command that was asked of it when `k` commands of the
generator had been answered is handled with the asset that was loaded behind the `k`-th of them or
a later one. -/
theorem loaded_known_before_answer {config : Config α} {store : Store α} {pulser : δ} {counter : κ}
    {microwave : Option μ} {s : Session α δ κ μ}
    (started : Session.start config store pulser counter microwave = .ok s)
    (reached : Reaches s b) :
    (b.phase = .idle → Agrees b.session.generator.loadedInfo (lastNamed b.commands)) ∧
    b.session.measurementQueue = b.commands.drop b.seen.length ∧
    ∀ (i : Nat) (q : Asked α) (asset : Option (AssetInfo α)),
      b.asked[i]? = some q → b.seen[i]? = some asset →
        ∀ k ≤ q.answers, b.LoadedSince k asset := by
  obtain ⟨recorded, informed⟩ := informed_of_reached (Session.start_new started) reached
  refine ⟨informed.current recorded, recorded.waiting, fun i q asset asked seen k le => ?_⟩
  rw [informed.seen i asset seen]
  exact (informed.asked i q asked).mono le

/-! A caller that waits for every answer: an ensemble is saved, compiled and loaded, and a run is
started on the answer. The settings of the measurement are asked for before all that, but the
measurement worker begins late. -/

/-- A caller asks the generator and waits for the answer. -/
def call (command : GeneratorCommand α) (b : Bench α δ κ μ) : Bench α δ κ μ :=
  (b.ask command).serve command []

/-- The first command in the queue of the measurement is handled, if there is one. -/
def handleFirst (b : Bench α δ κ μ) : Bench α δ κ μ :=
  match b.session.measurementQueue with
  | [] => b
  | command :: rest => b.handle command rest

/-- The generator worker has nothing to do. -/
structure Quiet (b : Bench α δ κ μ) : Prop where
  idle : b.phase = .idle
  generatorQueue : b.session.generatorQueue = []

theorem Quiet.call (quiet : b.Quiet) (command : GeneratorCommand α) :
    Relation.ReflTransGen Step b (b.call command) ∧ (b.call command).Quiet := by
  have waiting : (b.ask command).session.generatorQueue = [command] := by
    rw [ask, quiet.generatorQueue]
    rfl
  refine ⟨.head (.ask b command) (serve_steps quiet.idle waiting), rfl, ?_⟩
  unfold Bench.call serve
  rcases (((b.ask command).take command []).run command).tell_cases with ⟨-, same⟩ | told
  · rw [same]
    rfl
  · rw [told]
    rfl

theorem Quiet.calls (quiet : b.Quiet) (commands : List (GeneratorCommand α)) :
    let answered := commands.foldl (fun b command => b.call command) b
    Relation.ReflTransGen Step b answered ∧ answered.Quiet := by
  induction commands generalizing b with
  | nil => exact ⟨.refl, quiet⟩
  | cons command rest ih =>
    obtain ⟨called, quiet⟩ := quiet.call command
    obtain ⟨others, quiet⟩ := ih quiet
    exact ⟨called.trans others, quiet⟩

theorem handleFirst_steps (b : Bench α δ κ μ) : Relation.ReflTransGen Step b b.handleFirst := by
  unfold handleFirst
  split
  · exact .refl
  · rename_i waiting
    exact .single (.handle waiting)

end Steps

/-- A session with devices that never fail. -/
def benchSession :
    Except (Failure ℚ) (Session ℚ (MemoryPulser ℚ) (MemoryCounter ℚ) (MemoryMicrowave ℚ)) :=
  Session.start .default .empty (.fresh Generator.benchLimits) (.fresh false) none

/-- The ensemble is saved, compiled and loaded. -/
def loadPulse : List (GeneratorCommand ℚ) :=
  [.saveBlock (Generator.level "flat" (1 / 2)), .saveEnsemble (Generator.playing "pulse" "flat"),
    .sample "pulse" .ensemble true]

/-- The measurement keeps its own settings. -/
def ownSettings : MeasurementSettings ℚ := { MeasurementSettings.default with invoke := false }

/-- The run is started when the answers are there. -/
def startedOnAnswer (s : Session ℚ (MemoryPulser ℚ) (MemoryCounter ℚ) (MemoryMicrowave ℚ)) :
    Bench ℚ (MemoryPulser ℚ) (MemoryCounter ℚ) (MemoryMicrowave ℚ) :=
  let loaded := loadPulse.foldl (fun b command => b.call command)
    ((opening s).request (.setSettings ownSettings))
  (loaded.request (.start none)).handleFirst.handleFirst.handleFirst

theorem startedOnAnswer_reached
    {s : Session ℚ (MemoryPulser ℚ) (MemoryCounter ℚ) (MemoryMicrowave ℚ)} (new : s.New) :
    Reaches s (startedOnAnswer s) := by
  have quiet : ((opening s).request (.setSettings ownSettings)).Quiet := ⟨rfl, new.generatorQueue⟩
  unfold startedOnAnswer
  refine .trans (.trans (.trans ?_ (handleFirst_steps _)) (handleFirst_steps _))
    (handleFirst_steps _)
  exact .tail (.head (.request _ rfl) (quiet.calls loadPulse).1) (.request _ rfl)

/-- The run begins, and it sees what the third command loaded. -/
theorem loaded_known_before_answer_of_pulse :
    ∃ s, benchSession = .ok s ∧
      let b := startedOnAnswer s
      Reaches s b ∧ b.phase = .idle ∧
      Agrees b.session.generator.loadedInfo (lastNamed b.commands) ∧
      b.asked.map Asked.answers = [0, 2, 3] ∧
      b.seen.map (Option.map AssetInfo.asset) = [none, none, some ⟨"pulse", .ensemble⟩] ∧
      (∀ asset, b.seen[2]? = some asset → b.LoadedSince 3 asset) ∧
      b.session.measurement.state = .running := by
  have ran : (match benchSession with
    | .ok s =>
      let b := startedOnAnswer s
      (match b.phase with | .idle => true | _ => false) &&
      decide (b.asked.map Asked.answers = [0, 2, 3] ∧
        b.seen.map (Option.map AssetInfo.asset) = [none, none, some ⟨"pulse", .ensemble⟩] ∧
        b.session.measurement.state = .running)
    | .error _ => false) = true := by decide +kernel
  cases started : benchSession with
  | error f =>
    rw [started] at ran
    cases ran
  | ok s =>
    rw [started, Bool.and_eq_true, decide_eq_true_eq] at ran
    obtain ⟨phase, answers, seen, running⟩ := ran
    have idle : (startedOnAnswer s).phase = .idle := by
      split at phase
      · assumption
      · cases phase
    have reached := startedOnAnswer_reached (Session.start_new started)
    obtain ⟨told, -, handled⟩ := loaded_known_before_answer started reached
    refine ⟨s, rfl, reached, idle, told idle, answers, seen, fun asset last => ?_, running⟩
    obtain ⟨q, asked, behind⟩ : ∃ q, (startedOnAnswer s).asked[2]? = some q ∧ q.answers = 3 := by
      have third : ((startedOnAnswer s).asked.map Asked.answers)[2]? = some 3 := by
        rw [answers]
        rfl
      rw [List.getElem?_map, Option.map_eq_some_iff] at third
      exact third
    exact handled 2 q asset asked last 3 behind.ge

end Bench

end PulseBench
