import PulseBench.Proofs.Generator.Filing
import PulseBench.Proofs.Generator.Run

/-!
# Failed compilations, whatever the device does

Here nothing is known about the device: every call may fail, report what it
likes and change the device as it likes. All the same, a generator without
storage stays without, and keeps every object under its own name (`Orderly`).
This is what it takes to find all records that have to be dropped, and they are
dropped before the device hears of anything.

Results:
1. `sampleEnsemble_cases`, `sampleSequence_cases`: compiling either fails behind
   the loss of all records in question, or does not fail at all.
2. `tidy_filing`, `Operation.tidy`: an operation leaves the objects in order.
3. `afterAll_orderly`: so does a run.
4. `failed_sampling_leaves_no_record`: behind any run, a compilation that fails
   leaves no record.
-/

namespace PulseBench.Generator

variable {α δ : Type}

open PulseBench.Action (Moves after after_of_ok after_of_error)

/-- A generator without storage, whose objects are kept under their own names. -/
structure Orderly (g : Generator α δ) : Prop where
  store : g.store = none
  ensemble_named : ∀ n e, g.ensembles.get? n = some e → e.name = n
  sequence_named : ∀ n s, g.sequences.get? n = some s → s.name = n

/-- A step that leaves the objects in order. -/
def Tidy (before after : Generator α δ) : Prop := before.Orderly → after.Orderly

theorem Tidy.refl (g : Generator α δ) : Tidy g g := id

theorem Tidy.trans (a b c : Generator α δ) (first : Tidy a b) (second : Tidy b c) : Tidy a c :=
  second ∘ first

namespace Orderly

variable {a b : Generator α δ}

/-- Only names and storage matter. -/
theorem of_named (h : a.Orderly) (store : b.store = a.store)
    (ensembles : ∀ n e, b.ensembles.get? n = some e →
      e.name = n ∨ a.ensembles.get? n = some e)
    (sequences : ∀ n s, b.sequences.get? n = some s →
      s.name = n ∨ a.sequences.get? n = some s) : b.Orderly where
  store := store.trans h.store
  ensemble_named n e found := (ensembles n e found).elim id (h.ensemble_named n e)
  sequence_named n s found := (sequences n s found).elim id (h.sequence_named n s)

theorem of_same (h : a.Orderly) (store : b.store = a.store) (ensembles : b.ensembles = a.ensembles)
    (sequences : b.sequences = a.sequences) : b.Orderly :=
  h.of_named store (fun _ _ found => Or.inr (ensembles ▸ found))
    fun _ _ found => Or.inr (sequences ▸ found)

theorem forgets {es ss : String → Prop} (h : a.Orderly) (f : Forgets es ss a b) : b.Orderly where
  store := f.store.trans h.store
  ensemble_named n e found := by
    obtain ⟨own, listed, same⟩ := f.ensemble_forget found
    exact (congrArg Ensemble.name same).symm.trans (h.ensemble_named n own listed)
  sequence_named n s found := by
    obtain ⟨own, listed, same⟩ := f.sequence_forget found
    exact (congrArg Sequence.name same).symm.trans (h.sequence_named n own listed)

theorem insertEnsemble (h : a.Orderly) {n : String} {e : Ensemble α} (named : e.name = n) :
    ({ a with ensembles := a.ensembles.insert n e } : Generator α δ).Orderly := by
  refine h.of_named rfl (fun m own found => ?_) fun _ _ found => Or.inr found
  rw [Roster.get?_insert] at found
  split at found
  · cases found
    exact Or.inl (named.trans (Eq.symm ‹_›))
  · exact Or.inr found

theorem insertSequence (h : a.Orderly) {n : String} {s : Sequence α} (named : s.name = n) :
    ({ a with sequences := a.sequences.insert n s } : Generator α δ).Orderly := by
  refine h.of_named rfl (fun _ _ found => Or.inr found) fun m own found => ?_
  rw [Roster.get?_insert] at found
  split at found
  · cases found
    exact Or.inl (named.trans (Eq.symm ‹_›))
  · exact Or.inr found

theorem eraseEnsemble (h : a.Orderly) (name : String) :
    ({ a with ensembles := a.ensembles.erase name } : Generator α δ).Orderly := by
  refine h.of_named rfl (fun n own found => ?_) fun _ _ found => Or.inr found
  rw [Roster.get?_erase] at found
  split at found
  · cases found
  · exact Or.inr found

theorem eraseSequence (h : a.Orderly) (name : String) :
    ({ a with sequences := a.sequences.erase name } : Generator α δ).Orderly := by
  refine h.of_named rfl (fun _ _ found => Or.inr found) fun n own found => ?_
  rw [Roster.get?_erase] at found
  split at found
  · cases found
  · exact Or.inr found

end Orderly

/-! ## 1. Compiling -/

/-- Only the device changed. -/
def OnlyDevice (before after : Generator α δ) : Prop := ∃ device, after = { before with device }

theorem OnlyDevice.refl (g : Generator α δ) : OnlyDevice g g := ⟨g.device, rfl⟩

theorem OnlyDevice.trans (a b c : Generator α δ) (first : OnlyDevice a b)
    (second : OnlyDevice b c) : OnlyDevice a c := by
  obtain ⟨_, rfl⟩ := first
  obtain ⟨device, rfl⟩ := second
  exact ⟨device, rfl⟩

theorem onDevice_only {β : Type} (act : Action α δ β) : Moves OnlyDevice (onDevice act) :=
  fun g => ⟨_, onDevice_after act g⟩

section Compiling

variable [Pulser α δ]

theorem writeSingleStep_only (name : String) :
    Moves OnlyDevice (writeSingleStep name : Action α (Generator α δ) Unit) := by
  refine Moves.get_bind fun g => ?_
  have idle : Moves OnlyDevice (pure ⟨⟩ : Action α (Generator α δ) Unit) := OnlyDevice.refl
  by_cases required : g.limits.sequencer = .required
  · simp only [required, if_true]
    have write : Moves OnlyDevice (do
        let _ ← onDevice (Pulser.writeSequence name [singleStep g.limits name]) :
        Action α (Generator α δ) Unit) :=
      Moves.bind OnlyDevice.trans (onDevice_only _) fun _ => idle
    refine Moves.tryCatch OnlyDevice.trans write (fun e => ?_) g
    exact Moves.bind OnlyDevice.trans (onDevice_only _) fun _ => OnlyDevice.refl
  · simp only [required, if_false]
    exact idle g

variable [Analytic α] {g : Generator α δ}

/-- Compiling an ensemble drops its record and those of its users. Then either the device fails and
nothing else happens, or the ensemble gets a record and nothing fails any more. -/
theorem sampleEnsemble_cases (orderly : g.Orderly) (name : String) :
    (g.ensembles.get? name = none ∧ ∃ f, sampleEnsemble name g = .error f g) ∨
    ∃ e cleared device, g.ensembles.get? name = some e ∧
      Forgets (· = name) (g.UsedBy name) g cleared ∧
      ((∃ f, sampleEnsemble name g = .error f { cleared with device }) ∨
        ∃ r, sampleEnsemble name g = .ok r { cleared with
          device, ensembles := cleared.ensembles.insert name (e.carrying r) }) := by
  cases found : g.ensembles.get? name with
  | none =>
    have unknown : (Action.lift (g.findEnsemble name) :
        Action α (Generator α δ) (Ensemble α)) g =
        .error (.unknown ObjectKind.ensemble.collection name) g := by
      rw [findEnsemble, found]
      rfl
    refine Or.inl ⟨rfl, .unknown ObjectKind.ensemble.collection name, ?_⟩
    unfold sampleEnsemble
    rw [Action.bind_of_ok (Action.get_apply g), Action.bind_of_error unknown]
  | some e =>
    right
    have known : (Action.lift (g.findEnsemble name) :
        Action α (Generator α δ) (Ensemble α)) g = .ok e g := by
      rw [findEnsemble, found]
      rfl
    obtain ⟨cleared, invalidated, forgets⟩ :=
      invalidateEnsemble_ok orderly.store orderly.sequence_named name
    unfold sampleEnsemble
    rw [Action.bind_of_ok (Action.get_apply g), Action.bind_of_ok known,
      Action.bind_of_ok invalidated, Action.bind_of_ok (Action.get_apply cleared)]
    cases compiled : cleared.compiler.sampleEnsemble e cleared.blocks name 0 cleared.device with
    | error f device =>
      exact ⟨e, cleared, device, rfl, forgets, Or.inl
        ⟨f, Action.bind_of_error (onDevice_error compiled)⟩⟩
    | ok result device =>
      obtain ⟨offset, r⟩ := result
      rw [Action.bind_of_ok (onDevice_ok compiled)]
      -- Behind the waveform there may be a program to write, and that may fail, too.
      have only := writeSingleStep_only name { cleared with device }
      cases single : writeSingleStep name { cleared with device } with
      | error f behind =>
        rw [after_of_error single] at only
        obtain ⟨device', rfl⟩ := only
        exact ⟨e, cleared, device', rfl, forgets, Or.inl ⟨f, Action.bind_of_error single⟩⟩
      | ok _ behind =>
        rw [after_of_ok single] at only
        obtain ⟨device', rfl⟩ := only
        refine ⟨e, cleared, device', rfl, forgets, Or.inr ⟨r, ?_⟩⟩
        exact (Action.bind_of_ok single).trans
          (Action.bind_of_ok (persist_ok (by exact forgets.store.trans orderly.store) _))

omit [Pulser α δ] in
/-- Handing records back never fails, and only records change. -/
theorem forM_attachRecord_cases (memory : g.store = none)
    (records : List (String × Record α)) :
    ∃ ensembles, (records.forM fun (name, r) => attachRecord name r) g =
        .ok ⟨⟩ { g with ensembles } ∧
      ∀ n e, ensembles.get? n = some e →
        ∃ own, g.ensembles.get? n = some own ∧ own.forget = e.forget := by
  induction records generalizing g with
  | nil => exact ⟨g.ensembles, rfl, fun n e found => ⟨e, found, rfl⟩⟩
  | cons entry rest ih =>
    obtain ⟨middle, attached, first⟩ := attachRecord_ok memory entry.1 entry.2
    obtain ⟨ensembles, others, later⟩ := ih (g := middle) (by rw [first.rest]; exact memory)
    refine ⟨ensembles, (Action.bind_of_ok attached).trans (others.trans (by rw [first.rest])),
      fun n e found => ?_⟩
    obtain ⟨between, listed, same⟩ := later n e found
    rw [first.ensembles] at listed
    by_cases own : n = entry.1
    · simp only [own, if_true, Option.map_eq_some_iff] at listed
      obtain ⟨original, known, rfl⟩ := listed
      exact ⟨original, own ▸ known, same⟩
    · simp only [own, if_false] at listed
      exact ⟨between, listed, same⟩

/-- Compiling a sequence drops its record and those of the ensembles it plays. Then either the
device fails and nothing else happens, or records are handed out and nothing fails any more. -/
theorem sampleSequence_cases (orderly : g.Orderly) (name : String) :
    (g.sequences.get? name = none ∧ ∃ f, sampleSequence name g = .error f g) ∨
    ∃ s cleared device, g.sequences.get? name = some s ∧
      Forgets (· ∈ s.ensembleNames) (· = name) g cleared ∧
      ((∃ f, sampleSequence name g = .error f { cleared with device }) ∨
        ∃ r ensembles, sampleSequence name g = .ok r { cleared with
            device, ensembles, sequences := cleared.sequences.insert name (s.carrying r) } ∧
          ∀ n e, ensembles.get? n = some e →
            ∃ own, cleared.ensembles.get? n = some own ∧ own.forget = e.forget) := by
  cases found : g.sequences.get? name with
  | none =>
    have unknown : (Action.lift (g.findSequence name) :
        Action α (Generator α δ) (Sequence α)) g =
        .error (.unknown ObjectKind.sequence.collection name) g := by
      rw [findSequence, found]
      rfl
    refine Or.inl ⟨rfl, .unknown ObjectKind.sequence.collection name, ?_⟩
    unfold sampleSequence
    rw [Action.bind_of_ok (Action.get_apply g), Action.bind_of_error unknown]
  | some s =>
    right
    have known : (Action.lift (g.findSequence name) :
        Action α (Generator α δ) (Sequence α)) g = .ok s g := by
      rw [findSequence, found]
      rfl
    obtain ⟨middle, clearedSequence, first⟩ := clearSequenceRecord_ok orderly.store name
    obtain ⟨cleared, clearedEnsembles, second⟩ :=
      forM_clearEnsembleRecord_ok (first.store.trans orderly.store) s.ensembleNames
    have forgets : Forgets (· ∈ s.ensembleNames) (· = name) g cleared :=
      (first.trans second).congr (fun n => by simp) fun n => by simp
    unfold sampleSequence
    rw [Action.bind_of_ok (Action.get_apply g), Action.bind_of_ok known,
      Action.bind_of_ok clearedSequence, Action.bind_of_ok clearedEnsembles,
      Action.bind_of_ok (Action.get_apply cleared)]
    cases compiled : cleared.compiler.sampleSequence s cleared.ensembles cleared.blocks
        cleared.device with
    | error f device =>
      exact ⟨s, cleared, device, rfl, forgets, Or.inl
        ⟨f, Action.bind_of_error (onDevice_error compiled)⟩⟩
    | ok result device =>
      obtain ⟨r, records⟩ := result
      have memory : ({ cleared with device } : Generator α δ).store = none :=
        forgets.store.trans orderly.store
      obtain ⟨ensembles, handed, same⟩ := forM_attachRecord_cases memory records
      refine ⟨s, cleared, device, rfl, forgets, Or.inr ⟨r, ensembles, ?_, same⟩⟩
      rw [Action.bind_of_ok (onDevice_ok compiled)]
      exact (Action.bind_of_ok handed).trans (Action.bind_of_ok (persist_ok (by exact memory) _))

end Compiling

/-! ## 2. Operations -/

theorem persist_tidy {β : Type} [Storable α β] (object : β) :
    Moves Tidy (persist object : Action α (Generator α δ) Unit) := by
  intro g orderly
  rw [after_of_ok (persist_ok orderly.store object)]
  exact orderly

theorem unpersist_tidy (kind : ObjectKind) (name : String) :
    Moves Tidy (unpersist kind name : Action α (Generator α δ) Unit) := by
  intro g orderly
  rw [after_of_ok (unpersist_ok orderly.store kind name)]
  exact orderly

section Parts

variable [Scalar α]

theorem fileEnsemble_tidy {n : String} {e : Ensemble α} (named : e.name = n) :
    Moves Tidy (fileEnsemble n e : Action α (Generator α δ) Unit) :=
  Moves.bind Tidy.trans (persist_tidy e) fun _ =>
    Moves.modify fun _ orderly => orderly.insertEnsemble named

theorem fileSequence_tidy {n : String} {s : Sequence α} (named : s.name = n) :
    Moves Tidy (fileSequence n s : Action α (Generator α δ) Unit) :=
  Moves.bind Tidy.trans (persist_tidy s) fun _ =>
    Moves.modify fun _ orderly => orderly.insertSequence named

theorem noteEnsemble_tidy {n : String} {e : Ensemble α} (named : e.name = n) :
    Moves Tidy (noteEnsemble n e : Action α (Generator α δ) Unit) :=
  Moves.bind Tidy.trans (Moves.modify fun _ orderly => orderly.insertEnsemble named) fun _ =>
    persist_tidy e

theorem noteSequence_tidy {n : String} {s : Sequence α} (named : s.name = n) :
    Moves Tidy (noteSequence n s : Action α (Generator α δ) Unit) :=
  Moves.bind Tidy.trans (Moves.modify fun _ orderly => orderly.insertSequence named) fun _ =>
    persist_tidy s

/-- No part of an operation brings the objects out of order, whatever the device does. -/
theorem tidy_filing : Filing (fun _ _ : δ => True) (Tidy (α := α)) where
  refl := Tidy.refl
  trans := Tidy.trans
  change _ _ same orderly := orderly.of_same same.store same.ensembles same.sequences
  onDevice _ g orderly := by
    rw [onDevice_after]
    exact orderly.of_same rfl rfl rfl
  fileBlock b := Moves.bind Tidy.trans (persist_tidy b) fun _ =>
    Moves.modify fun _ orderly => orderly.of_same rfl rfl rfl
  fileEnsemble e := fileEnsemble_tidy rfl
  fileSequence s := fileSequence_tidy rfl
  noteEnsemble a b n e record found sofar orderly :=
    noteEnsemble_tidy (e := { e with record }) (orderly.ensemble_named n e found) b (sofar orderly)
  noteSequence a b n s record found sofar orderly :=
    noteSequence_tidy (s := { s with record }) (orderly.sequence_named n s found) b (sofar orderly)
  refileEnsemble a b n e record found sofar orderly :=
    fileEnsemble_tidy (e := { e with record }) (orderly.ensemble_named n e found) b (sofar orderly)
  refileSequence a b n s record found sofar orderly :=
    fileSequence_tidy (s := { s with record }) (orderly.sequence_named n s found) b (sofar orderly)
  dropBlock name := Moves.bind Tidy.trans
    (Moves.modify fun _ orderly => orderly.of_same rfl rfl rfl) fun _ => unpersist_tidy _ _
  dropEnsemble name := Moves.bind Tidy.trans
    (Moves.modify fun _ orderly => orderly.eraseEnsemble name) fun _ => unpersist_tidy _ _
  dropSequence name := Moves.bind Tidy.trans
    (Moves.modify fun _ orderly => orderly.eraseSequence name) fun _ => unpersist_tidy _ _

end Parts

/-- No operation brings the objects out of order. -/
theorem Operation.tidy [Analytic α] [Pulser α δ] (op : Operation α) :
    Moves Tidy (op.run : Action α (Generator α δ) Unit) := by
  refine tidy_filing.operation Switchless.all op fun on same => ?_
  rw [same]
  exact Moves.bind Tidy.trans (tidy_filing.onDevice fun _ => trivial) fun _ => Tidy.refl

/-! ## 3. Runs -/

section Runs

variable [Analytic α] [Pulser α δ] {g : Generator α δ}

theorem start_orderly {options : GeneratorOptions α} {device : δ} (memory : options.store = none)
    (started : start options device = .ok g) : g.Orderly := by
  obtain ⟨recipes, -, dropped⟩ := start_ok_iff.mp started
  rw [opened, memory] at dropped
  cases dropped
  refine ⟨rfl, fun n e found => ?_, fun n s found => ?_⟩
  · cases found
  · cases found

/-- The objects stay in order throughout a run. -/
theorem afterAll_orderly (orderly : g.Orderly) (ops : List (Operation α)) :
    (afterAll ops g).Orderly := by
  induction ops generalizing g with
  | nil => exact orderly
  | cons op rest ih => exact ih (op.tidy g orderly)

/-! ## 4. Failing -/

/-- If compiling an ensemble fails, neither it nor a sequence that plays it carries a record. -/
theorem sampleEnsemble_failed (orderly : g.Orderly) {name : String} {e : Ensemble α}
    (found : g.ensembles.get? name = some e) {f : Failure α} {behind : Generator α δ}
    (failed : sampleEnsemble name g = .error f behind) :
    behind.ensembles.get? name = some e.forget ∧
      ∀ n s, behind.sequences.get? n = some s → s.uses name = true → s.record = none := by
  rcases sampleEnsemble_cases orderly name with
    ⟨unknown, -⟩ | ⟨own, cleared, device, listed, forgets, ⟨f', failed'⟩ | ⟨r, done⟩⟩
  · rw [found] at unknown
    cases unknown
  · rw [failed] at failed'
    cases failed'
    refine ⟨?_, fun n s there uses => ?_⟩
    · exact (forgets.dropped_ensemble name rfl).trans (by rw [found]; rfl)
    · have user : g.UsedBy name n := (forgets.usedBy_iff name n).mp ⟨s, there, uses⟩
      have dropped := (forgets.dropped_sequence n user).symm.trans there
      obtain ⟨before, -, rfl⟩ := Option.map_eq_some_iff.mp dropped
      rfl
  · rw [failed] at done
    cases done

/-- If compiling a sequence fails, neither it nor an ensemble that it plays carries a record. -/
theorem sampleSequence_failed (orderly : g.Orderly) {name : String} {s : Sequence α}
    (found : g.sequences.get? name = some s) {f : Failure α} {behind : Generator α δ}
    (failed : sampleSequence name g = .error f behind) :
    behind.sequences.get? name = some s.forget ∧
      ∀ n e, behind.ensembles.get? n = some e → s.uses n = true → e.record = none := by
  rcases sampleSequence_cases orderly name with
    ⟨unknown, -⟩ | ⟨own, cleared, device, listed, forgets, ⟨f', failed'⟩ | ⟨r, _, done, -⟩⟩
  · rw [found] at unknown
    cases unknown
  · rw [failed] at failed'
    cases failed'
    rw [found] at listed
    cases listed
    refine ⟨?_, fun n e there uses => ?_⟩
    · exact (forgets.dropped_sequence name rfl).trans (by rw [found]; rfl)
    · obtain ⟨step, member, same⟩ := List.any_eq_true.mp uses
      have played : n ∈ s.ensembleNames :=
        Compiler.mem_ensembleNames_iff.mpr ⟨step, member, by simpa using same⟩
      have dropped := (forgets.dropped_ensemble n played).symm.trans there
      obtain ⟨before, -, rfl⟩ := Option.map_eq_some_iff.mp dropped
      rfl
  · rw [failed] at done
    cases done

/-- Behind any run on any device, a compilation that fails leaves no record: not on the compiled
object, not on a sequence that plays the compiled ensemble, and not on an ensemble that the compiled
sequence plays. -/
theorem failed_sampling_leaves_no_record {options : GeneratorOptions α} {device : δ}
    (memory : options.store = none) (started : start options device = .ok g)
    (ops : List (Operation α)) (name : String) (f : Failure α) (behind : Generator α δ) :
    (∀ e, (afterAll ops g).ensembles.get? name = some e →
      sampleEnsemble name (afterAll ops g) = .error f behind →
      behind.ensembles.get? name = some e.forget ∧
        ∀ n s, behind.sequences.get? n = some s → s.uses name = true → s.record = none) ∧
    ∀ s, (afterAll ops g).sequences.get? name = some s →
      sampleSequence name (afterAll ops g) = .error f behind →
      behind.sequences.get? name = some s.forget ∧
        ∀ n e, behind.ensembles.get? n = some e → s.uses n = true → e.record = none := by
  have orderly := afterAll_orderly (start_orderly memory started) ops
  exact ⟨fun e found => sampleEnsemble_failed orderly found,
    fun s found => sampleSequence_failed orderly found⟩

/-- The first write is counted right; every later one is reported short, and nothing can be
deleted. -/
def shortOfBreath : FaultPlan where
  fails call _ := call = .deleteWaveform
  shortens n := 2 ≤ n
  reports := none

/-- An ensemble and a sequence are sampled. Compiling the ensemble once more fails, and both records
are gone; so does compiling the other sequence. -/
theorem failed_sampling_leaves_no_record_short_of_breath :
    (GeneratorOptions.default : GeneratorOptions ℚ).store = none ∧
    ∃ g, start .default (FaultyPulser.under shortOfBreath (MemoryPulser.fresh benchLimits)) =
        .ok g ∧
      ∃ e s other f f' behind behind',
        ((afterAll sharedOnce g).ensembles.get? "pulse" = some e ∧ e.isSampled = true) ∧
        ((afterAll sharedOnce g).sequences.get? "first" = some s ∧ s.isSampled = true) ∧
        sampleEnsemble "pulse" (afterAll sharedOnce g) = .error f behind ∧
        behind.ensembles.get? "pulse" = some e.forget ∧
        (∀ n own, behind.sequences.get? n = some own → own.uses "pulse" = true →
          own.record = none) ∧
        (afterAll sharedOnce g).sequences.get? "second" = some other ∧
        sampleSequence "second" (afterAll sharedOnce g) = .error f' behind' ∧
        behind'.sequences.get? "second" = some other.forget ∧
        ∀ n own, behind'.ensembles.get? n = some own → other.uses n = true →
          own.record = none := by
  have memory : (GeneratorOptions.default : GeneratorOptions ℚ).store = none := rfl
  refine ⟨memory, ?_⟩
  have ran : (match start .default
      (FaultyPulser.under shortOfBreath (MemoryPulser.fresh benchLimits)) with
    | .ok g =>
      let sampled := afterAll sharedOnce g
      (sampled.ensembles.get? "pulse").any Ensemble.isSampled &&
        (sampled.sequences.get? "first").any Sequence.isSampled &&
        (sampled.sequences.get? "second").isSome &&
        (match sampleEnsemble "pulse" sampled with | .error _ _ => true | .ok _ _ => false) &&
        (match sampleSequence "second" sampled with | .error _ _ => true | .ok _ _ => false)
    | .error _ => false) = true := by decide +kernel
  cases started : start .default
      (FaultyPulser.under shortOfBreath (MemoryPulser.fresh benchLimits)) with
  | error f => rw [started] at ran; cases ran
  | ok g =>
    rw [started] at ran
    simp only [Bool.and_eq_true, Option.any_eq_true, Option.isSome_iff_exists] at ran
    obtain ⟨⟨⟨⟨⟨e, pulse, sampledPulse⟩, s, first, sampledFirst⟩, other, second⟩, fails⟩,
      failsToo⟩ := ran
    cases failed : sampleEnsemble "pulse" (afterAll sharedOnce g) with
    | ok _ _ => rw [failed] at fails; cases fails
    | error f behind =>
      cases failed' : sampleSequence "second" (afterAll sharedOnce g) with
      | ok _ _ => rw [failed'] at failsToo; cases failsToo
      | error f' behind' =>
        have ensemble :=
          (failed_sampling_leaves_no_record memory started sharedOnce "pulse" f behind).1 e
            pulse failed
        have sequence :=
          (failed_sampling_leaves_no_record memory started sharedOnce "second" f' behind').2 other
            second failed'
        exact ⟨g, rfl, e, s, other, f, f', behind, behind', ⟨pulse, sampledPulse⟩,
          ⟨first, sampledFirst⟩, failed, ensemble.1, ensemble.2, second, failed', sequence.1,
          sequence.2⟩

end Runs

end PulseBench.Generator
