import PulseBench.Proofs.Compile.Program
import PulseBench.Proofs.Generator.Harmless

/-!
# What compiling does to a generator

Compiling an object goes through three stages: records are dropped, the device
is written, and new records are attached. If the device fails, the first stage
stands and the third is left out. The two outcomes below say what is left in
either case, in memory and on a device that refuses nothing.

Results:
1. `sampleEnsemble_outcome`: an ensemble.
2. `forM_attachRecord_ok`: handing records back to ensembles.
3. `sampleSequence_outcome`: a sequence.
-/

namespace PulseBench

variable {α : Type}

/-- An ensemble with a record. -/
def Ensemble.carrying (e : Ensemble α) (r : Record α) : Ensemble α := { e with record := some r }

/-- A sequence with a record. -/
def Sequence.carrying (s : Sequence α) (r : Record α) : Sequence α := { s with record := some r }

namespace Generator

open MemoryPulser (Frame)

variable [Analytic α]

/-! ## 1. An ensemble -/

section Single

variable {g : Generator α (MemoryPulser α)}

/-- The program of a single waveform can always be written. -/
theorem writeSingleStep_ok (accepting : g.device.Accepting) {name : String}
    (there : g.device.waveforms.contains name = true) :
    ∃ device, writeSingleStep name g = .ok ⟨⟩ { g with device } ∧
      device.limits = g.device.limits ∧ device.refuseAfter = g.device.refuseAfter ∧
      device.waveforms = g.device.waveforms ∧
      (device.programs = g.device.programs ∨
        device.programs = g.device.programs.insert name [singleStep g.limits name]) := by
  unfold writeSingleStep
  rw [Action.bind_of_ok (Action.get_apply g)]
  by_cases required : g.limits.sequencer = .required
  · obtain ⟨device, wrote, limits, refuseAfter, waveforms, programs⟩ :=
      MemoryPulser.writeSequence_ok accepting name [singleStep g.limits name]
        fun step member w named => by
          rw [List.mem_singleton.mp member] at named
          rw [List.mem_singleton.mp named]
          exact there
    refine ⟨device, ?_, limits, refuseAfter, waveforms, Or.inr programs⟩
    have call : (Pulser.writeSequence name [singleStep g.limits name] :
        Action α (MemoryPulser α) Nat) g.device = .ok 1 device := wrote
    simp only [required, if_true]
    exact Action.tryCatch_of_ok (Action.bind_of_ok (onDevice_ok call))
  · refine ⟨g.device, ?_, rfl, rfl, rfl, Or.inl rfl⟩
    simp only [required, if_false]
    rfl

/-- Compiling an ensemble drops its record and those of its users. Then either the device fails,
or it holds the reference waveform and the ensemble has its record. -/
theorem sampleEnsemble_outcome (memory : g.InMemory) (name : String) :
    (g.ensembles.get? name = none ∧ ∃ f, sampleEnsemble name g = .error f g) ∨
    ∃ e cleared, g.ensembles.get? name = some e ∧
      Forgets (· = name) (g.UsedBy name) g cleared ∧
      ((∃ f device, sampleEnsemble name g = .error f { cleared with device } ∧
          Frame (· = name) g.device device) ∨
        ∃ a played device, g.compiler.Compiles e g.blocks 0 a played ∧
          sampleEnsemble name g = .ok (g.compiler.recordOf a name) { cleared with
            device
            ensembles := cleared.ensembles.insert name
              (e.carrying (g.compiler.recordOf a name)) } ∧
          device.limits = g.device.limits ∧ device.refuseAfter = g.device.refuseAfter ∧
          device.waveforms.get? name = some (g.compiler.reference e 0 a played) ∧
          (∀ other, other ≠ name →
            device.waveforms.get? other = g.device.waveforms.get? other) ∧
          (device.programs = g.device.programs ∨
            device.programs = g.device.programs.insert name [singleStep g.limits name])) := by
  cases found : g.ensembles.get? name with
  | none =>
    left
    refine ⟨rfl, .unknown ObjectKind.ensemble.collection name, ?_⟩
    have unknown : (Action.lift (g.findEnsemble name) :
        Action α (Generator α (MemoryPulser α)) (Ensemble α)) g =
        .error (.unknown ObjectKind.ensemble.collection name) g := by
      rw [findEnsemble, found]
      rfl
    unfold sampleEnsemble
    rw [Action.bind_of_ok (Action.get_apply g), Action.bind_of_error unknown]
  | some e =>
    right
    obtain ⟨cleared, invalidated, forgets⟩ :=
      invalidateEnsemble_ok memory.store memory.sequence_named name
    refine ⟨e, cleared, rfl, forgets, ?_⟩
    have known : (Action.lift (g.findEnsemble name) :
        Action α (Generator α (MemoryPulser α)) (Ensemble α)) g = .ok e g := by
      rw [findEnsemble, found]
      rfl
    have accepting : cleared.device.Accepting := by
      rw [forgets.device]
      exact memory.accepting
    unfold sampleEnsemble
    rw [Action.bind_of_ok (Action.get_apply g), Action.bind_of_ok known,
      Action.bind_of_ok invalidated, Action.bind_of_ok (Action.get_apply cleared),
      ← forgets.compiler, ← forgets.blocks]
    -- Whether it compiles does not depend on the device, so nothing has to be known of that.
    by_cases compiles : ∃ a played, cleared.compiler.Compiles e cleared.blocks 0 a played
    · right
      obtain ⟨a, played, compiles⟩ := compiles
      obtain ⟨written, done, held, frame⟩ := Compiler.sampleEnsemble_ok compiles accepting name
      have filled : 0 < a.samples :=
        Nat.lt_of_lt_of_le (by rw [forgets.compiler]; exact memory.least)
          (Compiler.fits_of_validate compiles.valid).atLeast
      have there := held filled
      obtain ⟨device, single, limits, refuseAfter, waveforms, programs⟩ :=
        writeSingleStep_ok (g := { cleared with device := written }) (accepting.frame frame)
          (Roster.contains_iff.mpr ⟨_, there⟩)
      refine ⟨a, played, device, compiles, ?_, ?_, ?_, ?_, fun other different => ?_, ?_⟩
      · rw [Action.bind_of_ok (onDevice_ok done)]
        show (writeSingleStep name >>= _) _ = _
        rw [Action.bind_of_ok single]
        exact Action.bind_of_ok (persist_ok (by exact forgets.store.trans memory.store) _)
      · rw [limits, ← forgets.device]
        exact frame.limits
      · rw [refuseAfter, ← forgets.device]
        exact frame.refuseAfter
      · rw [waveforms]
        exact there
      · rw [waveforms, ← forgets.device]
        exact frame.waveforms other different
      · have before : written.programs = g.device.programs := by
          rw [← forgets.device]
          exact frame.programs
        rw [← before]
        have sameLimits : cleared.limits = g.limits := forgets.limits
        rw [← sameLimits]
        exact programs
    · left
      obtain ⟨f, device, failed, frame⟩ :=
        Compiler.sampleEnsemble_error compiles accepting name
      refine ⟨f, device, Action.bind_of_error (onDevice_error failed), ?_⟩
      rw [← forgets.device]
      exact frame

end Single

/-! ## 2. Handing records back -/

section Attaching

variable {δ : Type} {g : Generator α δ}

/-- Ensembles of some names got records, and nothing else changed. -/
structure Attaches (records : String → Option (Record α)) (before after : Generator α δ) :
    Prop where
  ensembles : ∀ n, after.ensembles.get? n =
    match records n with
    | some r => (before.ensembles.get? n).map (·.carrying r)
    | none => before.ensembles.get? n
  rest : after = { before with ensembles := after.ensembles }

theorem attachRecord_ok (memory : g.store = none) (name : String) (r : Record α) :
    ∃ g', attachRecord name r g = .ok ⟨⟩ g' ∧
      Attaches (fun n => if n = name then some r else none) g g' := by
  unfold attachRecord
  rw [Action.bind_of_ok (Action.get_apply g)]
  cases found : g.ensembles.get? name with
  | none =>
    refine ⟨g, rfl, fun n => ?_, rfl⟩
    by_cases own : n = name
    · subst own
      simp [found]
    · simp [own]
  | some e =>
    refine ⟨_, Action.bind_of_ok (Action.modify_apply _ g) |>.trans
      (persist_ok (by exact memory) _), fun n => ?_, rfl⟩
    by_cases own : n = name
    · subst own
      simp [found, Ensemble.carrying]
    · simp [own]

/-- Records of different names do not get in each other's way. -/
theorem forM_attachRecord_ok (memory : g.store = none) (records : Roster (Record α)) :
    ∃ g', (records.entries.forM fun entry => attachRecord entry.1 entry.2) g = .ok ⟨⟩ g' ∧
      Attaches records.get? g g' := by
  obtain ⟨entries, nodup⟩ := records
  induction entries generalizing g with
  | nil => exact ⟨g, rfl, fun n => rfl, rfl⟩
  | cons entry rest ih =>
    rw [List.map_cons, List.nodup_cons] at nodup
    obtain ⟨middle, attached, first⟩ := attachRecord_ok memory entry.1 entry.2
    have store : middle.store = none := by
      rw [first.rest]
      exact memory
    -- The names to come are different ones, so what was attached first stays.
    obtain ⟨g', others, later⟩ := ih store nodup.2
    refine ⟨g', (Action.bind_of_ok attached).trans others, fun n => ?_, ?_⟩
    · rw [later.ensembles, first.ensembles]
      change (match rest.lookup n with | some r => _ | none => _) =
        match (entry :: rest).lookup n with | some r => _ | none => _
      rw [Roster.lookup_cons_eq]
      by_cases own : n = entry.1
      · rw [own, Roster.lookup_of_not_mem nodup.1]
      · simp [own]
    · rw [later.rest, first.rest]

end Attaching

/-! ## 3. A sequence -/

section Program

variable {g : Generator α (MemoryPulser α)}

/-- The record of a sequence that was compiled in steps. -/
def joined (g : Generator α (MemoryPulser α)) (draft : Compiler.Draft α) : Record α :=
  Compiler.joinRecords g.settings draft.sampled.values

/-- Behind a sequence that was compiled: the drafted waveforms and the program are on the device,
ensembles got the records of waveforms of their names, and the sequence got its own. -/
structure Sequenced (s : Sequence α) (name : String) (draft : Compiler.Draft α)
    (before cleared after : Generator α (MemoryPulser α)) : Prop where
  compiled : ∃ drafted, Compiler.Drafted before.compiler s cleared.ensembles before.blocks
    before.device draft drafted ∧ after.device.waveforms = drafted.waveforms
  programs : after.device.programs = before.device.programs.insert name draft.steps
  refuseAfter : after.device.refuseAfter = before.device.refuseAfter
  ensembles : ∀ n, after.ensembles.get? n =
    match draft.sampled.get? n with
    | some r => (cleared.ensembles.get? n).map (·.carrying r)
    | none => cleared.ensembles.get? n
  sequences : ∀ n, after.sequences.get? n =
    if n = name then some (s.carrying (before.joined draft)) else cleared.sequences.get? n
  rest : after = { cleared with
    device := after.device
    ensembles := after.ensembles
    sequences := after.sequences }

/-- Compiling a sequence drops its record and those of the ensembles it plays. Then either the
device fails, or everything is there and recorded. -/
theorem sampleSequence_outcome (memory : g.InMemory) (name : String) :
    (g.sequences.get? name = none ∧ ∃ f, sampleSequence name g = .error f g) ∨
    ∃ s cleared, g.sequences.get? name = some s ∧
      Forgets (· ∈ s.ensembleNames) (· = name) g cleared ∧
      ((∃ f device, sampleSequence name g = .error f { cleared with device } ∧
          Frame (Compiler.StepWaveform s cleared.ensembles) g.device device) ∨
        ∃ draft after, sampleSequence name g = .ok (g.joined draft) after ∧
          Sequenced s name draft g cleared after) := by
  cases found : g.sequences.get? name with
  | none =>
    left
    refine ⟨rfl, .unknown ObjectKind.sequence.collection name, ?_⟩
    have unknown : (Action.lift (g.findSequence name) :
        Action α (Generator α (MemoryPulser α)) (Sequence α)) g =
        .error (.unknown ObjectKind.sequence.collection name) g := by
      rw [findSequence, found]
      rfl
    unfold sampleSequence
    rw [Action.bind_of_ok (Action.get_apply g), Action.bind_of_error unknown]
  | some s =>
    right
    have known : (Action.lift (g.findSequence name) :
        Action α (Generator α (MemoryPulser α)) (Sequence α)) g = .ok s g := by
      rw [findSequence, found]
      rfl
    have named := memory.sequence_named name s found
    obtain ⟨middle, clearedSequence, first⟩ := clearSequenceRecord_ok memory.store name
    obtain ⟨cleared, clearedEnsembles, second⟩ :=
      forM_clearEnsembleRecord_ok (first.store.trans memory.store) s.ensembleNames
    have forgets : Forgets (· ∈ s.ensembleNames) (· = name) g cleared :=
      (first.trans second).congr (fun n => by simp) fun n => by simp
    refine ⟨s, cleared, rfl, forgets, ?_⟩
    have accepting : cleared.device.Accepting := by
      rw [forgets.device]
      exact memory.accepting
    unfold sampleSequence
    rw [Action.bind_of_ok (Action.get_apply g), Action.bind_of_ok known,
      Action.bind_of_ok clearedSequence, Action.bind_of_ok clearedEnsembles,
      Action.bind_of_ok (Action.get_apply cleared)]
    rcases Compiler.sampleSequence_outcome (c := cleared.compiler) s cleared.ensembles
        cleared.blocks (by rw [forgets.compiler]; exact memory.least) accepting with
      ⟨draft, drafted, device, done, h, limits, refuseAfter, waveforms, programs⟩ |
      ⟨f, device, failed, frame⟩
    · right
      obtain ⟨attached, handed, attaches⟩ := forM_attachRecord_ok
        (g := { cleared with device }) (forgets.store.trans memory.store)
        (draft.sampled.filter fun n _ => cleared.ensembles.contains n)
      have joined : Compiler.joinRecords cleared.compiler.settings draft.sampled.values =
          g.joined draft := by
        rw [forgets.compiler]
        rfl
      rw [joined] at done
      have store : attached.store = none := by
        rw [attaches.rest]
        exact forgets.store.trans memory.store
      have sequences : attached.sequences = cleared.sequences := by rw [attaches.rest]
      have kept : attached.device = device := by rw [attaches.rest]
      refine ⟨draft, { attached with
        sequences := attached.sequences.insert name (s.carrying (g.joined draft)) }, ?_, ?_⟩
      · rw [Action.bind_of_ok (onDevice_ok done)]
        exact (Action.bind_of_ok handed).trans (Action.bind_of_ok (persist_ok store _))
      · constructor
        · refine ⟨drafted, ?_, ?_⟩
          · rw [← forgets.compiler, ← forgets.blocks, ← forgets.device]
            exact h
          · rw [← waveforms, ← kept]
        · rw [kept, programs, named, ← forgets.device, h.frame.programs]
        · rw [kept, refuseAfter, ← forgets.device, h.frame.refuseAfter]
        · -- Records of names that no ensemble has are handed to nobody.
          intro n
          rw [attaches.ensembles, Roster.get?_filter]
          cases drawn : draft.sampled.get? n with
          | none => rfl
          | some r =>
            cases listed : cleared.ensembles.get? n with
            | none => simp [Option.filter, Roster.contains, listed]
            | some e => simp [Option.filter, Roster.contains, listed]
        · intro n
          rw [Roster.get?_insert, sequences]
        · rw [attaches.rest]
    · left
      refine ⟨f, device, Action.bind_of_error (onDevice_error failed), ?_⟩
      rw [← forgets.device]
      exact frame

end Program

end Generator

end PulseBench
