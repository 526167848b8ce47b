import PulseBench.Proofs.Generator.Loaded

/-!
# What deleting does to records and mark

A record needs the waveforms that it names. Deleting a waveform that is there
takes all records that name it, and the mark of their assets. The device, on
the other hand, unloads what is called like a deleted waveform or program,
whether there was one or not.

Results:
1. `deleteWaveform_sheds`, `forM_deleteWaveform_sheds`: waveforms.
2. `deleteProgram_sheds`: programs.
3. `deleteEnsemble_sheds`, `deleteSequence_sheds`, `clear_unmarked`: objects, and
   everything at once.
-/

namespace PulseBench.Generator

variable {α : Type}

open PulseBench.Action (Moves after after_of_ok after_of_error)

/-! ## 1. Waveforms -/

/-- A waveform is on the device, and the record of an asset names it. -/
def Backs (g : Generator α (MemoryPulser α)) (waveform : String) (a : LoadedAsset) : Prop :=
  g.device.waveforms.contains waveform = true ∧
    ∃ r, g.record? a = some r ∧ waveform ∈ r.waveforms

section Deleting

variable {g : Generator α (MemoryPulser α)}

/-- The device forgets what it deletes. -/
theorem unload_loaded (p : MemoryPulser α) (name n : String) :
    (MemoryPulser.unload name p).loaded = some n ↔ p.loaded = some n ∧ n ≠ name := by
  unfold MemoryPulser.unload
  by_cases own : p.loaded = some name
  · simp only [own, BEq.rfl, if_true]
    constructor
    · rintro ⟨⟩
    · rintro ⟨same, other⟩
      exact absurd (Option.some.inj same).symm other
  · simp only [beq_eq_false_iff_ne.mpr own]
    refine ⟨fun same => ⟨same, ?_⟩, And.left⟩
    rintro rfl
    exact own same

theorem mentions_iff {record : Option (Record α)} {test : String → Bool} :
    mentions record test = true ↔ ∃ r, record = some r ∧ ∃ w ∈ r.waveforms, test w = true := by
  simp only [mentions, Option.any_eq_true, List.any_eq_true]

/-- What a record mentions of a waveform that is deleted if it is there. -/
theorem mentions_deleted_iff {record : Option (Record α)} {there : Bool} {name : String} :
    mentions record (if there then [name] else []).contains = true ↔
      there = true ∧ ∃ r, record = some r ∧ name ∈ r.waveforms := by
  rw [mentions_iff]
  cases there with
  | false => simp
  | true => simp

variable [Scalar α]

/-- The loop over the ensembles that lose their records takes the mark along. -/
theorem forM_clearAndUnload_unloads {names : List String} {g' : Generator α (MemoryPulser α)}
    (done : (names.forM fun ensemble => do
      clearEnsembleRecord ensemble
      modify (unload ⟨ensemble, .ensemble⟩)) g = .ok ⟨⟩ g') :
    Unloads (Among (· ∈ names) fun _ => False) g g' := by
  have each : ∀ n ∈ names, ∀ a b : Generator α (MemoryPulser α),
      (do
        clearEnsembleRecord n
        modify (unload ⟨n, .ensemble⟩) : Action α _ PUnit) a = .ok ⟨⟩ b →
      Unloads (· = ⟨n, .ensemble⟩) a b := by
    intro n _ a b done
    have mark := clearEnsembleRecord_mark n a
    cases cleared : clearEnsembleRecord n a with
    | error f middle => cases (Action.bind_of_error cleared).symm.trans done
    | ok _ middle =>
      cases (Action.bind_of_ok cleared).symm.trans done
      rw [after_of_ok cleared] at mark
      exact ((unloads_of_same mark).trans (unload_unloads _ middle)).congr fun x => by simp
  refine (forM_unloads each done).congr fun ⟨n, kind⟩ => ?_
  cases kind <;> simp [Among]

/-- Exactly the assets whose record names the deleted waveform lose it, and they are unloaded. -/
theorem deleteWaveform_sheds (orderly : g.Orderly) (name : String) :
    ∃ deleted g', deleteWaveform name g = .ok deleted g' ∧
      Sheds (g.Backs name) (g.Backs name) g g' ∧ g'.Orderly ∧
      g'.device.waveforms = g.device.waveforms.erase name ∧
      ∀ n, g'.device.loaded = some n ↔ g.device.loaded = some n ∧ n ≠ name := by
  obtain ⟨deleted, known⟩ : ∃ deleted : List String,
      deleted = if g.device.waveforms.contains name then [name] else [] := ⟨_, rfl⟩
  obtain ⟨device, called, erased, loaded⟩ : ∃ device : MemoryPulser α,
      (Pulser.deleteWaveform name : Action α (MemoryPulser α) (List String)) g.device =
        .ok deleted device ∧ device.waveforms = g.device.waveforms.erase name ∧
      ∀ n, device.loaded = some n ↔ g.device.loaded = some n ∧ n ≠ name := by
    rw [known]
    exact ⟨_, rfl, rfl, fun n => unload_loaded _ name n⟩
  have start : ({ g with device } : Generator α (MemoryPulser α)).Orderly :=
    orderly.of_same rfl rfl rfl
  obtain ⟨middle, ensembles, first⟩ := forM_clearAndUnload_ok start.store
    (g.ensemblesWhere fun e => mentions e.record deleted.contains)
  obtain ⟨g', sequences, second⟩ := forM_clearSequenceRecord_ok (first.store.trans start.store)
    (g.sequencesWhere fun s => mentions s.record deleted.contains)
  have ran : deleteWaveform name g = .ok deleted g' := by
    unfold deleteWaveform
    rw [Action.bind_of_ok (onDevice_ok called), Action.bind_of_ok (Action.get_apply _)]
    exact (Action.bind_of_ok ensembles).trans (Action.bind_of_ok sequences)
  obtain ⟨E, S, lists⟩ : ∃ E S,
      E = (g.ensemblesWhere fun e => mentions e.record deleted.contains) ∧
      S = g.sequencesWhere fun s => mentions s.record deleted.contains := ⟨_, _, rfl, rfl⟩
  have forgets : Forgets (· ∈ E) (· ∈ S) { g with device } g' := by
    rw [lists.1, lists.2]
    exact (first.trans second).congr (fun _ => Iff.of_eq (or_false _)) fun _ =>
      Iff.of_eq (false_or _)
  have unloads : Unloads (Among (· ∈ E) (· ∈ S)) { g with device } g' := by
    rw [lists.1, lists.2]
    refine ((forM_clearAndUnload_unloads ensembles).trans
      (forM_clearSequenceRecord_unloads sequences)).congr fun ⟨n, kind⟩ => ?_
    cases kind with
    | ensemble => exact Iff.of_eq (or_false _)
    | sequence => exact Iff.of_eq (false_or _)
  have backed (x : LoadedAsset) : Among (· ∈ E) (· ∈ S) x ↔ g.Backs name x := by
    obtain ⟨n, kind⟩ := x
    cases kind with
    | ensemble =>
      simp only [Among, lists.1, known, mem_ensemblesWhere_iff orderly.ensemble_named,
        mentions_deleted_iff, Backs, record?, Option.bind_eq_some_iff]
      grind
    | sequence =>
      simp only [Among, lists.2, known, mem_sequencesWhere_iff orderly.sequence_named,
        mentions_deleted_iff, Backs, record?, Option.bind_eq_some_iff]
      grind
  have called : Sheds (fun _ => False) (fun _ => False) g { g with device } :=
    Sheds.of_same rfl rfl rfl
  have sameDevice : g'.device = device := forgets.device
  refine ⟨deleted, g', ran, ?_, start.forgets forgets, by rw [sameDevice, erased], fun n => by
    rw [sameDevice, loaded]⟩
  exact (called.trans (forgets.sheds unloads)).congr
    (fun x => (Iff.of_eq (false_or _)).trans (backed x))
    fun x => (Iff.of_eq (false_or _)).trans (backed x)

/-- The same for one waveform after the other. -/
theorem forM_deleteWaveform_sheds (orderly : g.Orderly) (names : List String) :
    ∃ g', (names.forM fun name => do let _ ← deleteWaveform name) g = .ok ⟨⟩ g' ∧
      Sheds (fun a => ∃ w ∈ names, g.Backs w a) (fun a => ∃ w ∈ names, g.Backs w a) g g' ∧
      g'.Orderly ∧ ∀ n, g'.device.loaded = some n ↔ g.device.loaded = some n ∧ n ∉ names := by
  induction names generalizing g with
  | nil =>
    refine ⟨g, rfl, (Sheds.refl g).congr (fun _ => by simp) fun _ => by simp, orderly, fun n => ?_⟩
    simp
  | cons name rest ih =>
    obtain ⟨deleted, middle, first, sheds, between, erased, loaded⟩ :=
      deleteWaveform_sheds orderly name
    obtain ⟨g', others, later, behind, loadedLater⟩ := ih between
    -- What backs a record that survived the first waveform is still there.
    have backs (w : String) (a : LoadedAsset) (spared : ¬ g.Backs name a) :
        middle.Backs w a ↔ g.Backs w a := by
      rw [Backs, Backs, sheds.kept a spared]
      refine and_congr_left fun ⟨r, carried, named⟩ => ?_
      rw [erased, Roster.contains, Roster.contains, Roster.get?_erase]
      by_cases own : w = name
      · rw [own] at named
        simp only [own, if_true]
        refine ⟨fun there => by simp at there, fun there => ?_⟩
        exact absurd ⟨there, r, carried, named⟩ spared
      · rw [if_neg own]
    have either (a : LoadedAsset) : (g.Backs name a ∨ ∃ w ∈ rest, middle.Backs w a) ↔
        ∃ w ∈ name :: rest, g.Backs w a := by
      by_cases spared : g.Backs name a
      · simp [spared]
      · simp [spared, backs]
    have one : (do let _ ← deleteWaveform name : Action α _ PUnit) g = .ok ⟨⟩ middle :=
      Action.bind_of_ok first
    refine ⟨g', (Action.bind_of_ok one).trans others, (sheds.trans later).congr either either,
      behind, fun n => ?_⟩
    rw [loadedLater, loaded, List.mem_cons, not_or, and_assoc]

/-! ## 2. Programs -/

/-- Deleting a program takes the record of the sequence of its name, and the mark. -/
theorem deleteProgram_sheds (orderly : g.Orderly) (name : String) :
    ∃ deleted g', deleteProgram name g = .ok deleted g' ∧
      Sheds (fun a => a = ⟨name, .sequence⟩ ∧ g.device.programs.contains name = true)
        (fun a => a = ⟨name, .sequence⟩ ∧ g.device.programs.contains name = true) g g' ∧
      g'.Orderly ∧
      ∀ n, g'.device.loaded = some n ↔ g.device.loaded = some n ∧ n ≠ name := by
  obtain ⟨deleted, known⟩ : ∃ deleted : List String,
      deleted = if g.device.programs.contains name then [name] else [] := ⟨_, rfl⟩
  obtain ⟨device, called, loaded⟩ : ∃ device : MemoryPulser α,
      (Pulser.deleteSequence name : Action α (MemoryPulser α) (List String)) g.device =
        .ok deleted device ∧
      ∀ n, device.loaded = some n ↔ g.device.loaded = some n ∧ n ≠ name := by
    rw [known]
    exact ⟨_, rfl, fun n => unload_loaded _ name n⟩
  have start : ({ g with device } : Generator α (MemoryPulser α)).Orderly :=
    orderly.of_same rfl rfl rfl
  obtain ⟨g', cleared, forgets⟩ := forM_clearSequenceRecord_ok start.store deleted
  have ran : deleteProgram name g = .ok deleted g' := by
    unfold deleteProgram
    rw [Action.bind_of_ok (onDevice_ok called)]
    exact Action.bind_of_ok cleared
  have meant (x : LoadedAsset) : Among (fun _ => False) (· ∈ deleted) x ↔
      x = ⟨name, .sequence⟩ ∧ g.device.programs.contains name = true := by
    obtain ⟨n, kind⟩ := x
    rw [known]
    cases kind with
    | ensemble => simp [Among]
    | sequence => split <;> simp_all [Among]
  have called : Sheds (fun _ => False) (fun _ => False) g { g with device } :=
    Sheds.of_same rfl rfl rfl
  refine ⟨deleted, g', ran, ?_, start.forgets forgets, fun n => by rw [forgets.device, loaded]⟩
  exact (called.trans (forgets.sheds (forM_clearSequenceRecord_unloads cleared))).congr
    (fun x => (Iff.of_eq (false_or _)).trans (meant x))
    fun x => (Iff.of_eq (false_or _)).trans (meant x)

/-! ## 3. Objects -/

/-- The waveforms that the record of an ensemble names. -/
def waveformsOf (g : Generator α (MemoryPulser α)) (ensemble : String) : List String :=
  ((g.record? ⟨ensemble, .ensemble⟩).map Record.waveforms).getD []

/-- An ensemble that is deleted only takes the mark along if one of its waveforms is there. -/
theorem deleteEnsemble_sheds (orderly : g.Orderly) (name : String) :
    Sheds (fun a => a = ⟨name, .ensemble⟩ ∨ ∃ w ∈ g.waveformsOf name, g.Backs w a)
      (fun a => ∃ w ∈ g.waveformsOf name, g.Backs w a) g ((deleteEnsemble name).after g) ∧
    ∀ n, ((deleteEnsemble name).after g).device.loaded = some n ↔
      g.device.loaded = some n ∧ n ∉ g.waveformsOf name := by
  cases found : g.ensembles.get? name with
  | none =>
    have unknown : deleteEnsemble name g =
        .error (.unknown ObjectKind.ensemble.collection name) g := by
      unfold deleteEnsemble
      rw [Action.bind_of_ok (Action.get_apply g), findEnsemble, found]
      rfl
    have bare : g.record? ⟨name, .ensemble⟩ = none := by rw [record?, found]; rfl
    rw [after_of_error unknown, waveformsOf, bare]
    refine ⟨⟨fun a which => ?_, fun _ _ => rfl, (unloads_of_same rfl).congr fun _ => by simp⟩,
      fun n => by simp⟩
    rcases which with rfl | ⟨w, member, -⟩
    · exact bare
    · cases member
  | some e =>
    have known : (Action.lift (g.findEnsemble name) :
        Action α (Generator α (MemoryPulser α)) (Ensemble α)) g = .ok e g := by
      rw [findEnsemble, found]
      rfl
    have waveforms : (e.record.map Record.waveforms).getD [] = g.waveformsOf name := by
      rw [waveformsOf, record?, found]
      rfl
    obtain ⟨middle, deleted, sheds, between, loaded⟩ :=
      forM_deleteWaveform_sheds orderly (g.waveformsOf name)
    have ran : deleteEnsemble name g =
        .ok ⟨⟩ { middle with ensembles := middle.ensembles.erase name } := by
      unfold deleteEnsemble
      rw [Action.bind_of_ok (Action.get_apply g), Action.bind_of_ok known]
      simp only [waveforms]
      rw [Action.bind_of_ok deleted, Action.bind_of_ok (Action.modify_apply _ middle)]
      exact unpersist_ok (by exact between.store) _ _
    have erased : Sheds (Among (· = name) fun _ => False) (fun _ => False) middle
        { middle with ensembles := middle.ensembles.erase name } :=
      Sheds.of_ensembles (fun n own => by rw [own, Roster.get?_erase, if_pos rfl]; rfl)
        fun n other => by rw [Roster.get?_erase, if_neg other]
    rw [after_of_ok ran]
    refine ⟨(sheds.trans erased).congr (fun asset => ?_) fun _ => Iff.of_eq (or_false _), loaded⟩
    obtain ⟨n, kind⟩ := asset
    cases kind <;> simp [Among, or_comm]

/-- A sequence that is deleted only takes the mark along if its program is there. -/
theorem deleteSequence_sheds (orderly : g.Orderly) (name : String) :
    Sheds (· = ⟨name, .sequence⟩)
      (fun a => a = ⟨name, .sequence⟩ ∧ (g.record? ⟨name, .sequence⟩).isSome = true ∧
        g.device.programs.contains name = true) g ((deleteSequence name).after g) ∧
    ∀ n, ((deleteSequence name).after g).device.loaded = some n ↔
      g.device.loaded = some n ∧ ((g.record? ⟨name, .sequence⟩).isSome = true → n ≠ name) := by
  cases found : g.sequences.get? name with
  | none =>
    have unknown : deleteSequence name g =
        .error (.unknown ObjectKind.sequence.collection name) g := by
      unfold deleteSequence
      rw [Action.bind_of_ok (Action.get_apply g), findSequence, found]
      rfl
    have bare : g.record? ⟨name, .sequence⟩ = none := by rw [record?, found]; rfl
    rw [after_of_error unknown, bare]
    refine ⟨⟨fun a own => own ▸ bare, fun _ _ => rfl, (unloads_of_same rfl).congr fun _ => by simp⟩,
      fun n => by simp⟩
  | some s =>
    have known : (Action.lift (g.findSequence name) :
        Action α (Generator α (MemoryPulser α)) (Sequence α)) g = .ok s g := by
      rw [findSequence, found]
      rfl
    have carried : (g.record? ⟨name, .sequence⟩).isSome = s.isSampled := by
      rw [record?, found]
      rfl
    rw [carried]
    have erased (middle : Generator α (MemoryPulser α)) :
        Sheds (Among (fun _ => False) (· = name)) (fun _ => False) middle
          { middle with sequences := middle.sequences.erase name } :=
      Sheds.of_sequences (fun n own => by rw [own, Roster.get?_erase, if_pos rfl]; rfl)
        fun n other => by rw [Roster.get?_erase, if_neg other]
    have meant (a : LoadedAsset) : Among (fun _ => False) (· = name) a ↔ a = ⟨name, .sequence⟩ := by
      obtain ⟨n, kind⟩ := a
      cases kind <;> simp [Among]
    by_cases sampled : s.isSampled = true
    · obtain ⟨deleted, middle, done, sheds, between, loaded⟩ := deleteProgram_sheds orderly name
      have ran : deleteSequence name g =
          .ok ⟨⟩ { middle with sequences := middle.sequences.erase name } := by
        unfold deleteSequence
        rw [Action.bind_of_ok (Action.get_apply g), Action.bind_of_ok known]
        simp only [sampled, if_true]
        rw [Action.bind_of_ok done, Action.bind_of_ok (Action.modify_apply _ middle)]
        exact unpersist_ok (by exact between.store) _ _
      rw [after_of_ok ran]
      refine ⟨(sheds.trans (erased middle)).congr (fun a => ?_) fun a => ?_, fun n => ?_⟩
      · rw [meant]
        exact ⟨fun which => which.elim And.left id, Or.inr⟩
      · simp [sampled]
      · simpa [sampled] using loaded n
    · have ran : deleteSequence name g =
          .ok ⟨⟩ { g with sequences := g.sequences.erase name } := by
        unfold deleteSequence
        rw [Action.bind_of_ok (Action.get_apply g), Action.bind_of_ok known]
        simp only [sampled]
        exact (Action.bind_of_ok (Action.modify_apply _ g)).trans
          (unpersist_ok (by exact orderly.store) _ _)
      rw [after_of_ok ran]
      exact ⟨(erased g).congr meant fun a => by simp [sampled], fun n => by simp [sampled]⟩

/-- Behind a cleared device nothing is marked. -/
theorem clear_unmarked (orderly : g.Orderly) :
    ((clear : Action α (Generator α (MemoryPulser α)) Unit).after g).loaded = none := by
  obtain ⟨device, called⟩ : ∃ device, (Pulser.clear : Action α (MemoryPulser α) Unit)
      g.device = .ok ⟨⟩ device := ⟨_, rfl⟩
  obtain ⟨middle, ensembles, first⟩ :=
    forM_clearEnsembleRecord_ok (g := { g with device }) orderly.store g.ensembles.names
  obtain ⟨behind, sequences, second⟩ :=
    forM_clearSequenceRecord_ok (first.store.trans orderly.store) middle.sequences.names
  have ran : clear g = .ok ⟨⟩ { behind with loaded := none } := by
    unfold clear
    rw [Action.bind_of_ok (onDevice_ok called), Action.bind_of_ok (Action.get_apply _),
      Action.bind_of_ok ensembles, Action.bind_of_ok (Action.get_apply _)]
    exact Action.bind_of_ok sequences
  rw [after_of_ok ran]

end Deleting

end PulseBench.Generator
