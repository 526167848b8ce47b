import PulseBench.Proofs.Compile.Loaded
import PulseBench.Proofs.Generator.Deleted
import PulseBench.Proofs.Generator.Saved

/-!
# Whether the loaded asset can be played

An asset that is marked as loaded can be played (`Playable`) if its object is
there with a record, and if the device has it loaded. Every operation that
takes one of these away should take the mark, too. Some do not: an operation
`Strands` an asset if it leaves the mark on it and takes its record or its
place on the device. Exactly these operations end in a state with a mark on
something that can not be played.

Results:
1. `sampleEnsemble_finish`, `sampleSequence_finish`: compiling is the loss of
   records and the rest of it, which takes none (`Hands`), and hands some back
   (`finishSequence_recorded_iff`).
2. `finishEnsemble_follows`, `finishSequence_follows`: what the device still has
   loaded behind that.
3. `Playable.of_sheds`, `Playable.after_iff`: one operation.
4. `loaded_playable_iff`: a run, from the start.
5. `not_playable_of_saved_again`: a run behind which the mark is wrong.
-/

namespace PulseBench.Generator

variable {α δ : Type}

open PulseBench.Action (Moves after after_of_ok after_of_error)

/-! ## 1. Compiling -/

/-- A step that leaves the mark and takes no record. -/
structure Hands (before after : Generator α δ) : Prop where
  mark : after.loaded = before.loaded
  record : ∀ a r, before.record? a = some r → ∃ r', after.record? a = some r'

namespace Hands

theorem refl (g : Generator α δ) : Hands g g := ⟨rfl, fun _ r carried => ⟨r, carried⟩⟩

theorem trans (a b c : Generator α δ) (first : Hands a b) (second : Hands b c) : Hands a c where
  mark := second.mark.trans first.mark
  record x r carried := by
    obtain ⟨r', between⟩ := first.record x r carried
    exact second.record x r' between

theorem of_same {a b : Generator α δ} (ensembles : b.ensembles = a.ensembles)
    (sequences : b.sequences = a.sequences) (loaded : b.loaded = a.loaded) : Hands a b := by
  refine ⟨loaded, fun ⟨n, kind⟩ r carried => ⟨r, ?_⟩⟩
  cases kind with
  | ensemble => rw [← carried, record?, record?, ensembles]
  | sequence => rw [← carried, record?, record?, sequences]

/-- An ensemble with a record takes the place of another. -/
theorem of_ensemble (g : Generator α δ) (name : String) (e : Ensemble α) (r : Record α) :
    Hands g { g with ensembles := g.ensembles.insert name (e.carrying r) } := by
  refine ⟨rfl, fun ⟨n, kind⟩ own carried => ?_⟩
  cases kind with
  | ensemble =>
    by_cases here : n = name
    · exact ⟨r, by rw [record?, here, Roster.get?_insert_self]; rfl⟩
    · refine ⟨own, ?_⟩
      rw [← carried, record?, record?, Roster.get?_insert_of_ne _ _ here]
  | sequence => exact ⟨own, carried⟩

theorem of_sequence (g : Generator α δ) (name : String) (s : Sequence α) (r : Record α) :
    Hands g { g with sequences := g.sequences.insert name (s.carrying r) } := by
  refine ⟨rfl, fun ⟨n, kind⟩ own carried => ?_⟩
  cases kind with
  | ensemble => exact ⟨own, carried⟩
  | sequence =>
    by_cases here : n = name
    · exact ⟨r, by rw [record?, here, Roster.get?_insert_self]; rfl⟩
    · refine ⟨own, ?_⟩
      rw [← carried, record?, record?, Roster.get?_insert_of_ne _ _ here]

end Hands

theorem persist_hands {β : Type} [Storable α β] (object : β) :
    Moves Hands (persist object : Action α (Generator α δ) Unit) := by
  intro g
  obtain ⟨store, same⟩ := persist_only object g
  rw [same]
  exact Hands.of_same rfl rfl rfl

theorem onDevice_hands {β : Type} (act : Action α δ β) : Moves Hands (onDevice act) := by
  intro g
  obtain ⟨device, same⟩ := onDevice_only act g
  rw [same]
  exact Hands.of_same rfl rfl rfl

section Compiling

variable [Analytic α] [Pulser α δ]

/-- Compiling an ensemble, behind the loss of records. -/
def finishEnsemble (name : String) (e : Ensemble α) (c : Compiler α)
    (blocks : Roster (Block α)) : Action α (Generator α δ) (Record α) := do
  let (_, record) ← onDevice (c.sampleEnsemble e blocks name 0)
  writeSingleStep name
  persist (e.carrying record)
  modify fun g => { g with ensembles := g.ensembles.insert name (e.carrying record) }
  return record

/-- Compiling a sequence, behind the loss of records. -/
def finishSequence (name : String) (s : Sequence α) (c : Compiler α)
    (ensembles : Roster (Ensemble α)) (blocks : Roster (Block α)) :
    Action α (Generator α δ) (Record α) := do
  let (record, records) ← onDevice (c.sampleSequence s ensembles blocks)
  records.forM fun (ensemble, r) => attachRecord ensemble r
  persist (s.carrying record)
  modify fun g => { g with sequences := g.sequences.insert name (s.carrying record) }
  return record

variable {g : Generator α δ}

/-- The ensemble and its users lose their records, the users are unloaded, and the rest follows. -/
theorem sampleEnsemble_finish (orderly : g.Orderly) {name : String} {e : Ensemble α}
    (found : g.ensembles.get? name = some e) :
    ∃ cleared : Generator α δ, Strikes (· = name) g cleared ∧
      sampleEnsemble name g =
        finishEnsemble name e cleared.compiler cleared.blocks cleared := by
  have known : (Action.lift (g.findEnsemble name) :
      Action α (Generator α δ) (Ensemble α)) g = .ok e g := by
    rw [findEnsemble, found]
    rfl
  obtain ⟨cleared, invalidated, strikes, -⟩ := invalidateEnsemble_strikes orderly name
  refine ⟨cleared, strikes, ?_⟩
  unfold sampleEnsemble
  rw [Action.bind_of_ok (Action.get_apply g), Action.bind_of_ok known,
    Action.bind_of_ok invalidated]
  rfl

theorem finishEnsemble_hands (name : String) (e : Ensemble α) (c : Compiler α)
    (blocks : Roster (Block α)) :
    Moves Hands (finishEnsemble name e c blocks :
      Action α (Generator α δ) (Record α)) := by
  refine Moves.bind Hands.trans (onDevice_hands _) fun result => ?_
  refine Moves.bind Hands.trans (fun g => ?_) fun _ => ?_
  · obtain ⟨device, same⟩ := writeSingleStep_only name g
    rw [same]
    exact Hands.of_same rfl rfl rfl
  refine Moves.bind Hands.trans (persist_hands _) fun _ => ?_
  exact Moves.bind Hands.trans (Moves.modify fun g => Hands.of_ensemble g name e _)
    fun _ => Hands.refl

/-- The sequence loses its record and is unloaded, the ensembles that it plays lose theirs, and the
rest follows. -/
theorem sampleSequence_finish (orderly : g.Orderly) {name : String} {s : Sequence α}
    (found : g.sequences.get? name = some s) :
    ∃ cleared : Generator α δ, Forgets (s.uses · = true) (· = name) g cleared ∧
      Unloads (· = ⟨name, .sequence⟩) g cleared ∧
      sampleSequence name g =
        finishSequence name s cleared.compiler cleared.ensembles cleared.blocks cleared := by
  have known : (Action.lift (g.findSequence name) :
      Action α (Generator α δ) (Sequence α)) g = .ok s g := by
    rw [findSequence, found]
    rfl
  obtain ⟨middle, clearedSequence, first⟩ := clearSequenceRecord_ok orderly.store name
  obtain ⟨cleared, clearedEnsembles, second⟩ :=
    forM_clearEnsembleRecord_ok (first.store.trans orderly.store) s.ensembleNames
  have mark := forM_clearEnsembleRecord_mark s.ensembleNames middle
  rw [after_of_ok clearedEnsembles] at mark
  have played (n : String) : n ∈ s.ensembleNames ↔ s.uses n = true := by
    simp [Compiler.mem_ensembleNames_iff, Sequence.uses]
  refine ⟨cleared, (first.trans second).congr (fun n => ?_) fun n => ?_,
    ((clearSequenceRecord_unloads clearedSequence).trans (unloads_of_same mark)).congr
      fun x => Iff.of_eq (or_false _), ?_⟩
  · rw [false_or, played]
  · rw [or_false]
  · unfold sampleSequence
    rw [Action.bind_of_ok (Action.get_apply g), Action.bind_of_ok known,
      Action.bind_of_ok clearedSequence, Action.bind_of_ok clearedEnsembles]
    rfl

omit [Pulser α δ] in
theorem attachRecord_hands (name : String) (r : Record α) :
    Moves Hands (attachRecord name r : Action α (Generator α δ) Unit) := by
  refine Moves.get_bind fun g => ?_
  cases g.ensembles.get? name with
  | none => exact Hands.refl g
  | some e =>
    exact Moves.bind Hands.trans (Moves.modify fun g => Hands.of_ensemble g name e r)
      (fun _ => persist_hands (e.carrying r)) g

theorem finishSequence_hands (name : String) (s : Sequence α) (c : Compiler α)
    (ensembles : Roster (Ensemble α)) (blocks : Roster (Block α)) :
    Moves Hands (finishSequence name s c ensembles blocks :
      Action α (Generator α δ) (Record α)) := by
  refine Moves.bind Hands.trans (onDevice_hands _) fun result => ?_
  refine Moves.bind Hands.trans (Moves.forM Hands.refl Hands.trans fun entry _ =>
    attachRecord_hands entry.1 entry.2) fun _ => ?_
  refine Moves.bind Hands.trans (persist_hands _) fun _ => ?_
  exact Moves.bind Hands.trans (Moves.modify fun g => Hands.of_sequence g name s _)
    fun _ => Hands.refl

/-- Of the ensembles without record, those get one whose name a waveform of a step has. -/
theorem finishSequence_recorded_iff {cleared g' : Generator α δ} (memory : cleared.store = none)
    {name : String} {s : Sequence α} {c : Compiler α} {blocks : Roster (Block α)} {r : Record α}
    (done : finishSequence name s c cleared.ensembles blocks cleared = .ok r g')
    {n : String} {e : Ensemble α} (found : cleared.ensembles.get? n = some e)
    (bare : e.record = none) :
    (∃ r, g'.record? ⟨n, .ensemble⟩ = some r) ↔
      Compiler.StepWaveform s cleared.ensembles n := by
  obtain ⟨⟨own, records⟩, middle, compiled, done⟩ := Action.bind_ok_iff.mp done
  cases called : c.sampleSequence s cleared.ensembles blocks cleared.device with
  | error f device => cases (onDevice_error called).symm.trans compiled
  | ok result device =>
    cases (onDevice_ok called).symm.trans compiled
    obtain ⟨sampled, listed, names⟩ := Compiler.sampleSequence_names called
    cases listed
    obtain ⟨attached, handed, attaches⟩ := forM_attachRecord_ok (g := { cleared with device })
      memory (sampled.filter fun n _ => cleared.ensembles.contains n)
    have store : attached.store = none := by
      rw [attaches.rest]
      exact memory
    cases ((Action.bind_of_ok handed).trans (Action.bind_of_ok (persist_ok store
      (s.carrying own)))).symm.trans done
    have known : cleared.ensembles.contains n = true := Roster.contains_iff.mpr ⟨e, found⟩
    rw [← names, Roster.contains_iff, record?]
    simp only [attaches.ensembles, Roster.get?_filter, found]
    cases drawn : sampled.get? n with
    | none => simp [bare]
    | some r => simp [known, Ensemble.carrying, Option.filter]

end Compiling

/-! ## 2. What stays loaded on the device -/

section Playback

/-- What the device has loaded follows its log. -/
def DeviceFollows (before after : Generator α (MemoryPulser α)) : Prop :=
  before.device.Follows after.device

namespace DeviceFollows

theorem refl (g : Generator α (MemoryPulser α)) : DeviceFollows g g := MemoryPulser.Follows.refl _

theorem trans (a b c : Generator α (MemoryPulser α)) (first : DeviceFollows a b)
    (second : DeviceFollows b c) : DeviceFollows a c :=
  MemoryPulser.Follows.trans _ _ _ first second

theorem of_same {a b : Generator α (MemoryPulser α)} (device : b.device = a.device) :
    DeviceFollows a b := by
  rw [DeviceFollows, device]
  exact MemoryPulser.Follows.refl _

end DeviceFollows

theorem onDevice_follows {β : Type} {act : Action α (MemoryPulser α) β}
    (h : Moves MemoryPulser.Follows act) : Moves DeviceFollows (onDevice act) := by
  intro g
  have moved := h g.device
  cases called : act g.device with
  | ok b device =>
    rw [after_of_ok called] at moved
    rw [after_of_ok (onDevice_ok called)]
    exact moved
  | error f device =>
    rw [after_of_error called] at moved
    rw [after_of_error (onDevice_error called)]
    exact moved

theorem persist_follows {β : Type} [Storable α β] (object : β) :
    Moves DeviceFollows (persist object : Action α (Generator α (MemoryPulser α)) Unit) := by
  intro g
  obtain ⟨store, same⟩ := persist_only object g
  rw [same]
  exact .of_same rfl

variable [Analytic α]

theorem attachRecord_follows (name : String) (r : Record α) :
    Moves DeviceFollows (attachRecord name r :
      Action α (Generator α (MemoryPulser α)) Unit) := by
  refine Moves.get_bind fun g => ?_
  cases g.ensembles.get? name with
  | none => exact .refl g
  | some e =>
    refine Moves.bind DeviceFollows.trans (Moves.modify fun _ => ?_)
      (fun _ => persist_follows (e.carrying r)) g
    exact .of_same rfl

/-- A program that can not be written takes its waveform along. -/
theorem writeSingleStep_follows (name : String) :
    Moves DeviceFollows (writeSingleStep name :
      Action α (Generator α (MemoryPulser α)) Unit) := by
  refine Moves.get_bind fun g => ?_
  by_cases required : g.limits.sequencer = .required
  · simp only [required, if_true]
    refine Moves.tryCatch DeviceFollows.trans ?_ (fun f => ?_) g
    · exact Moves.bind DeviceFollows.trans
        (onDevice_follows (MemoryPulser.writeSequence_follows _ _)) fun _ => DeviceFollows.refl
    · exact Moves.bind DeviceFollows.trans
        (onDevice_follows (MemoryPulser.deleteWaveform_follows _)) fun _ => DeviceFollows.refl
  · simp only [required, if_false]
    exact .refl g

theorem finishEnsemble_follows (name : String) (e : Ensemble α) (c : Compiler α)
    (blocks : Roster (Block α)) :
    Moves DeviceFollows (finishEnsemble name e c blocks :
      Action α (Generator α (MemoryPulser α)) (Record α)) := by
  refine Moves.bind DeviceFollows.trans
    (onDevice_follows (c.sampleEnsemble_follows e blocks name 0)) fun result => ?_
  refine Moves.bind DeviceFollows.trans (writeSingleStep_follows name) fun _ => ?_
  refine Moves.bind DeviceFollows.trans (persist_follows _) fun _ => ?_
  exact fun g => .of_same rfl

theorem finishSequence_follows (name : String) (s : Sequence α) (c : Compiler α)
    (ensembles : Roster (Ensemble α)) (blocks : Roster (Block α)) :
    Moves DeviceFollows (finishSequence name s c ensembles blocks :
      Action α (Generator α (MemoryPulser α)) (Record α)) := by
  refine Moves.bind DeviceFollows.trans
    (onDevice_follows (c.sampleSequence_follows s ensembles blocks)) fun result => ?_
  refine Moves.bind DeviceFollows.trans (Moves.forM DeviceFollows.refl DeviceFollows.trans
    fun entry _ => attachRecord_follows entry.1 entry.2) fun _ => ?_
  refine Moves.bind DeviceFollows.trans (persist_follows _) fun _ => ?_
  exact fun g => .of_same rfl

end Playback

/-! ## 3. One operation -/

/-- What is marked as loaded has a record, and the device has it loaded. -/
def Playable (g : Generator α (MemoryPulser α)) : Prop :=
  ∀ a, g.loaded = some a → (∃ r, g.record? a = some r) ∧ g.device.loaded = some a.name

/-- An operation leaves the mark on an asset that can be played, and takes its record or its place
on the device:

- a new version of an object, or of a block that an ensemble plays;
- a deleted waveform, program or object of the same name, unless what is deleted was there and the
  record needed it;
- a compilation of the ensemble that fails, or any in which the device has to delete a waveform of
  the same name;
- a compilation of a sequence that plays the ensemble, if it fails or none of the waveforms that it
  writes has the name of the ensemble. -/
def Operation.Strands [Analytic α] (op : Operation α) (g : Generator α (MemoryPulser α))
    (a : LoadedAsset) : Prop :=
  match op with
  | .saveBlock _ | .saveEnsemble _ | .saveSequence _ | .generate _ _ _ =>
    Among ((op.saved g).Hits g) (fun n =>
      ¬ g.UsedByAny ((op.saved g).Hits g) n ∧ ∃ s ∈ (op.saved g).sequences, n = s.name) a
  | .deleteWaveform name => a.name = name ∧ ¬ g.Backs name a
  | .deleteProgram name =>
    a.name = name ∧ ¬ (a.kind = .sequence ∧ g.device.programs.contains name = true)
  | .deleteEnsemble name =>
    (a = ⟨name, .ensemble⟩ ∨ a.name ∈ g.waveformsOf name) ∧
      ∀ w ∈ g.waveformsOf name, ¬ g.Backs w a
  | .deleteSequence name =>
    (g.record? ⟨name, .sequence⟩).isSome = true ∧ a.name = name ∧
      ¬ (a.kind = .sequence ∧ g.device.programs.contains name = true)
  | .sampleEnsemble name =>
    a = ⟨name, .ensemble⟩ ∧ (∃ f g', Generator.sampleEnsemble name g = .error f g') ∨
      ¬ Among (fun _ => False) (g.UsedBy name) a ∧
        MemoryPulser.Deletes a.name g.device (op.after g).device
  | .sampleSequence name =>
    a ≠ ⟨name, .sequence⟩ ∧
      (MemoryPulser.Deletes a.name g.device (op.after g).device ∨
        ∃ s, g.sequences.get? name = some s ∧ Among (s.uses · = true) (fun _ => False) a ∧
          ((∃ f g', Generator.sampleSequence name g = .error f g') ∨
            ¬ Compiler.StepWaveform s g.ensembles a.name))
  | .deleteBlock _ | .setSettings _ | .setGeneration _ | .loadEnsemble _ | .loadSequence _ | .clear
  | .setOutput _ => False

namespace Playable

variable {lost unloaded : LoadedAsset → Prop} {g g' : Generator α (MemoryPulser α)}

/-- Only assets that keep the mark matter. -/
theorem iff_of_mark (mark : Unloads unloaded g g') :
    g'.Playable ↔ ∀ a, g.loaded = some a → ¬ unloaded a →
      (∃ r, g'.record? a = some r) ∧ g'.device.loaded = some a.name := by
  constructor
  · intro playable a marked stays
    exact playable a ((mark a).mpr ⟨marked, stays⟩)
  · intro each a marked
    obtain ⟨before, stays⟩ := (mark a).mp marked
    exact each a before stays

/-- Where records are lost, the mark has to go, too. -/
theorem of_sheds (playable : g.Playable) (sheds : Sheds lost unloaded g g') :
    g'.Playable ↔ ∀ a, g.loaded = some a →
      ¬ ((lost a ∨ g'.device.loaded ≠ some a.name) ∧ ¬ unloaded a) := by
  rw [iff_of_mark sheds.mark]
  refine forall_congr' fun a => forall_congr' fun marked => ?_
  obtain ⟨⟨r, carried⟩, -⟩ := playable a marked
  have kept : (∃ r, g'.record? a = some r) ↔ ¬ lost a := by
    constructor
    · rintro ⟨r', still⟩
      exact (sheds.of_record still).1
    · intro spared
      exact ⟨r, (sheds.kept a spared).trans carried⟩
  rw [kept]
  grind

/-- Where records are lost and others handed out behind that. -/
theorem of_hands (playable : g.Playable) {cleared : Generator α (MemoryPulser α)}
    (sheds : Sheds lost unloaded g cleared) (hands : Hands cleared g') :
    g'.Playable ↔ ∀ a, g.loaded = some a → ¬ unloaded a →
      (lost a → ∃ r, g'.record? a = some r) ∧ g'.device.loaded = some a.name := by
  have mark : Unloads unloaded g g' := by
    intro a
    rw [hands.mark]
    exact sheds.mark a
  rw [iff_of_mark mark]
  refine forall_congr' fun a => forall_congr' fun marked => forall_congr' fun stays => ?_
  refine and_congr_left fun _ => ⟨fun there _ => there, fun again => ?_⟩
  by_cases gone : lost a
  · exact again gone
  · obtain ⟨⟨r, carried⟩, -⟩ := playable a marked
    exact hands.record a r ((sheds.kept a gone).trans carried)

/-- Objects, mark and device speak of the same. -/
theorem of_same (playable : g.Playable) (ensembles : g'.ensembles = g.ensembles)
    (sequences : g'.sequences = g.sequences) (loaded : g'.loaded = g.loaded)
    (device : g'.device.loaded = g.device.loaded) : g'.Playable := by
  refine (playable.of_sheds (Sheds.of_same ensembles sequences loaded)).mpr fun a marked => ?_
  rw [device, (playable a marked).2]
  simp

/-- Loading either succeeds, and what was loaded can be played, or changes nothing. -/
theorem loadAsset_after [Scalar α] (playable : g.Playable) {asset : LoadedAsset} {r : Record α}
    (carried : g.record? asset = some r) : ((loadAsset asset).after g).Playable := by
  have uploads := MemoryPulser.upload_loaded asset.name g.device
  cases uploaded : MemoryPulser.upload asset.name g.device with
  | error f device =>
    rw [after_of_error uploaded] at uploads
    have call : (Pulser.upload asset.name : Action α (MemoryPulser α) Unit) g.device =
        .error f device := uploaded
    have ran : loadAsset asset g = .error f { g with device } :=
      Action.bind_of_error (onDevice_error call)
    rw [after_of_error ran]
    exact playable.of_same rfl rfl rfl uploads
  | ok _ device =>
    rw [after_of_ok uploaded] at uploads
    have call : (Pulser.upload asset.name : Action α (MemoryPulser α) Unit) g.device =
        .ok ⟨⟩ device := uploaded
    rcases MemoryPulser.load_cases asset.name device with ⟨f, refused⟩ | ⟨behind, loads, loaded⟩
    · have refusal : (Pulser.load asset.name : Action α (MemoryPulser α) Unit) device =
          .error f device := refused
      have ran : loadAsset asset g = .error f { g with device } :=
        (Action.bind_of_ok (onDevice_ok call)).trans
          (Action.bind_of_error (onDevice_error (g := { g with device }) refusal))
      rw [after_of_error ran]
      exact playable.of_same rfl rfl rfl uploads
    · have success : (Pulser.load asset.name : Action α (MemoryPulser α) Unit) device =
          .ok ⟨⟩ behind := loads
      have ran : loadAsset asset g = .ok asset { g with device := behind, loaded := some asset } :=
        (Action.bind_of_ok (onDevice_ok call)).trans
          ((Action.bind_of_ok (onDevice_ok (g := { g with device }) success)).trans
            (Action.bind_of_ok (Action.modify_apply _ _)))
      rw [after_of_ok ran]
      rintro a ⟨⟩
      exact ⟨⟨r, carried⟩, loaded⟩

/-- Loading what was found, if it is sampled. -/
theorem loading_after [Scalar α] {β : Type} (playable : g.Playable)
    {find : Except (Failure α) β} {isSampled : β → Bool} {refusal : Failure α} {asset : LoadedAsset}
    (carries : ∀ b, find = .ok b → isSampled b = true → ∃ r, g.record? asset = some r) :
    ((do
      let b ← Action.lift find
      unless isSampled b do throw refusal
      loadAsset asset : Action α (Generator α (MemoryPulser α)) LoadedAsset).after g).Playable := by
  cases find with
  | error f => exact playable
  | ok b =>
    rw [after, Action.run, Action.bind_of_ok (Action.lift_ok b g)]
    by_cases sampled : isSampled b = true
    · simp only [sampled, if_true]
      obtain ⟨r, carried⟩ := carries b rfl sampled
      exact playable.loadAsset_after carried
    · simp only [sampled]
      exact playable

theorem loadEnsemble_after [Scalar α] (playable : g.Playable) (name : String) :
    ((loadEnsemble name).after g).Playable := by
  refine playable.loading_after fun e found sampled => ?_
  have known : g.ensembles.get? name = some e := elim_eq_ok.mp found
  rw [record?, known]
  exact Option.isSome_iff_exists.mp sampled

theorem loadSequence_after [Scalar α] (playable : g.Playable) (name : String) :
    ((loadSequence name).after g).Playable := by
  refine playable.loading_after fun s found sampled => ?_
  have known : g.sequences.get? name = some s := elim_eq_ok.mp found
  rw [record?, known]
  exact Option.isSome_iff_exists.mp sampled

theorem deleteBlock_after [Scalar α] (playable : g.Playable) (orderly : g.Orderly)
    (name : String) : ((deleteBlock name).after g).Playable := by
  cases found : g.blocks.get? name with
  | none =>
    have unknown : deleteBlock name g = .error (.unknown ObjectKind.block.collection name) g := by
      unfold deleteBlock
      rw [Action.bind_of_ok (Action.get_apply g), findBlock, found]
      rfl
    rw [after_of_error unknown]
    exact playable
  | some b =>
    have ran : deleteBlock name g = .ok ⟨⟩ { g with blocks := g.blocks.erase name } := by
      unfold deleteBlock
      rw [Action.bind_of_ok (Action.get_apply g), findBlock, found]
      exact unpersist_ok (by exact orderly.store) _ _
    rw [after_of_ok ran]
    exact playable.of_same rfl rfl rfl rfl

end Playable

/-- A step that leaves what is loaded playable. -/
def Spares (before after : Generator α (MemoryPulser α)) : Prop := before.Playable → after.Playable

theorem Spares.refl (g : Generator α (MemoryPulser α)) : Spares g g := id

theorem Spares.trans (a b c : Generator α (MemoryPulser α)) (first : Spares a b)
    (second : Spares b c) : Spares a c :=
  second ∘ first

section Settings

theorem onDevice_spares {β : Type} {act : Action α (MemoryPulser α) β}
    (same : Moves MemoryPulser.SameLoaded act) : Moves Spares (onDevice act) := by
  intro g playable
  have loaded := same g.device
  cases called : act g.device with
  | ok b device =>
    rw [after_of_ok called] at loaded
    rw [after_of_ok (onDevice_ok called)]
    exact playable.of_same rfl rfl rfl loaded
  | error f device =>
    rw [after_of_error called] at loaded
    rw [after_of_error (onDevice_error called)]
    exact playable.of_same rfl rfl rfl loaded

/-- The settings do not touch what is loaded. -/
theorem setSettings_spares [Scalar α] (request : SettingsRequest α) :
    Moves Spares (setSettings request :
      Action α (Generator α (MemoryPulser α)) (PulserSettings α)) := by
  -- Every part asks the device and keeps what it reports.
  have kept {β : Type} {act : Action α (MemoryPulser α) β}
      (same : Moves MemoryPulser.SameLoaded act)
      (keep : β → Generator α (MemoryPulser α) → PulserSettings α) :
      Moves Spares (do
        let b ← onDevice act
        modify fun g => { g with settings := keep b g } :
        Action α (Generator α (MemoryPulser α)) Unit) :=
    Moves.bind Spares.trans (onDevice_spares same) fun b =>
      Moves.modify fun g playable => playable.of_same rfl rfl rfl rfl
  rw [setSettings_eq]
  refine Moves.get_bind fun g => ?_
  refine Moves.bind Spares.trans (Moves.lift Spares.refl _) (fun requested => ?_) g
  refine Moves.bind Spares.trans (Moves.option Spares.refl (fun _ =>
    kept (MemoryPulser.setActiveChannels_loaded _) _) _) fun _ => ?_
  refine Moves.bind Spares.trans (Moves.option Spares.refl (fun _ =>
    kept (MemoryPulser.setRate_loaded _) _) _) fun _ => ?_
  refine Moves.bind Spares.trans (Moves.option Spares.refl (fun _ =>
    kept (MemoryPulser.setAmplitudes_loaded _) _) _) fun _ => ?_
  exact Spares.refl

end Settings

section Operations

variable [Analytic α] {g : Generator α (MemoryPulser α)}

/-- A compiled ensemble has a record exactly if compiling it succeeded. -/
theorem sampleEnsemble_recorded_iff (orderly : g.Orderly) {name : String} {e : Ensemble α}
    (found : g.ensembles.get? name = some e) :
    (∃ r, ((sampleEnsemble name).after g).record? ⟨name, .ensemble⟩ = some r) ↔
      ¬ ∃ f g', sampleEnsemble name g = .error f g' := by
  rcases sampleEnsemble_cases orderly name with
    ⟨unknown, -⟩ | ⟨_, _, _, -, -, ⟨f, failed⟩ | ⟨r, ok⟩⟩
  · rw [found] at unknown
    cases unknown
  · have bare := (sampleEnsemble_failed orderly found failed).1
    rw [after_of_error failed, record?, bare, failed]
    simp [Ensemble.forget]
  · rw [after_of_ok ok, record?, Roster.get?_insert_self, ok]
    exact iff_of_true ⟨r, rfl⟩ (by simp)

/-- An ensemble that a compiled sequence plays has a record exactly if compiling it succeeded and a
waveform of a step has the name of the ensemble. -/
theorem sampleSequence_recorded_iff (orderly : g.Orderly) {name : String} {s : Sequence α}
    (found : g.sequences.get? name = some s) {n : String} {e : Ensemble α}
    (listed : g.ensembles.get? n = some e) (used : s.uses n = true) :
    (∃ r, ((sampleSequence name).after g).record? ⟨n, .ensemble⟩ = some r) ↔
      (¬ ∃ f g', sampleSequence name g = .error f g') ∧
        Compiler.StepWaveform s g.ensembles n := by
  cases done : sampleSequence name g with
  | error f behind =>
    have bare := (sampleSequence_failed orderly found done).2
    rw [after_of_error done, record?]
    refine iff_of_false ?_ fun succeeds => succeeds.1 ⟨f, behind, rfl⟩
    rintro ⟨r, carried⟩
    obtain ⟨own, there, carries⟩ := Option.bind_eq_some_iff.mp carried
    cases (bare n own there used).symm.trans carries
  | ok r behind =>
    obtain ⟨cleared, forgets, -, ran⟩ := sampleSequence_finish orderly found
    have dropped : cleared.ensembles.get? n = some e.forget :=
      (forgets.dropped_ensemble n used).trans (by rw [listed]; rfl)
    rw [after_of_ok done, finishSequence_recorded_iff (forgets.store.trans orderly.store)
      (ran.symm.trans done) dropped rfl, forgets.stepWaveform_iff]
    simp

theorem Playable.sampleEnsemble_iff (playable : g.Playable) (orderly : g.Orderly) (name : String) :
    ((Operation.sampleEnsemble name).after g).Playable ↔
      ∀ a, g.loaded = some a → ¬ (Operation.sampleEnsemble name).Strands g a := by
  have discard : (Operation.sampleEnsemble name).after g = (sampleEnsemble name).after g :=
    Action.after_discard _ g
  cases found : g.ensembles.get? name with
  | none =>
    rcases sampleEnsemble_cases orderly name with ⟨-, f, failed⟩ | ⟨e, _, _, known, -⟩
    · have same : (Operation.sampleEnsemble name).after g = g :=
        discard.trans (after_of_error failed)
      refine iff_of_true (by rw [same]; exact playable) fun a marked => ?_
      obtain ⟨⟨r, carried⟩, held⟩ := playable a marked
      rintro (⟨rfl, -⟩ | ⟨-, lost⟩)
      · rw [record?, found] at carried
        cases carried
      · rw [same] at lost
        exact ((MemoryPulser.Follows.refl g.device).loaded_iff held).mp held lost
    · rw [found] at known
      cases known
  | some e =>
    obtain ⟨cleared, strikes, ran⟩ := sampleEnsemble_finish orderly found
    have same : (Operation.sampleEnsemble name).after g =
        (finishEnsemble name e cleared.compiler cleared.blocks).after cleared := by
      rw [discard, after, after, Action.run, Action.run, ran]
    have hands := finishEnsemble_hands name e cleared.compiler cleared.blocks cleared
    have follows := finishEnsemble_follows name e cleared.compiler cleared.blocks cleared
    rw [← same] at hands follows
    rw [DeviceFollows, strikes.device] at follows
    rw [playable.of_hands strikes.sheds hands]
    refine forall_congr' fun a => forall_congr' fun marked => ?_
    -- Of what is lost, only the compiled ensemble is not unloaded.
    have users : Among (fun _ => False) (g.UsedByAny (· = name)) a ↔
        Among (fun _ => False) (g.UsedBy name) a := by
      obtain ⟨n, kind⟩ := a
      cases kind <;> simp [Among, UsedByAny]
    have own : Among (· = name) (g.UsedByAny (· = name)) a ↔
        a = ⟨name, .ensemble⟩ ∨ Among (fun _ => False) (g.UsedBy name) a := by
      obtain ⟨n, kind⟩ := a
      cases kind <;> simp [Among, UsedByAny]
    have recorded := sampleEnsemble_recorded_iff orderly found
    rw [← discard] at recorded
    rw [users, own, Operation.Strands, follows.loaded_iff (playable a marked).2]
    by_cases target : a = ⟨name, .ensemble⟩
    · subst target
      rw [recorded]
      have apart : ¬ Among (fun _ => False) (g.UsedBy name) (⟨name, .ensemble⟩ : LoadedAsset) := id
      simp [apart]
    · grind

theorem Playable.sampleSequence_iff (playable : g.Playable) (orderly : g.Orderly) (name : String) :
    ((Operation.sampleSequence name).after g).Playable ↔
      ∀ a, g.loaded = some a → ¬ (Operation.sampleSequence name).Strands g a := by
  have discard : (Operation.sampleSequence name).after g = (sampleSequence name).after g :=
    Action.after_discard _ g
  cases found : g.sequences.get? name with
  | none =>
    rcases sampleSequence_cases orderly name with ⟨-, f, failed⟩ | ⟨s, _, _, known, -⟩
    · have same : (Operation.sampleSequence name).after g = g :=
        discard.trans (after_of_error failed)
      refine iff_of_true (by rw [same]; exact playable) fun a marked => ?_
      obtain ⟨-, held⟩ := playable a marked
      rintro ⟨-, lost | ⟨s, known, -⟩⟩
      · rw [same] at lost
        exact ((MemoryPulser.Follows.refl g.device).loaded_iff held).mp held lost
      · rw [found] at known
        cases known
    · rw [found] at known
      cases known
  | some s =>
    obtain ⟨cleared, forgets, mark, ran⟩ := sampleSequence_finish orderly found
    have same : (Operation.sampleSequence name).after g = (finishSequence name s
        cleared.compiler cleared.ensembles cleared.blocks).after cleared := by
      rw [discard, after, after, Action.run, Action.run, ran]
    have hands :=
      finishSequence_hands name s cleared.compiler cleared.ensembles cleared.blocks cleared
    have follows :=
      finishSequence_follows name s cleared.compiler cleared.ensembles cleared.blocks cleared
    rw [← same] at hands follows
    rw [DeviceFollows, forgets.device] at follows
    rw [playable.of_hands (forgets.sheds mark) hands]
    refine forall_congr' fun a => forall_congr' fun marked => ?_
    obtain ⟨⟨r, carried⟩, held⟩ := playable a marked
    rw [Operation.Strands, follows.loaded_iff held]
    -- Of what is lost, only the ensembles are not unloaded.
    obtain ⟨n, kind⟩ := a
    cases kind with
    | ensemble =>
      obtain ⟨e, listed, -⟩ := Option.bind_eq_some_iff.mp carried
      have recorded := sampleSequence_recorded_iff (n := n) orderly found listed
      rw [← discard] at recorded
      simp only [Among, found, Option.some.injEq, exists_eq_left']
      grind
    | sequence =>
      simp only [Among, LoadedAsset.mk.injEq]
      grind

/-- Exactly the operations that strand what is loaded leave a mark on something that can not be
played. -/
theorem Playable.after_iff (op : Operation α) (orderly : g.Orderly) (playable : g.Playable) :
    (op.after g).Playable ↔ ∀ a, g.loaded = some a → ¬ op.Strands g a := by
  -- Where nothing can be stranded, nothing is.
  have spared (kept : (op.after g).Playable) (never : ∀ a, ¬ op.Strands g a) :
      (op.after g).Playable ↔ ∀ a, g.loaded = some a → ¬ op.Strands g a :=
    iff_of_true kept fun a _ => never a
  have saving (saves : op.Saves) : (op.after g).Playable ↔ ∀ a, g.loaded = some a →
      ¬ Among ((op.saved g).Hits g) (fun n => ¬ g.UsedByAny ((op.saved g).Hits g) n ∧
        ∃ s ∈ (op.saved g).sequences, n = s.name) a := by
    obtain ⟨sheds, device⟩ := op.saves_sheds saves orderly
    rw [playable.of_sheds sheds]
    refine forall_congr' fun a => forall_congr' fun marked => not_congr ?_
    rw [device, (playable a marked).2]
    obtain ⟨n, kind⟩ := a
    cases kind <;> simp [Among]
    grind
  cases op with
  | saveBlock b => exact saving trivial
  | saveEnsemble e => exact saving trivial
  | saveSequence s => exact saving trivial
  | generate recipe name params => exact saving trivial
  | deleteBlock name => exact spared (playable.deleteBlock_after orderly name) fun _ => id
  | setSettings request =>
    refine spared ?_ fun _ => id
    rw [show (Operation.setSettings request).after g = (setSettings request).after g from
      Action.after_discard _ g]
    exact setSettings_spares request g playable
  | setGeneration generation => exact spared (playable.of_same rfl rfl rfl rfl) fun _ => id
  | setOutput on =>
    refine spared ?_ fun _ => id
    rw [show (Operation.setOutput on).after g = (setOutput on).after g from
      Action.after_discard _ g]
    exact onDevice_spares (MemoryPulser.setOutput_loaded on) g playable
  | loadEnsemble name =>
    refine spared ?_ fun _ => id
    rw [show (Operation.loadEnsemble name).after g = (loadEnsemble name).after g from
      Action.after_discard _ g]
    exact playable.loadEnsemble_after name
  | loadSequence name =>
    refine spared ?_ fun _ => id
    rw [show (Operation.loadSequence name).after g = (loadSequence name).after g from
      Action.after_discard _ g]
    exact playable.loadSequence_after name
  | clear =>
    refine spared (fun a marked => ?_) fun _ => id
    rw [show (Operation.clear : Operation α).after g = (clear : Action α _ Unit).after g from rfl,
      clear_unmarked orderly] at marked
    cases marked
  | sampleEnsemble name => exact playable.sampleEnsemble_iff orderly name
  | sampleSequence name => exact playable.sampleSequence_iff orderly name
  | deleteWaveform name =>
    obtain ⟨deleted, g', done, sheds, -, -, loaded⟩ := deleteWaveform_sheds orderly name
    have ran : (Operation.deleteWaveform name).after g = g' :=
      (Action.after_discard _ g).trans (after_of_ok done)
    rw [ran, playable.of_sheds sheds]
    refine forall_congr' fun a => forall_congr' fun marked => not_congr ?_
    rw [ne_eq, loaded, (playable a marked).2, Operation.Strands]
    grind
  | deleteProgram name =>
    obtain ⟨deleted, g', done, sheds, -, loaded⟩ := deleteProgram_sheds orderly name
    have ran : (Operation.deleteProgram name).after g = g' :=
      (Action.after_discard _ g).trans (after_of_ok done)
    rw [ran, playable.of_sheds sheds]
    refine forall_congr' fun a => forall_congr' fun marked => not_congr ?_
    rw [ne_eq, loaded, (playable a marked).2, Operation.Strands]
    obtain ⟨n, kind⟩ := a
    grind
  | deleteEnsemble name =>
    obtain ⟨sheds, loaded⟩ := deleteEnsemble_sheds orderly name
    change ((deleteEnsemble name).after g).Playable ↔ _
    rw [playable.of_sheds sheds]
    refine forall_congr' fun a => forall_congr' fun marked => not_congr ?_
    rw [ne_eq, loaded, (playable a marked).2, Operation.Strands]
    grind
  | deleteSequence name =>
    obtain ⟨sheds, loaded⟩ := deleteSequence_sheds orderly name
    change ((deleteSequence name).after g).Playable ↔ _
    rw [playable.of_sheds sheds]
    refine forall_congr' fun a => forall_congr' fun marked => not_congr ?_
    obtain ⟨⟨r, carried⟩, held⟩ := playable a marked
    rw [ne_eq, loaded, held, Operation.Strands]
    obtain ⟨n, kind⟩ := a
    grind

end Operations

/-! ## 4. Runs -/

section Runs

variable [Analytic α] {g : Generator α (MemoryPulser α)}

/-- Which runs keep the loaded asset playable. From the start of a generator without storage, what
is marked as loaded has a record and is loaded on the device throughout a run exactly if no
operation of the run strands what is loaded when it comes. -/
theorem loaded_playable_iff {options : GeneratorOptions α} {device : MemoryPulser α}
    (memory : options.store = none) (started : start options device = .ok g)
    (ops : List (Operation α)) :
    (∀ k, (afterAll (ops.take k) g).Playable) ↔
      ∀ (k : Nat) (op : Operation α), ops[k]? = some op →
        ∀ a, (afterAll (ops.take k) g).loaded = some a →
          ¬ op.Strands (afterAll (ops.take k) g) a := by
  have playable : g.Playable := fun a marked => by
    rw [start_unmarked started] at marked
    cases marked
  exact throughout_iff_of (fun op g orderly => op.tidy g orderly)
    (fun op _ orderly playable => playable.after_iff op orderly) (start_orderly memory started)
    playable ops

instance (g : Generator α (MemoryPulser α)) : Decidable g.Playable :=
  decidable_of_iff (∀ a ∈ g.loaded, (g.record? a).isSome = true ∧
    g.device.loaded = some a.name) (by simp [Playable, Option.isSome_iff_exists])

/-! An ensemble is loaded, and its waveform is deleted; a sequence is loaded, and a new version of
its block is saved. Both times the mark goes with the record. -/

/-- The assets are loaded and lost one after the other. -/
def loadedAndLost : List (Operation ℚ) :=
  shared ++ [.sampleEnsemble "pulse", .loadEnsemble "pulse", .deleteWaveform "pulse",
    .sampleSequence "first", .loadSequence "first", .saveBlock (level "flat" (1 / 4))]

/-- Nothing is stranded. -/
theorem loaded_playable_of_loaded_and_lost :
    (GeneratorOptions.default : GeneratorOptions ℚ).store = none ∧
    ∃ g, start .default (MemoryPulser.fresh benchLimits) = .ok g ∧
      (∀ k, (afterAll (loadedAndLost.take k) g).Playable) ∧
      (∀ (k : Nat) (op : Operation ℚ), loadedAndLost[k]? = some op →
        ∀ a, (afterAll (loadedAndLost.take k) g).loaded = some a →
          ¬ op.Strands (afterAll (loadedAndLost.take k) g) a) ∧
      (afterAll (loadedAndLost.take 6) g).loaded = some ⟨"pulse", .ensemble⟩ ∧
      (afterAll (loadedAndLost.take 9) g).loaded = some ⟨"first", .sequence⟩ := by
  have memory : (GeneratorOptions.default : GeneratorOptions ℚ).store = none := rfl
  refine ⟨memory, ?_⟩
  have ran : (match start .default (MemoryPulser.fresh benchLimits) with
    | .ok g =>
      (List.range 11).all (fun k => decide (afterAll (loadedAndLost.take k) g).Playable) &&
        decide ((afterAll (loadedAndLost.take 6) g).loaded = some ⟨"pulse", .ensemble⟩ ∧
          (afterAll (loadedAndLost.take 9) g).loaded = some ⟨"first", .sequence⟩)
    | .error _ => false) = true := by decide +kernel
  cases started : start .default (MemoryPulser.fresh benchLimits) with
  | error f => rw [started] at ran; cases ran
  | ok g =>
    rw [started] at ran
    obtain ⟨each, marks⟩ := Bool.and_eq_true_iff.mp ran
    have playable (k : Nat) : (afterAll (loadedAndLost.take k) g).Playable := by
      by_cases behind : k < 11
      · exact of_decide_eq_true (List.all_eq_true.mp each k (List.mem_range.mpr behind))
      · have all : loadedAndLost.take k = loadedAndLost.take 10 := by
          rw [List.take_of_length_le (by simp [loadedAndLost, shared]; omega),
            List.take_of_length_le (by simp [loadedAndLost, shared])]
        rw [all]
        exact of_decide_eq_true (List.all_eq_true.mp each 10 (List.mem_range.mpr (by decide)))
    exact ⟨g, rfl, playable, (loaded_playable_iff memory started loadedAndLost).mp playable,
      of_decide_eq_true marks⟩

/-- The loaded ensemble is saved once more, unchanged. It is still marked as loaded, although it has
no record any more. -/
theorem not_playable_of_saved_again :
    (GeneratorOptions.default : GeneratorOptions ℚ).store = none ∧
    ∃ g, start .default (MemoryPulser.fresh benchLimits) = .ok g ∧
      ¬ (afterAll (shared ++ [.sampleEnsemble "pulse", .loadEnsemble "pulse",
        .saveEnsemble (playing "pulse" "flat")]) g).Playable := by
  refine ⟨rfl, ?_⟩
  have ran : (match start .default (MemoryPulser.fresh benchLimits) with
    | .ok g => decide (afterAll (shared ++ [.sampleEnsemble "pulse", .loadEnsemble "pulse",
        .saveEnsemble (playing "pulse" "flat")]) g).Playable
    | .error _ => true) = false := by decide +kernel
  cases started : start .default (MemoryPulser.fresh benchLimits) with
  | error f => rw [started] at ran; cases ran
  | ok g =>
    rw [started] at ran
    exact ⟨g, rfl, of_decide_eq_false ran⟩

end Runs

end PulseBench.Generator
