import PulseBench.Proofs.Generator.Operation

/-!
# Operations that do not compile

Saving, deleting, loading and switching never put a record at risk: whatever
they change on the device or among the objects, the records that depend on it
are dropped. Each operation is `Harmless`, whether it succeeds or fails.

Results:
1. `onDevice_harmless`: calls that leave waveforms and programs alone.
2. `saveBlock_harmless`, `saveEnsemble_harmless`, `saveSequence_harmless`: a new
   version of an object.
3. `deleteWaveform_harmless`, `deleteProgram_harmless`, `clear_harmless`: less on
   the device.
4. `harmless_parts`, `Operation.harmless`: all of them together.
-/

namespace PulseBench.Generator

variable {α : Type}

open PulseBench.Action (Moves after after_of_ok after_of_error)
open MemoryPulser (SameAssets Frame)

/-! ## 1. Settings and calls of the device -/

/-- What records speak of is the same. -/
theorem Harmless.of_same {a b : Generator α (MemoryPulser α)}
    (assets : SameAssets a.device b.device)
    (rest : b = { a with
      device := b.device
      settings := b.settings
      generation := b.generation
      recipes := b.recipes
      loaded := b.loaded }) : Harmless a b := by
  have functions : b.functions = a.functions := by rw [rest]
  have limits : b.limits = a.limits := by rw [rest]
  have store : b.store = a.store := by rw [rest]
  have blocks : b.blocks = a.blocks := by rw [rest]
  have ensembles : b.ensembles = a.ensembles := by rw [rest]
  have sequences : b.sequences = a.sequences := by rw [rest]
  intro memory
  constructor
  · constructor
    · exact store.trans memory.store
    · exact assets.refuseAfter.trans memory.accepting
    · exact limits ▸ memory.least
    · exact ensembles ▸ memory.ensemble_named
    · exact sequences ▸ memory.sequence_named
    · exact ensembles ▸ memory.ensemble_waveform
  · constructor
    · exact functions
    · exact limits
    · intro n e r found carried
      rw [ensembles] at found
      exact ⟨found, fun _ _ => by rw [assets.waveforms], fun _ _ => Or.inl (by rw [blocks])⟩
    · intro n s r found carried
      rw [sequences] at found
      exact ⟨found, fun _ _ => by rw [assets.waveforms], by rw [assets.programs]⟩

theorem onDevice_harmless {β : Type} {act : Action α (MemoryPulser α) β}
    (h : Moves SameAssets act) : Moves Harmless (onDevice act) := by
  intro g
  rw [onDevice_after]
  exact Harmless.of_same (h g.device) rfl

section Settings

variable [Scalar α]

theorem applyActivation_harmless (name : String) (channels : NameSet) :
    Moves Harmless (applyActivation name channels :
      Action α (Generator α (MemoryPulser α)) Unit) := by
  refine Moves.bind Harmless.trans
    (onDevice_harmless (MemoryPulser.setActiveChannels_same channels)) fun active => ?_
  exact Moves.modify fun g => Harmless.of_same (SameAssets.refl _) rfl

theorem applyRate_harmless (rate : α) :
    Moves Harmless (applyRate rate : Action α (Generator α (MemoryPulser α)) Unit) := by
  refine Moves.bind Harmless.trans
    (onDevice_harmless (MemoryPulser.setRate_same rate)) fun applied => ?_
  exact Moves.modify fun g => Harmless.of_same (SameAssets.refl _) rfl

theorem applyAmplitudes_harmless (amplitudes : Roster α) :
    Moves Harmless (applyAmplitudes amplitudes :
      Action α (Generator α (MemoryPulser α)) Unit) := by
  refine Moves.bind Harmless.trans
    (onDevice_harmless (MemoryPulser.setAmplitudes_same amplitudes)) fun applied => ?_
  exact Moves.modify fun g => Harmless.of_same (SameAssets.refl _) rfl

theorem loadAsset_harmless (asset : LoadedAsset) :
    Moves Harmless (loadAsset asset : Action α (Generator α (MemoryPulser α)) LoadedAsset) := by
  refine Moves.bind Harmless.trans (onDevice_harmless (MemoryPulser.upload_same _)) fun _ => ?_
  refine Moves.bind Harmless.trans (onDevice_harmless (MemoryPulser.load_same _)) fun _ => ?_
  refine Moves.bind Harmless.trans (Moves.modify fun g => ?_) fun _ => Harmless.refl
  exact Harmless.of_same (SameAssets.refl _) rfl

end Settings

/-! ## 2. New versions of objects -/

section Objects

/-- An ensemble without a record takes no risk. -/
theorem insertEnsemble_harmless (g : Generator α (MemoryPulser α)) {e : Ensemble α}
    (fresh : e.record = none) :
    Harmless g { g with ensembles := g.ensembles.insert e.name e } := by
  have listed : ∀ {n : String} {own : Ensemble α},
      (g.ensembles.insert e.name e).get? n = some own →
      (n = e.name ∧ own = e) ∨ g.ensembles.get? n = some own := by
    intro n own found
    rw [Roster.get?_insert] at found
    split at found
    · cases found
      exact Or.inl ⟨‹_›, rfl⟩
    · exact Or.inr found
  have sampled : ∀ {n : String} {own : Ensemble α} {r : Record α},
      (g.ensembles.insert e.name e).get? n = some own → own.record = some r →
      g.ensembles.get? n = some own := by
    intro n own r found carried
    rcases listed found with ⟨-, rfl⟩ | old
    · rw [fresh] at carried
      cases carried
    · exact old
  refine fun memory => ⟨⟨memory.store, memory.accepting, memory.least, fun n own found => ?_,
    memory.sequence_named, fun n own r found carried => ?_⟩, ⟨rfl, rfl, fun n own r found carried =>
      ⟨sampled found carried, fun _ _ => rfl, fun _ _ => Or.inl rfl⟩,
      fun n s r found _ => ⟨found, fun _ _ => rfl, rfl⟩⟩⟩
  · rcases listed found with ⟨rfl, rfl⟩ | old
    · rfl
    · exact memory.ensemble_named n own old
  · exact memory.ensemble_waveform n own r (sampled found carried) carried

/-- Neither does a sequence without a record. -/
theorem insertSequence_harmless (g : Generator α (MemoryPulser α)) {s : Sequence α}
    (fresh : s.record = none) :
    Harmless g { g with sequences := g.sequences.insert s.name s } := by
  refine fun memory => ⟨⟨memory.store, memory.accepting, memory.least, memory.ensemble_named,
    fun n own found => ?_, memory.ensemble_waveform⟩, ⟨rfl, rfl,
      fun n e r found _ => ⟨found, fun _ _ => rfl, fun _ _ => Or.inl rfl⟩,
      fun n own r found carried => ⟨?_, fun _ _ => rfl, rfl⟩⟩⟩
  · rw [Roster.get?_insert] at found
    split at found
    · cases found
      exact Eq.symm ‹_›
    · exact memory.sequence_named n own found
  · rw [Roster.get?_insert] at found
    split at found
    · cases found
      rw [fresh] at carried
      cases carried
    · exact found

theorem eraseEnsemble_harmless (g : Generator α (MemoryPulser α)) (name : String) :
    Harmless g { g with ensembles := g.ensembles.erase name } := by
  have listed : ∀ {n : String} {own : Ensemble α}, (g.ensembles.erase name).get? n = some own →
      g.ensembles.get? n = some own := by
    intro n own found
    rw [Roster.get?_erase] at found
    split at found
    · cases found
    · exact found
  exact fun memory => ⟨⟨memory.store, memory.accepting, memory.least,
    fun n own found => memory.ensemble_named n own (listed found), memory.sequence_named,
    fun n own r found => memory.ensemble_waveform n own r (listed found)⟩, ⟨rfl, rfl,
      fun n own r found _ => ⟨listed found, fun _ _ => rfl, fun _ _ => Or.inl rfl⟩,
      fun n s r found _ => ⟨found, fun _ _ => rfl, rfl⟩⟩⟩

theorem eraseSequence_harmless (g : Generator α (MemoryPulser α)) (name : String) :
    Harmless g { g with sequences := g.sequences.erase name } := by
  have listed : ∀ {n : String} {own : Sequence α}, (g.sequences.erase name).get? n = some own →
      g.sequences.get? n = some own := by
    intro n own found
    rw [Roster.get?_erase] at found
    split at found
    · cases found
    · exact found
  exact fun memory => ⟨⟨memory.store, memory.accepting, memory.least, memory.ensemble_named,
    fun n own found => memory.sequence_named n own (listed found), memory.ensemble_waveform⟩,
    ⟨rfl, rfl, fun n e r found _ => ⟨found, fun _ _ => rfl, fun _ _ => Or.inl rfl⟩,
      fun n own r found _ => ⟨listed found, fun _ _ => rfl, rfl⟩⟩⟩

/-- A block that is gone leaves its ensembles sampled, but no longer all of their blocks known. -/
theorem eraseBlock_harmless (g : Generator α (MemoryPulser α)) (name : String) :
    Harmless g { g with blocks := g.blocks.erase name } := by
  refine fun memory => ⟨⟨memory.store, memory.accepting, memory.least, memory.ensemble_named,
    memory.sequence_named, memory.ensemble_waveform⟩, ⟨rfl, rfl,
      fun n e r found _ => ⟨found, fun _ _ => rfl, fun play _ => ?_⟩,
      fun n s r found _ => ⟨found, fun _ _ => rfl, rfl⟩⟩⟩
  by_cases gone : play.1 = name
  · exact Or.inr ((Roster.get?_erase _ _ _).trans (if_pos gone))
  · exact Or.inl ((Roster.get?_erase _ _ _).trans (if_neg gone))

variable [Scalar α]

/-- A new block is a danger to the ensembles that play it, and these lose their records. -/
theorem saveBlock_harmless (b : Block α) :
    Moves Harmless (saveBlock b : Action α (Generator α (MemoryPulser α)) Unit) := by
  intro g memory
  cases named : (checkName .block b.name : Except (Failure α) Unit) with
  | error f =>
    have refused : saveBlock b g = .error f g := by
      unfold saveBlock
      rw [named]
      exact Action.bind_of_error (Action.lift_error f g)
    rw [after_of_error refused]
    exact Harmless.refl g memory
  | ok _ =>
    have saved : ({ g with blocks := g.blocks.insert b.name b } :
        Generator α (MemoryPulser α)).InMemory :=
      ⟨memory.store, memory.accepting, memory.least, memory.ensemble_named,
        memory.sequence_named, memory.ensemble_waveform⟩
    obtain ⟨g', cleared, forgets⟩ := forM_invalidateEnsemble_ok saved.store saved.sequence_named
      (g.ensemblesWhere (·.uses b.name))
    have ran : saveBlock b g = .ok ⟨⟩ g' := by
      unfold saveBlock
      rw [named, Action.bind_of_ok (Action.lift_ok _ g),
        Action.bind_of_ok (persist_ok memory.store b)]
      exact cleared
    rw [after_of_ok ran]
    refine ⟨saved.forgets forgets, ⟨forgets.functions, forgets.limits, fun n e r found carried => ?_,
      (Keeps.of_forgets forgets).sequence⟩⟩
    obtain ⟨spared, listed⟩ := forgets.ensemble_of_record found carried
    refine ⟨listed, fun _ _ => by rw [forgets.device], fun play member => Or.inl ?_⟩
    rw [forgets.blocks]
    refine Roster.get?_insert_of_ne _ _ fun same => ?_
    have uses : e.uses b.name = true := List.any_eq_true.mpr ⟨play, member, by simp [same]⟩
    exact spared ((mem_ensemblesWhere_iff memory.ensemble_named _ n).mpr ⟨e, listed, uses⟩)

theorem saveEnsemble_harmless (e : Ensemble α) :
    Moves Harmless (saveEnsemble e : Action α (Generator α (MemoryPulser α)) Unit) := by
  intro g memory
  cases named : (checkName .ensemble e.name : Except (Failure α) Unit) with
  | error f =>
    have refused : saveEnsemble e g = .error f g := by
      unfold saveEnsemble
      rw [named]
      exact Action.bind_of_error (Action.lift_error f g)
    rw [after_of_error refused]
    exact Harmless.refl g memory
  | ok _ =>
    have inserted := insertEnsemble_harmless g (e := e.forget) rfl
    have saved := (inserted memory).1
    obtain ⟨g', cleared, forgets⟩ := invalidateUsers_ok saved.store saved.sequence_named e.name
    have ran : saveEnsemble e g = .ok ⟨⟩ g' := by
      unfold saveEnsemble
      rw [named, Action.bind_of_ok (Action.lift_ok _ g),
        Action.bind_of_ok (persist_ok memory.store _)]
      exact cleared
    rw [after_of_ok ran]
    exact Harmless.trans _ _ _ inserted (Harmless.of_forgets forgets) memory

theorem saveSequence_harmless (s : Sequence α) :
    Moves Harmless (saveSequence s : Action α (Generator α (MemoryPulser α)) Unit) := by
  intro g memory
  cases named : (checkName .sequence s.name : Except (Failure α) Unit) with
  | error f =>
    have refused : saveSequence s g = .error f g := by
      unfold saveSequence
      rw [named]
      exact Action.bind_of_error (Action.lift_error f g)
    rw [after_of_error refused]
    exact Harmless.refl g memory
  | ok _ =>
    have ran : saveSequence s g =
        .ok ⟨⟩ { g with sequences := g.sequences.insert s.name s.forget } := by
      unfold saveSequence
      rw [named, Action.bind_of_ok (Action.lift_ok _ g),
        Action.bind_of_ok (persist_ok memory.store _)]
      rfl
    rw [after_of_ok ran]
    exact insertSequence_harmless g (s := s.forget) rfl memory

omit [Scalar α] in
theorem onRecipes_harmless {β : Type} (act : Action α (Selection α (RecipeRule α)) β) :
    Moves Harmless (onRecipes act : Action α (Generator α (MemoryPulser α)) β) := by
  intro g
  obtain ⟨recipes, same⟩ := onRecipes_after act g
  rw [same]
  exact Harmless.of_same (SameAssets.refl _) rfl

end Objects

/-! ## 3. Deleting -/

section Deleting

theorem mentions_of_mem {r : Record α} {w : String} {test : String → Bool}
    (named : w ∈ r.waveforms) (passes : test w = true) : mentions (some r) test = true :=
  List.any_eq_true.mpr ⟨w, named, passes⟩

variable [Scalar α]

/-- A deleted waveform takes all records along that name it. -/
theorem forM_clearAndUnload_ok {δ : Type} {g : Generator α δ} (memory : g.store = none)
    (names : List String) :
    ∃ g', (names.forM fun ensemble => do
        clearEnsembleRecord ensemble
        modify (unload ⟨ensemble, .ensemble⟩)) g = .ok ⟨⟩ g' ∧
      Forgets (· ∈ names) (fun _ => False) g g' := by
  have each : ∀ name ∈ names, ∀ g : Generator α δ, g.store = none → ∃ g',
      (do
        clearEnsembleRecord name
        modify (unload ⟨name, .ensemble⟩) : Action α (Generator α δ) PUnit) g = .ok ⟨⟩ g' ∧
      Forgets (· = name) (fun _ => False) g g' := by
    intro name _ g memory
    obtain ⟨g', done, forgets⟩ := clearEnsembleRecord_ok (g := g) memory name
    exact ⟨_, Action.bind_of_ok done, (forgets.trans (forgets_unload _ g')).congr
      (fun n => by simp) fun n => by simp⟩
  obtain ⟨g', cleared, forgets⟩ := forM_forgets names each memory
  exact ⟨g', cleared, forgets.congr (fun n => by simp) fun n => by simp⟩

theorem deleteWaveform_harmless (name : String) :
    Moves Harmless
      (deleteWaveform name : Action α (Generator α (MemoryPulser α)) (List String)) := by
  intro g memory
  obtain ⟨device, called, gone, frame⟩ := MemoryPulser.deleteWaveform_ok g.device name
  obtain ⟨deleted, known⟩ : ∃ deleted : List String,
      deleted = if g.device.waveforms.contains name then [name] else [] := ⟨_, rfl⟩
  rw [← known] at called
  have call : (Pulser.deleteWaveform name : Action α (MemoryPulser α) (List String)) g.device =
      .ok deleted device := called
  have middle : ({ g with device } : Generator α (MemoryPulser α)).InMemory :=
    ⟨memory.store, memory.accepting.frame frame, memory.least, memory.ensemble_named,
      memory.sequence_named, memory.ensemble_waveform⟩
  obtain ⟨cleared, ensembles, first⟩ := forM_clearAndUnload_ok middle.store
    (g.ensemblesWhere fun e => mentions e.record deleted.contains)
  obtain ⟨g', sequences, second⟩ := forM_clearSequenceRecord_ok (first.store.trans middle.store)
    (g.sequencesWhere fun s => mentions s.record deleted.contains)
  have ran : deleteWaveform name g = .ok deleted g' := by
    unfold deleteWaveform
    rw [Action.bind_of_ok (onDevice_ok call), Action.bind_of_ok (Action.get_apply _)]
    exact (Action.bind_of_ok ensembles).trans (Action.bind_of_ok sequences)
  have forgets := first.trans second
  rw [after_of_ok ran]
  -- A waveform of a record that was spared is not the deleted one, if there was one at all.
  have same : ∀ {r : Record α}, mentions (some r) deleted.contains ≠ true → ∀ w ∈ r.waveforms,
      g'.device.waveforms.get? w = g.device.waveforms.get? w := by
    intro r spared w named
    rw [forgets.device]
    by_cases target : w = name
    · subst target
      by_cases there : g.device.waveforms.contains w = true
      · rw [if_pos there] at known
        exact absurd (mentions_of_mem named (by simp [known])) spared
      · exact gone.trans (Roster.contains_eq_false_iff.mp (by simpa using there)).symm
    · exact frame.waveforms w target
  refine ⟨middle.forgets forgets, ⟨forgets.functions, forgets.limits, fun n e r found carried => ?_,
    fun n s r found carried => ?_⟩⟩
  · obtain ⟨spared, listed⟩ := forgets.ensemble_of_record found carried
    refine ⟨listed, same fun mentioned => spared (Or.inl ?_), fun _ _ => Or.inl ?_⟩
    · exact (mem_ensemblesWhere_iff memory.ensemble_named _ n).mpr
        ⟨e, listed, by rw [carried]; exact mentioned⟩
    · rw [forgets.blocks]
  · obtain ⟨spared, listed⟩ := forgets.sequence_of_record found carried
    refine ⟨listed, same fun mentioned => spared (Or.inr ?_), ?_⟩
    · exact (mem_sequencesWhere_iff memory.sequence_named _ n).mpr
        ⟨s, listed, by rw [carried]; exact mentioned⟩
    · rw [forgets.device]
      exact congrArg (·.get? n) frame.programs

/-- A deleted program takes the record of its sequence along. -/
theorem deleteProgram_harmless (name : String) :
    Moves Harmless
      (deleteProgram name : Action α (Generator α (MemoryPulser α)) (List String)) := by
  intro g memory
  obtain ⟨device, called, limits, refuseAfter, waveforms, programs⟩ :=
    MemoryPulser.deleteSequence_ok g.device name
  obtain ⟨deleted, known⟩ : ∃ deleted : List String,
      deleted = if g.device.programs.contains name then [name] else [] := ⟨_, rfl⟩
  rw [← known] at called
  have call : (Pulser.deleteSequence name : Action α (MemoryPulser α) (List String)) g.device =
      .ok deleted device := called
  have middle : ({ g with device } : Generator α (MemoryPulser α)).InMemory :=
    ⟨memory.store, refuseAfter.trans memory.accepting, memory.least, memory.ensemble_named,
      memory.sequence_named, memory.ensemble_waveform⟩
  obtain ⟨g', cleared, forgets⟩ := forM_clearSequenceRecord_ok middle.store deleted
  have ran : deleteProgram name g = .ok deleted g' := by
    unfold deleteProgram
    rw [Action.bind_of_ok (onDevice_ok call)]
    exact Action.bind_of_ok cleared
  rw [after_of_ok ran]
  refine ⟨middle.forgets forgets, ⟨forgets.functions, forgets.limits, fun n e r found carried => ?_,
    fun n s r found carried => ?_⟩⟩
  · obtain ⟨-, listed⟩ := forgets.ensemble_of_record found carried
    refine ⟨listed, fun w _ => ?_, fun _ _ => Or.inl (by rw [forgets.blocks])⟩
    rw [forgets.device]
    exact congrArg (·.get? w) waveforms
  · obtain ⟨spared, listed⟩ := forgets.sequence_of_record found carried
    refine ⟨listed, fun w _ => ?_, ?_⟩
    · rw [forgets.device]
      exact congrArg (·.get? w) waveforms
    · rw [forgets.device]
      refine (congrArg (·.get? n) programs).trans ((Roster.get?_erase _ _ _).trans ?_)
      -- A sequence that kept its record had no program under the deleted name.
      by_cases target : n = name
      · subst target
        rw [if_pos rfl]
        by_cases there : g.device.programs.contains n = true
        · rw [if_pos there] at known
          exact absurd (by simp [known]) spared
        · exact (Roster.contains_eq_false_iff.mp (by simpa using there)).symm
      · rw [if_neg target]

/-- Behind a cleared device nothing is sampled. -/
theorem clear_harmless :
    Moves Harmless (clear : Action α (Generator α (MemoryPulser α)) Unit) := by
  intro g memory
  obtain ⟨device, called, kept⟩ : ∃ device, (Pulser.clear : Action α (MemoryPulser α) Unit)
      g.device = .ok ⟨⟩ device ∧ device.refuseAfter = g.device.refuseAfter := ⟨_, rfl, rfl⟩
  have start : ({ g with device } : Generator α (MemoryPulser α)).InMemory :=
    ⟨memory.store, kept.trans memory.accepting, memory.least, memory.ensemble_named,
      memory.sequence_named, memory.ensemble_waveform⟩
  obtain ⟨middle, ensembles, first⟩ := forM_clearEnsembleRecord_ok start.store g.ensembles.names
  obtain ⟨behind, sequences, second⟩ :=
    forM_clearSequenceRecord_ok (first.store.trans start.store) middle.sequences.names
  have ran : clear g = .ok ⟨⟩ { behind with loaded := none } := by
    unfold clear
    rw [Action.bind_of_ok (onDevice_ok called), Action.bind_of_ok (Action.get_apply _),
      Action.bind_of_ok ensembles, Action.bind_of_ok (Action.get_apply _)]
    exact Action.bind_of_ok sequences
  rw [after_of_ok ran]
  have forgets := first.trans second
  have unloaded : Harmless behind { behind with loaded := none } :=
    Harmless.of_same (SameAssets.refl _) rfl
  refine ⟨(unloaded (start.forgets forgets)).1, ⟨forgets.functions, forgets.limits,
    fun n e r found carried => ?_, fun n s r found carried => ?_⟩⟩
  · obtain ⟨spared, listed⟩ := forgets.ensemble_of_record found carried
    exact absurd (Or.inl (Roster.mem_names_iff.mpr ⟨e, listed⟩)) spared
  · obtain ⟨spared, listed⟩ := second.sequence_of_record found carried
    exact absurd (Roster.mem_names_iff.mpr ⟨s, listed⟩) spared

omit [Scalar α] in
theorem unpersist_harmless (kind : ObjectKind) (name : String) :
    Moves Harmless (unpersist kind name : Action α (Generator α (MemoryPulser α)) Unit) := by
  intro g memory
  rw [after_of_ok (unpersist_ok memory.store kind name)]
  exact Harmless.refl g memory

end Deleting

/-! ## 4. All of them -/

theorem harmless_parts [Scalar α] : Parts (Harmless (α := α)) where
  refl := Harmless.refl
  trans := Harmless.trans
  saveBlock := saveBlock_harmless
  saveEnsemble := saveEnsemble_harmless
  saveSequence := saveSequence_harmless
  eraseBlock name g := eraseBlock_harmless g name
  eraseEnsemble name g := eraseEnsemble_harmless g name
  eraseSequence name g := eraseSequence_harmless g name
  unpersist := unpersist_harmless
  applyActivation := applyActivation_harmless
  applyRate := applyRate_harmless
  applyAmplitudes := applyAmplitudes_harmless
  setGeneration _ _ := Harmless.of_same (SameAssets.refl _) rfl
  setOutput on := onDevice_harmless (MemoryPulser.setOutput_same on)
  setRecipe _ := onRecipes_harmless _
  loadAsset := loadAsset_harmless
  deleteWaveform := deleteWaveform_harmless
  deleteProgram := deleteProgram_harmless
  clear := clear_harmless

/-- Only compiling puts a record at risk. -/
theorem Operation.harmless [Analytic α] (op : Operation α) (compilesNot : ¬ op.Compiles)
    (g : Generator α (MemoryPulser α)) : Harmless g (op.after g) :=
  harmless_parts.operation op compilesNot g

end PulseBench.Generator
