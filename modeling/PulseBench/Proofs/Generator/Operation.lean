import PulseBench.Generator.Start
import PulseBench.Proofs.Generator.Records
import PulseBench.Proofs.Pulser.Memory

/-!
# The operations of a generator

`Operation` lists what can be asked of a generator that changes it, and
`Operation.after` is the state behind one, whether it succeeds or fails. Here
the generator keeps its objects in memory only, and its device refuses nothing:
`InMemory`.

Most operations are harmless: a record that is still there afterwards speaks of
the same object, of the same blocks, and of the same waveforms and program on
the device. `Keeps` says so.

Results:
1. `onDevice_after`, `onRecipes_after`: a call changes what it is made to, and
   nothing else.
2. `Keeps.trans`, `Harmless.trans`: what is harmless stays so one after the other.
   `InMemory.forgets`, `Keeps.of_forgets`: dropping records is harmless.
3. `Parts.operation`: operations that do not compile are made of a few parts; a
   relation that these keep is kept by all of them.
-/

namespace PulseBench.Generator

variable {α δ : Type}

open PulseBench.Action (Moves after_of_ok after_of_error)

/-! ## Operations -/

/-- What can be asked of a generator, as far as it changes something. -/
inductive Operation (α : Type) where
  | saveBlock (b : Block α)
  | saveEnsemble (e : Ensemble α)
  | saveSequence (s : Sequence α)
  | deleteBlock (name : String)
  | deleteEnsemble (name : String)
  | deleteSequence (name : String)
  | setSettings (request : SettingsRequest α)
  | setGeneration (parameters : GenerationParameters α)
  | sampleEnsemble (name : String)
  | sampleSequence (name : String)
  | loadEnsemble (name : String)
  | loadSequence (name : String)
  | deleteWaveform (name : String)
  | deleteProgram (name : String)
  | clear
  | setOutput (on : Bool)
  | generate (recipe name : String) (params : ParamSet α)

namespace Operation

variable [Analytic α] [Pulser α δ]

/-- What an operation does, leaving its answer aside. -/
def run : Operation α → Action α (Generator α δ) Unit
  | .saveBlock b => Generator.saveBlock b
  | .saveEnsemble e => Generator.saveEnsemble e
  | .saveSequence s => Generator.saveSequence s
  | .deleteBlock name => Generator.deleteBlock name
  | .deleteEnsemble name => Generator.deleteEnsemble name
  | .deleteSequence name => Generator.deleteSequence name
  | .setSettings request => do
      let _ ← Generator.setSettings request
  | .setGeneration parameters => modify fun g => { g with generation := parameters }
  | .sampleEnsemble name => do
      let _ ← Generator.sampleEnsemble name
  | .sampleSequence name => do
      let _ ← Generator.sampleSequence name
  | .loadEnsemble name => do
      let _ ← Generator.loadEnsemble name
  | .loadSequence name => do
      let _ ← Generator.loadSequence name
  | .deleteWaveform name => do
      let _ ← Generator.deleteWaveform name
  | .deleteProgram name => do
      let _ ← Generator.deleteProgram name
  | .clear => Generator.clear
  | .setOutput on => do
      let _ ← Generator.setOutput on
  | .generate recipe name params => do
      let _ ← Generator.generate recipe name params

/-- The state behind an operation, also if it fails. -/
def after (op : Operation α) (g : Generator α δ) : Generator α δ := Action.after op.run g

end Operation

/-- The state behind a list of operations. -/
def afterAll [Analytic α] [Pulser α δ] (ops : List (Operation α)) (g : Generator α δ) :
    Generator α δ :=
  ops.foldl (fun g op => op.after g) g

/-! ## The start -/

section Start

variable [Analytic α] [Pulser α δ]

/-- A generator that has read its store, and did not compare it with the device yet. -/
def opened (options : GeneratorOptions α) (recipes : Selection α (RecipeRule α)) (device : δ) :
    Generator α δ :=
  { device
    limits := Pulser.limits device
    settings := reportedSettings (Pulser.limits device) device
    generation := options.generation
    blocks := (options.store.map Store.loadAll).getD ∅
    ensembles := (options.store.map Store.loadAll).getD ∅
    sequences := (options.store.map Store.loadAll).getD ∅
    store := options.store
    functions := ShapeFunction.registry options.shapeRoots
    recipes
    chunk := max options.chunk 1
    loaded := none }

theorem start_ok_iff {options : GeneratorOptions α} {device : δ} {g : Generator α δ} :
    start options device = .ok g ↔
      ∃ recipes, Selection.ofRegistry (Recipe.registry options.recipeRoots) firstRecipe =
          .ok recipes ∧
        (dropStaleRecords : Action α (Generator α δ) Unit) (opened options recipes device) =
          .ok ⟨⟩ g := by
  unfold start
  rw [bind_eq_ok]
  refine exists_congr fun recipes => and_congr_right fun _ => ?_
  dsimp only
  split
  case h_1 _ g' dropped =>
    replace dropped : (dropStaleRecords : Action α (Generator α δ) Unit)
      (opened options recipes device) = .ok ⟨⟩ g' := dropped
    rw [dropped]
    simp
  case h_2 f g' failed =>
    replace failed : (dropStaleRecords : Action α (Generator α δ) Unit)
      (opened options recipes device) = .error f g' := failed
    rw [failed]
    simp

end Start

/-! ## 1. Calls -/

section Calls

variable {β : Type} {g : Generator α δ}

theorem onDevice_ok {act : Action α δ β} {b : β} {device : δ}
    (h : act g.device = .ok b device) : onDevice act g = .ok b { g with device } := by
  rw [onDevice, h]

theorem onDevice_error {act : Action α δ β} {f : Failure α}
    {device : δ} (h : act g.device = .error f device) :
    onDevice act g = .error f { g with device } := by
  rw [onDevice, h]

theorem onDevice_after (act : Action α δ β) (g : Generator α δ) :
    (onDevice act).after g = { g with device := act.after g.device } := by
  cases called : act g.device with
  | ok b device => rw [after_of_ok (onDevice_ok called), after_of_ok called]
  | error f device => rw [after_of_error (onDevice_error called), after_of_error called]

/-- An action on the recipes changes nothing else. -/
theorem onRecipes_after (act : Action α (Selection α (RecipeRule α)) β) (g : Generator α δ) :
    ∃ recipes, (onRecipes act).after g = { g with recipes } := by
  cases called : act g.recipes with
  | ok b recipes =>
    have done : onRecipes act g = .ok b { g with recipes } := by rw [onRecipes, called]
    exact ⟨recipes, after_of_ok done⟩
  | error f recipes =>
    have failed : onRecipes act g = .error f { g with recipes } := by rw [onRecipes, called]
    exact ⟨recipes, after_of_error failed⟩

end Calls

/-! ## 2. In memory -/

/-- A generator without storage, on a device that refuses nothing and takes no empty waveform.
Objects are kept under their own names, and a sampled ensemble is the waveform of its name. -/
structure InMemory (g : Generator α (MemoryPulser α)) : Prop where
  store : g.store = none
  accepting : g.device.Accepting
  least : 1 ≤ g.limits.samples.least
  ensemble_named : ∀ n e, g.ensembles.get? n = some e → e.name = n
  sequence_named : ∀ n s, g.sequences.get? n = some s → s.name = n
  ensemble_waveform : ∀ n e r, g.ensembles.get? n = some e → e.record = some r →
    r.waveforms = [n]

/-- Records that are still there speak of the same things as before. -/
structure Keeps (before after : Generator α (MemoryPulser α)) : Prop where
  functions : after.functions = before.functions
  limits : after.limits = before.limits
  ensemble : ∀ n e r, after.ensembles.get? n = some e → e.record = some r →
    before.ensembles.get? n = some e ∧
      (∀ w ∈ r.waveforms, after.device.waveforms.get? w = before.device.waveforms.get? w) ∧
      ∀ play ∈ e.plays, after.blocks.get? play.1 = before.blocks.get? play.1 ∨
        after.blocks.get? play.1 = none
  sequence : ∀ n s r, after.sequences.get? n = some s → s.record = some r →
    before.sequences.get? n = some s ∧
      (∀ w ∈ r.waveforms, after.device.waveforms.get? w = before.device.waveforms.get? w) ∧
      after.device.programs.get? n = before.device.programs.get? n

theorem Keeps.refl (g : Generator α (MemoryPulser α)) : Keeps g g where
  functions := rfl
  limits := rfl
  ensemble _ _ _ found _ := ⟨found, fun _ _ => rfl, fun _ _ => Or.inl rfl⟩
  sequence _ _ _ found _ := ⟨found, fun _ _ => rfl, rfl⟩

theorem Keeps.trans {a b c : Generator α (MemoryPulser α)} (first : Keeps a b)
    (second : Keeps b c) : Keeps a c where
  functions := second.functions.trans first.functions
  limits := second.limits.trans first.limits
  ensemble n e r found carried := by
    obtain ⟨inBetween, waveforms, blocks⟩ := second.ensemble n e r found carried
    obtain ⟨original, earlier, sooner⟩ := first.ensemble n e r inBetween carried
    refine ⟨original, fun w named => (waveforms w named).trans (earlier w named),
      fun play member => ?_⟩
    -- A block that is gone was not saved again, since that would have dropped the record.
    rcases blocks play member with same | gone
    · rw [same]
      exact sooner play member
    · exact Or.inr gone
  sequence n s r found carried := by
    obtain ⟨inBetween, waveforms, program⟩ := second.sequence n s r found carried
    obtain ⟨original, earlier, sooner⟩ := first.sequence n s r inBetween carried
    exact ⟨original, fun w named => (waveforms w named).trans (earlier w named),
      program.trans sooner⟩

theorem InMemory.forgets {es ss : String → Prop} {a b : Generator α (MemoryPulser α)}
    (h : a.InMemory) (f : Forgets es ss a b) : b.InMemory where
  store := f.store.trans h.store
  accepting := by rw [f.device]; exact h.accepting
  least := by rw [f.limits]; exact h.least
  ensemble_named n e found := by
    obtain ⟨own, listed, same⟩ := f.ensemble_forget found
    exact (congrArg Ensemble.name same).symm.trans (h.ensemble_named n own listed)
  sequence_named n s found := by
    obtain ⟨own, listed, same⟩ := f.sequence_forget found
    exact (congrArg Sequence.name same).symm.trans (h.sequence_named n own listed)
  ensemble_waveform n e r found carried :=
    h.ensemble_waveform n e r (f.ensemble_of_record found carried).2 carried

theorem Keeps.of_forgets {es ss : String → Prop} {a b : Generator α (MemoryPulser α)}
    (f : Forgets es ss a b) : Keeps a b where
  functions := f.functions
  limits := f.limits
  ensemble n e r found carried := by
    refine ⟨(f.ensemble_of_record found carried).2, fun _ _ => by rw [f.device], fun _ _ => ?_⟩
    exact Or.inl (by rw [f.blocks])
  sequence n s r found carried :=
    ⟨(f.sequence_of_record found carried).2, fun _ _ => by rw [f.device], by rw [f.device]⟩

/-- A step that stays in memory and keeps what is recorded. -/
def Harmless (before after : Generator α (MemoryPulser α)) : Prop :=
  before.InMemory → after.InMemory ∧ Keeps before after

theorem Harmless.refl (g : Generator α (MemoryPulser α)) : Harmless g g :=
  fun memory => ⟨memory, Keeps.refl g⟩

theorem Harmless.trans (a b c : Generator α (MemoryPulser α)) (first : Harmless a b)
    (second : Harmless b c) : Harmless a c := by
  intro memory
  obtain ⟨inBetween, sooner⟩ := first memory
  obtain ⟨behind, later⟩ := second inBetween
  exact ⟨behind, sooner.trans later⟩

theorem Harmless.of_forgets {es ss : String → Prop} {a b : Generator α (MemoryPulser α)}
    (f : Forgets es ss a b) : Harmless a b :=
  fun memory => ⟨memory.forgets f, Keeps.of_forgets f⟩

/-! ## 3. Operations that do not compile -/

/-- The operation compiles something. -/
def Operation.Compiles : Operation α → Prop
  | .sampleEnsemble _ | .sampleSequence _ => True
  | _ => False

/-- The parts of a request are applied one after the other, as far as they are present. -/
theorem setSettings_eq [Scalar α] [Pulser α δ] (request : SettingsRequest α) :
    (setSettings request : Action α (Generator α δ) (PulserSettings α)) = do
      let activation ← Action.lift ((← get).checkRequest request)
      activation.forM fun chosen => applyActivation chosen.1 chosen.2
      request.rate.forM applyRate
      request.amplitudes.forM applyAmplitudes
      return (← get).settings := by
  refine congrArg _ (funext fun g => congrArg _ (funext fun activation => ?_))
  cases activation <;> cases request.rate <;> cases request.amplitudes <;> rfl

/-- What every part of a request keeps is kept by all of it. -/
theorem setSettings_moves [Scalar α] [Pulser α δ] {R : Generator α δ → Generator α δ → Prop}
    (refl : ∀ g, R g g) (trans : ∀ a b c, R a b → R b c → R a c)
    (activation : ∀ name channels, Moves R (applyActivation name channels))
    (rate : ∀ rate, Moves R (applyRate rate))
    (amplitudes : ∀ amplitudes, Moves R (applyAmplitudes amplitudes))
    (request : SettingsRequest α) : Moves R (setSettings request) := by
  rw [setSettings_eq]
  refine Moves.get_bind fun g => ?_
  refine Moves.bind trans (Moves.lift refl _) (fun requested => ?_) g
  refine Moves.bind trans (Moves.option refl (fun _ => activation _ _) _) fun _ => ?_
  refine Moves.bind trans (Moves.option refl rate _) fun _ => ?_
  refine Moves.bind trans (Moves.option refl amplitudes _) fun _ => ?_
  exact refl

/-- Every part of an operation that does not compile keeps a relation. -/
structure Parts [Scalar α] [Pulser α δ] (R : Generator α δ → Generator α δ → Prop) : Prop where
  refl : ∀ g, R g g
  trans : ∀ a b c, R a b → R b c → R a c
  saveBlock : ∀ b, Moves R (saveBlock b)
  saveEnsemble : ∀ e, Moves R (saveEnsemble e)
  saveSequence : ∀ s, Moves R (saveSequence s)
  eraseBlock : ∀ name g, R g { g with blocks := g.blocks.erase name }
  eraseEnsemble : ∀ name g, R g { g with ensembles := g.ensembles.erase name }
  eraseSequence : ∀ name g, R g { g with sequences := g.sequences.erase name }
  unpersist : ∀ kind name, Moves R (unpersist kind name)
  applyActivation : ∀ name channels, Moves R (applyActivation name channels)
  applyRate : ∀ rate, Moves R (applyRate rate)
  applyAmplitudes : ∀ amplitudes, Moves R (applyAmplitudes amplitudes)
  setGeneration : ∀ generation g, R g { g with generation }
  setOutput : ∀ on, Moves R (onDevice (Pulser.setOutput on))
  setRecipe : ∀ params, Moves R (onRecipes (Selection.setParameters params))
  loadAsset : ∀ asset, Moves R (loadAsset asset)
  deleteWaveform : ∀ name, Moves R (deleteWaveform name)
  deleteProgram : ∀ name, Moves R (deleteProgram name)
  clear : Moves R clear

namespace Parts

variable [Scalar α] [Pulser α δ] {R : Generator α δ → Generator α δ → Prop}

theorem setSettings (h : Parts R) (request : SettingsRequest α) :
    Moves R (Generator.setSettings request) :=
  setSettings_moves h.refl h.trans h.applyActivation h.applyRate h.applyAmplitudes request

theorem loadEnsemble (h : Parts R) (name : String) : Moves R (Generator.loadEnsemble name) := by
  refine Moves.get_bind fun g => ?_
  refine Moves.bind h.trans (Moves.lift h.refl _) (fun e => ?_) g
  by_cases sampled : e.isSampled = true
  · rw [if_pos sampled]
    exact h.loadAsset _
  · rw [if_neg sampled]
    exact h.refl

theorem loadSequence (h : Parts R) (name : String) : Moves R (Generator.loadSequence name) := by
  refine Moves.get_bind fun g => ?_
  refine Moves.bind h.trans (Moves.lift h.refl _) (fun s => ?_) g
  by_cases sampled : s.isSampled = true
  · rw [if_pos sampled]
    exact h.loadAsset _
  · rw [if_neg sampled]
    exact h.refl

theorem deleteBlock (h : Parts R) (name : String) : Moves R (Generator.deleteBlock name) := by
  refine Moves.get_bind fun g => ?_
  refine Moves.bind h.trans (Moves.lift h.refl _) (fun _ => ?_) g
  exact Moves.bind h.trans (Moves.modify (h.eraseBlock name)) fun _ => h.unpersist _ _

theorem deleteEnsemble (h : Parts R) (name : String) : Moves R (Generator.deleteEnsemble name) := by
  refine Moves.get_bind fun g => ?_
  refine Moves.bind h.trans (Moves.lift h.refl _) (fun e => ?_) g
  refine Moves.bind h.trans (Moves.forM h.refl h.trans fun w _ =>
    Moves.bind h.trans (h.deleteWaveform w) fun _ => h.refl) fun _ => ?_
  exact Moves.bind h.trans (Moves.modify (h.eraseEnsemble name)) fun _ => h.unpersist _ _

theorem deleteSequence (h : Parts R) (name : String) : Moves R (Generator.deleteSequence name) := by
  refine Moves.get_bind fun g => ?_
  refine Moves.bind h.trans (Moves.lift h.refl _) (fun s => ?_) g
  have erased : Moves R (do
      modify fun g => { g with sequences := g.sequences.erase name }
      Generator.unpersist .sequence name : Action α (Generator α δ) Unit) :=
    Moves.bind h.trans (Moves.modify (h.eraseSequence name)) fun _ => h.unpersist _ _
  by_cases sampled : s.isSampled = true
  · rw [if_pos sampled]
    exact Moves.bind h.trans (h.deleteProgram name) fun _ => erased
  · rw [if_neg sampled]
    exact erased

/-- Recipes only save objects. -/
theorem generate (h : Parts R) (recipe name : String) (params : ParamSet α) :
    Moves R (Generator.generate recipe name params) := by
  refine Moves.bind h.trans (h.setRecipe _) fun resolved => ?_
  refine Moves.get_bind fun g => ?_
  refine Moves.bind h.trans (Moves.lift h.refl _) (fun m => ?_) g
  refine Moves.bind h.trans (Moves.lift h.refl _) fun made => ?_
  refine Moves.bind h.trans (Moves.forM h.refl h.trans fun b _ => h.saveBlock b) fun _ => ?_
  refine Moves.bind h.trans (Moves.forM h.refl h.trans fun e _ => h.saveEnsemble e) fun _ => ?_
  exact Moves.bind h.trans (Moves.forM h.refl h.trans fun s _ => h.saveSequence s) fun _ => h.refl

end Parts

/-- What all parts keep is kept by every operation that does not compile. -/
theorem Parts.operation [Analytic α] [Pulser α δ] {R : Generator α δ → Generator α δ → Prop}
    (h : Parts R) (op : Operation α) (compilesNot : ¬ op.Compiles) : Moves R op.run := by
  have answered {β : Type} {act : Action α (Generator α δ) β} (moves : Moves R act) :
      Moves R (do let _ ← act : Action α (Generator α δ) Unit) :=
    Moves.bind h.trans moves fun _ => h.refl
  cases op with
  | saveBlock b => exact h.saveBlock b
  | saveEnsemble e => exact h.saveEnsemble e
  | saveSequence s => exact h.saveSequence s
  | deleteBlock name => exact h.deleteBlock name
  | deleteEnsemble name => exact h.deleteEnsemble name
  | deleteSequence name => exact h.deleteSequence name
  | setSettings request => exact answered (h.setSettings request)
  | setGeneration generation => exact Moves.modify (h.setGeneration generation)
  | sampleEnsemble name => exact absurd trivial compilesNot
  | sampleSequence name => exact absurd trivial compilesNot
  | loadEnsemble name => exact answered (h.loadEnsemble name)
  | loadSequence name => exact answered (h.loadSequence name)
  | deleteWaveform name => exact answered (h.deleteWaveform name)
  | deleteProgram name => exact answered (h.deleteProgram name)
  | clear => exact h.clear
  | setOutput on => exact answered (h.setOutput on)
  | generate recipe name params => exact answered (h.generate recipe name params)

end PulseBench.Generator
