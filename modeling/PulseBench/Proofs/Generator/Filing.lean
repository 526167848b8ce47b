import PulseBench.Proofs.Generator.Operation
import PulseBench.Proofs.Pulser.Output

/-!
# Operations with files, on whatever device

Nothing is known about the device here, and objects may have files or none: every
call may fail, and so may every writing of a file. All the same an operation does
little to what it works on. It asks the device for something, and it changes objects
together with their files, in one of two orders: a new version is written before it
is held, and a record is dropped before the file is told.

`Handling D R` says of a relation `R` between generators that these parts keep it, where
the device does only what `D` allows. Every operation keeps it then, but that which
changes the settings: for this one, `Filing D R` asks that the settings do not matter to
`R`. Switching the output is left out of the calls that keep `D`, because it is the one
call that a relation may well notice.

Results:
1. `saveBlock_eq`: objects and their files are changed together.
2. `clearEnsembleRecord_moves`, `clearSequenceRecord_moves`, `Handling.dropStaleRecords`: dropping
   records.
3. `Handling.sampleEnsemble`, `Handling.sampleSequence`: compiling, also when it fails.
4. `Handling.operation`, `Filing.operation`: from the parts to every operation.
5. `handling_of_held`, `filing_device`: what has to do with neither objects nor files, and what
   the device keeps, is kept by all parts.
-/

namespace PulseBench.Generator

variable {α δ : Type}

open PulseBench.Action (Moves after_of_ok after_of_error bind_after get_bind_after lift_bind_after)

/-! ## 1. Objects and their files -/

/-- An ensemble is held, and then written. -/
def noteEnsemble (n : String) (e : Ensemble α) [Scalar α] : Action α (Generator α δ) Unit := do
  modify fun g => { g with ensembles := g.ensembles.insert n e }
  persist e

def noteSequence (n : String) (s : Sequence α) [Scalar α] : Action α (Generator α δ) Unit := do
  modify fun g => { g with sequences := g.sequences.insert n s }
  persist s

/-- A block is written, and then held. -/
def fileBlock (b : Block α) [Scalar α] : Action α (Generator α δ) Unit := do
  persist b
  modify fun g => { g with blocks := g.blocks.insert b.name b }

def fileEnsemble (n : String) (e : Ensemble α) [Scalar α] : Action α (Generator α δ) Unit := do
  persist e
  modify fun g => { g with ensembles := g.ensembles.insert n e }

def fileSequence (n : String) (s : Sequence α) [Scalar α] : Action α (Generator α δ) Unit := do
  persist s
  modify fun g => { g with sequences := g.sequences.insert n s }

/-- A block is no longer held, and then its file is removed. -/
def dropBlock (name : String) : Action α (Generator α δ) Unit := do
  modify fun g => { g with blocks := g.blocks.erase name }
  unpersist .block name

def dropEnsemble (name : String) : Action α (Generator α δ) Unit := do
  modify fun g => { g with ensembles := g.ensembles.erase name }
  unpersist .ensemble name

def dropSequence (name : String) : Action α (Generator α δ) Unit := do
  modify fun g => { g with sequences := g.sequences.erase name }
  unpersist .sequence name

/-- The device is the same, and so are all objects with their files. -/
structure SameHoldings (before after : Generator α δ) : Prop where
  device : after.device = before.device
  blocks : after.blocks = before.blocks
  ensembles : after.ensembles = before.ensembles
  sequences : after.sequences = before.sequences
  store : after.store = before.store

/-- The settings are the same, and so are the limits they are held against. -/
structure SameSettings (before after : Generator α δ) : Prop where
  settings : after.settings = before.settings
  limits : after.limits = before.limits

/-- All parts of operations that leave the settings alone keep a relation, as long as the device
keeps another one. -/
structure Handling [Scalar α] (D : δ → δ → Prop) (R : Generator α δ → Generator α δ → Prop) :
    Prop where
  refl : ∀ g, R g g
  trans : ∀ a b c, R a b → R b c → R a c
  unseen : ∀ a b, SameHoldings a b → SameSettings a b → R a b
  onDevice : ∀ {β : Type} {act : Action α δ β}, Moves D act → Moves R (onDevice act)
  fileBlock : ∀ b, Moves R (fileBlock b)
  fileEnsemble : ∀ e, Moves R (fileEnsemble e.name e)
  fileSequence : ∀ s, Moves R (fileSequence s.name s)
  /-- An ensemble that was held gets another record. Something may have happened since. -/
  noteEnsemble : ∀ a b n e record, a.ensembles.get? n = some e → R a b →
    R a ((noteEnsemble n { e with record }).after b)
  noteSequence : ∀ a b n s record, a.sequences.get? n = some s → R a b →
    R a ((noteSequence n { s with record }).after b)
  refileEnsemble : ∀ a b n e record, a.ensembles.get? n = some e → R a b →
    R a ((Generator.fileEnsemble n { e with record }).after b)
  refileSequence : ∀ a b n s record, a.sequences.get? n = some s → R a b →
    R a ((Generator.fileSequence n { s with record }).after b)
  dropBlock : ∀ name, Moves R (dropBlock name)
  dropEnsemble : ∀ name, Moves R (dropEnsemble name)
  dropSequence : ∀ name, Moves R (dropSequence name)

/-- The settings do not matter to the relation. -/
structure Filing [Scalar α] (D : δ → δ → Prop) (R : Generator α δ → Generator α δ → Prop) : Prop
    extends Handling D R where
  change : ∀ a b, SameHoldings a b → R a b
  unseen := fun a b same _ => change a b same

/-- The users of a block are those that held it before: only ensembles are asked. -/
theorem saveBlock_eq [Scalar α] (b : Block α) :
    (saveBlock b : Action α (Generator α δ) Unit) = (do
      Action.lift (checkName .block b.name)
      Generator.fileBlock b
      let users := (← get).ensemblesWhere (·.uses b.name)
      users.forM invalidateEnsemble) := by
  refine congrArg _ (funext fun _ => ?_)
  unfold Generator.fileBlock
  rw [bind_assoc]
  rfl

/-! ## 2. Dropping records -/

section Records

variable [Scalar α] {R : Generator α δ → Generator α δ → Prop}

omit [Scalar α] in
theorem persist_moves (stored : ∀ g store, R g { g with store }) {β : Type} [Storable α β]
    (object : β) : Moves R (persist object : Action α (Generator α δ) Unit) := by
  intro g
  obtain ⟨store, persisted⟩ := persist_only object g
  rw [persisted]
  exact stored g store

theorem noteEnsemble_after (trans : ∀ a b c, R a b → R b c → R a c)
    (stored : ∀ g store, R g { g with store }) {g : Generator α δ} {n : String} {e : Ensemble α}
    (held : R g { g with ensembles := g.ensembles.insert n e }) :
    R g ((noteEnsemble n e).after g) :=
  bind_after held fun _ middle sofar => trans _ _ _ sofar (persist_moves stored e middle)

theorem noteSequence_after (trans : ∀ a b c, R a b → R b c → R a c)
    (stored : ∀ g store, R g { g with store }) {g : Generator α δ} {n : String} {s : Sequence α}
    (held : R g { g with sequences := g.sequences.insert n s }) :
    R g ((noteSequence n s).after g) :=
  bind_after held fun _ middle sofar => trans _ _ _ sofar (persist_moves stored s middle)

/-- Without a record to drop nothing happens. -/
theorem clearEnsembleRecord_moves (refl : ∀ g, R g g) (name : String)
    (noted : ∀ g e, g.ensembles.get? name = some e →
      R g ((noteEnsemble name e.forget).after g)) :
    Moves R (clearEnsembleRecord name : Action α (Generator α δ) Unit) := by
  refine Moves.get_bind fun g => ?_
  cases found : g.ensembles.get? name with
  | none => exact refl g
  | some e =>
    by_cases sampled : e.isSampled = true
    · simp only [sampled, if_true]
      exact noted g e found
    · simp only [sampled]
      exact refl g

omit [Scalar α] in
theorem unload_moves (refl : ∀ g, R g g) (unloaded : ∀ g, R g { g with loaded := none })
    (asset : LoadedAsset) : Moves R (modify (unload asset) : Action α (Generator α δ) PUnit) := by
  refine Moves.modify fun g => ?_
  unfold unload
  split
  · exact unloaded g
  · exact refl g

theorem clearSequenceRecord_moves (refl : ∀ g, R g g) (trans : ∀ a b c, R a b → R b c → R a c)
    (unloaded : ∀ g, R g { g with loaded := none }) (name : String)
    (noted : ∀ g s, g.sequences.get? name = some s →
      R g ((noteSequence name s.forget).after g)) :
    Moves R (clearSequenceRecord name : Action α (Generator α δ) Unit) := by
  refine Moves.get_bind fun g => ?_
  have unloads := unload_moves refl unloaded ⟨name, .sequence⟩
  cases found : g.sequences.get? name with
  | none => exact unloads g
  | some s =>
    by_cases sampled : s.isSampled = true
    · simp only [sampled, if_true]
      rw [← bind_assoc]
      exact bind_after (noted g s found) fun _ t noted => trans _ _ _ noted (unloads t)
    · simp only [sampled]
      exact unloads g

theorem invalidateUsers_moves (refl : ∀ g, R g g) (trans : ∀ a b c, R a b → R b c → R a c)
    (clears : ∀ name, Moves R (clearSequenceRecord name)) (ensemble : String) :
    Moves R (invalidateUsers ensemble : Action α (Generator α δ) Unit) :=
  Moves.get_bind fun g => Moves.forM refl trans (fun name _ => clears name) g

theorem dropStaleRecords_moves [Pulser α δ] (refl : ∀ g, R g g)
    (trans : ∀ a b c, R a b → R b c → R a c)
    (ensembles : ∀ name, Moves R (clearEnsembleRecord name))
    (sequences : ∀ name, Moves R (clearSequenceRecord name)) :
    Moves R (dropStaleRecords : Action α (Generator α δ) Unit) := by
  refine Moves.get_bind fun g => ?_
  exact Moves.bind trans (Moves.forM refl trans fun name _ => ensembles name)
    (fun _ => Moves.forM refl trans fun name _ => sequences name) g

end Records

namespace Handling

section Records

variable [Scalar α] {D : δ → δ → Prop} {R : Generator α δ → Generator α δ → Prop}

theorem clearEnsembleRecord (h : Handling D R) (name : String) :
    Moves R (Generator.clearEnsembleRecord name) :=
  clearEnsembleRecord_moves h.refl name fun g e found =>
    h.noteEnsemble g g name e none found (h.refl g)

theorem unload (h : Handling D R) (asset : LoadedAsset) :
    Moves R (modify (Generator.unload asset) : Action α (Generator α δ) PUnit) :=
  unload_moves h.refl (fun _ => h.unseen _ _ ⟨rfl, rfl, rfl, rfl, rfl⟩ ⟨rfl, rfl⟩) asset

theorem clearSequenceRecord (h : Handling D R) (name : String) :
    Moves R (Generator.clearSequenceRecord name) :=
  clearSequenceRecord_moves h.refl h.trans
    (fun _ => h.unseen _ _ ⟨rfl, rfl, rfl, rfl, rfl⟩ ⟨rfl, rfl⟩) name fun g s found =>
      h.noteSequence g g name s none found (h.refl g)

theorem invalidateUsers (h : Handling D R) (ensemble : String) :
    Moves R (Generator.invalidateUsers ensemble) :=
  invalidateUsers_moves h.refl h.trans h.clearSequenceRecord ensemble

theorem invalidateEnsemble (h : Handling D R) (name : String) :
    Moves R (Generator.invalidateEnsemble name) :=
  Moves.bind h.trans (h.clearEnsembleRecord name) fun _ => h.invalidateUsers name

theorem dropStaleRecords [Pulser α δ] (h : Handling D R) :
    Moves R (Generator.dropStaleRecords : Action α (Generator α δ) Unit) :=
  dropStaleRecords_moves h.refl h.trans h.clearEnsembleRecord h.clearSequenceRecord

end Records

/-! ## 3. Compiling -/

section Compiling

variable [Analytic α] [Pulser α δ] {D : δ → δ → Prop} {R : Generator α δ → Generator α δ → Prop}

omit [Analytic α] in
theorem writeSingleStep [Scalar α] (h : Handling D R) (calls : Compiler.Writing D) (name : String) :
    Moves R (Generator.writeSingleStep name : Action α (Generator α δ) Unit) := by
  refine Moves.get_bind fun g => ?_
  by_cases required : g.limits.sequencer = .required
  · simp only [required, if_true]
    have write : Moves R (do
        let _ ← Generator.onDevice (Pulser.writeSequence name [singleStep g.limits name]) :
        Action α (Generator α δ) Unit) :=
      Moves.bind h.trans (h.onDevice (calls.writeSequence _ _)) fun _ => h.refl
    refine Moves.tryCatch h.trans write (fun _ => ?_) g
    exact Moves.bind h.trans (h.onDevice (calls.deleteWaveform name)) fun _ => h.refl
  · simp only [required, if_false]
    exact h.refl g

/-- Whatever becomes of the record on the way, the ensemble that was there is filed in the end. -/
theorem sampleEnsemble (h : Handling D R) (calls : Compiler.Writing D) (name : String) :
    Moves R (Generator.sampleEnsemble name : Action α (Generator α δ) (Record α)) := by
  refine Moves.get_bind fun g => lift_bind_after (h.refl g) _ fun e found => ?_
  refine bind_after (h.invalidateEnsemble name g) fun _ cleared sofar => get_bind_after ?_
  refine bind_after (h.trans _ _ _ sofar (h.onDevice
    (calls.sampleEnsemble cleared.compiler e cleared.blocks name 0) cleared)) ?_
  rintro ⟨_, record⟩ compiled sofar
  refine bind_after (h.trans _ _ _ sofar (h.writeSingleStep calls name compiled))
    fun _ written sofar => ?_
  dsimp only
  rw [← bind_assoc]
  exact bind_after (h.refileEnsemble g written name e (some record) (elim_eq_ok.mp found) sofar)
    fun _ _ => id

omit [Pulser α δ] in
theorem attachRecord (h : Handling D R) (name : String) (record : Record α) :
    Moves R (Generator.attachRecord name record) := by
  refine Moves.get_bind fun g => ?_
  cases found : g.ensembles.get? name with
  | none => exact h.refl g
  | some e => exact h.noteEnsemble g g name e (some record) found (h.refl g)

theorem sampleSequence (h : Handling D R) (calls : Compiler.Writing D) (name : String) :
    Moves R (Generator.sampleSequence name : Action α (Generator α δ) (Record α)) := by
  refine Moves.get_bind fun g => lift_bind_after (h.refl g) _ fun s found => ?_
  refine bind_after (h.clearSequenceRecord name g) fun _ middle sofar => ?_
  refine bind_after (h.trans _ _ _ sofar (Moves.forM h.refl h.trans
    (fun n _ => h.clearEnsembleRecord n) middle)) fun _ cleared sofar => get_bind_after ?_
  refine bind_after (h.trans _ _ _ sofar (h.onDevice
    (calls.sampleSequence cleared.compiler s cleared.ensembles cleared.blocks) cleared)) ?_
  rintro ⟨record, records⟩ compiled sofar
  have attach (entry : String × Record α) : Moves R (Generator.attachRecord entry.1 entry.2) :=
    h.attachRecord entry.1 entry.2
  refine bind_after (h.trans _ _ _ sofar (Moves.forM h.refl h.trans
    (fun entry _ => attach entry) compiled)) fun _ handed sofar => ?_
  dsimp only
  rw [← bind_assoc]
  exact bind_after (h.refileSequence g handed name s (some record) (elim_eq_ok.mp found) sofar)
    fun _ _ => id

end Compiling

/-! ## 4. All operations -/

section Operations

variable [Analytic α] [Pulser α δ] {D : δ → δ → Prop} {R : Generator α δ → Generator α δ → Prop}

omit [Pulser α δ] in
theorem saveBlock (h : Handling D R) (b : Block α) : Moves R (Generator.saveBlock b) := by
  rw [saveBlock_eq]
  refine Moves.bind h.trans (Moves.lift h.refl _) fun _ => ?_
  refine Moves.bind h.trans (h.fileBlock b) fun _ => ?_
  exact Moves.get_bind fun g =>
    Moves.forM h.refl h.trans (fun name _ => h.invalidateEnsemble name) g

omit [Pulser α δ] in
theorem saveEnsemble (h : Handling D R) (e : Ensemble α) : Moves R (Generator.saveEnsemble e) := by
  refine Moves.bind h.trans (Moves.lift h.refl _) fun _ => ?_
  dsimp only
  rw [← bind_assoc]
  exact Moves.bind h.trans (h.fileEnsemble e.forget) fun _ => h.invalidateUsers e.name

omit [Pulser α δ] in
theorem saveSequence (h : Handling D R) (s : Sequence α) : Moves R (Generator.saveSequence s) :=
  Moves.bind h.trans (Moves.lift h.refl _) fun _ => h.fileSequence s.forget

theorem loadAsset (h : Handling D R) (calls : Serving D) (asset : LoadedAsset) :
    Moves R (Generator.loadAsset asset) := by
  refine Moves.bind h.trans (h.onDevice (calls.upload _)) fun _ => ?_
  refine Moves.bind h.trans (h.onDevice (calls.load _)) fun _ => ?_
  exact Moves.bind h.trans (Moves.modify fun _ => h.unseen _ _ ⟨rfl, rfl, rfl, rfl, rfl⟩ ⟨rfl, rfl⟩)
    fun _ => h.refl

theorem loadEnsemble (h : Handling D R) (calls : Serving D) (name : String) :
    Moves R (Generator.loadEnsemble name) := by
  refine Moves.get_bind fun g => ?_
  refine Moves.bind h.trans (Moves.lift h.refl _) (fun e => ?_) g
  by_cases sampled : e.isSampled = true
  · rw [if_pos sampled]
    exact h.loadAsset calls _
  · rw [if_neg sampled]
    exact h.refl

theorem loadSequence (h : Handling D R) (calls : Serving D) (name : String) :
    Moves R (Generator.loadSequence name) := by
  refine Moves.get_bind fun g => ?_
  refine Moves.bind h.trans (Moves.lift h.refl _) (fun s => ?_) g
  by_cases sampled : s.isSampled = true
  · rw [if_pos sampled]
    exact h.loadAsset calls _
  · rw [if_neg sampled]
    exact h.refl

theorem deleteWaveform (h : Handling D R) (calls : Serving D) (name : String) :
    Moves R (Generator.deleteWaveform name) := by
  refine Moves.bind h.trans (h.onDevice (calls.deleteWaveform name)) fun deleted => ?_
  refine Moves.get_bind fun g => ?_
  refine Moves.bind h.trans (Moves.forM h.refl h.trans fun ensemble _ => ?_) (fun _ => ?_) g
  · exact Moves.bind h.trans (h.clearEnsembleRecord ensemble) fun _ => h.unload _
  · exact Moves.bind h.trans (Moves.forM h.refl h.trans fun n _ => h.clearSequenceRecord n)
      fun _ => h.refl

theorem deleteProgram (h : Handling D R) (calls : Serving D) (name : String) :
    Moves R (Generator.deleteProgram name) := by
  refine Moves.bind h.trans (h.onDevice (calls.deleteSequence name)) fun deleted => ?_
  exact Moves.bind h.trans (Moves.forM h.refl h.trans fun n _ => h.clearSequenceRecord n)
    fun _ => h.refl

theorem clear (h : Handling D R) (calls : Serving D) :
    Moves R (Generator.clear : Action α (Generator α δ) Unit) := by
  refine Moves.bind h.trans (h.onDevice calls.clear) fun _ => ?_
  refine Moves.get_bind fun g => ?_
  refine Moves.bind h.trans (Moves.forM h.refl h.trans fun n _ => h.clearEnsembleRecord n)
    (fun _ => ?_) g
  refine Moves.get_bind fun g => ?_
  refine Moves.bind h.trans (Moves.forM h.refl h.trans fun n _ => h.clearSequenceRecord n)
    (fun _ => ?_) g
  exact Moves.modify fun _ => h.unseen _ _ ⟨rfl, rfl, rfl, rfl, rfl⟩ ⟨rfl, rfl⟩

omit [Pulser α δ] in
theorem deleteBlock (h : Handling D R) (name : String) : Moves R (Generator.deleteBlock name) := by
  refine Moves.get_bind fun g => ?_
  exact Moves.bind h.trans (Moves.lift h.refl _) (fun _ => h.dropBlock name) g

theorem deleteEnsemble (h : Handling D R) (calls : Serving D) (name : String) :
    Moves R (Generator.deleteEnsemble name) := by
  refine Moves.get_bind fun g => ?_
  refine Moves.bind h.trans (Moves.lift h.refl _) (fun e => ?_) g
  refine Moves.bind h.trans (Moves.forM h.refl h.trans fun w _ => ?_) fun _ => h.dropEnsemble name
  exact Moves.bind h.trans (h.deleteWaveform calls w) fun _ => h.refl

theorem deleteSequence (h : Handling D R) (calls : Serving D) (name : String) :
    Moves R (Generator.deleteSequence name) := by
  refine Moves.get_bind fun g => ?_
  refine Moves.bind h.trans (Moves.lift h.refl _) (fun s => ?_) g
  by_cases sampled : s.isSampled = true
  · rw [if_pos sampled]
    exact Moves.bind h.trans (h.deleteProgram calls name) fun _ => h.dropSequence name
  · rw [if_neg sampled]
    exact h.dropSequence name

omit [Pulser α δ] in
theorem onRecipes (h : Handling D R) {β : Type} (act : Action α (Selection α (RecipeRule α)) β) :
    Moves R (Generator.onRecipes act : Action α (Generator α δ) β) := by
  intro g
  obtain ⟨recipes, same⟩ := onRecipes_after act g
  rw [same]
  exact h.unseen _ _ ⟨rfl, rfl, rfl, rfl, rfl⟩ ⟨rfl, rfl⟩

omit [Pulser α δ] in
/-- Recipes only save objects. -/
theorem generate (h : Handling D R) (recipe name : String) (params : ParamSet α) :
    Moves R (Generator.generate recipe name params) := by
  refine Moves.bind h.trans (h.onRecipes _) fun resolved => ?_
  refine Moves.get_bind fun g => ?_
  refine Moves.bind h.trans (Moves.lift h.refl _) (fun m => ?_) g
  refine Moves.bind h.trans (Moves.lift h.refl _) fun made => ?_
  refine Moves.bind h.trans (Moves.forM h.refl h.trans fun b _ => h.saveBlock b) fun _ => ?_
  refine Moves.bind h.trans (Moves.forM h.refl h.trans fun e _ => h.saveEnsemble e) fun _ => ?_
  exact Moves.bind h.trans (Moves.forM h.refl h.trans fun s _ => h.saveSequence s) fun _ => h.refl

omit [Pulser α δ] in
theorem setGeneration (h : Handling D R) (generation : GenerationParameters α) :
    Moves R (modify fun g => { g with generation } : Action α (Generator α δ) PUnit) :=
  Moves.modify fun _ => h.unseen _ _ ⟨rfl, rfl, rfl, rfl, rfl⟩ ⟨rfl, rfl⟩

/-- What all parts keep is kept by every operation; it is enough if it is also kept where the
settings are changed and where the output is switched. -/
theorem operation (h : Handling D R) (calls : Serving D) (op : Operation α)
    (sets : ∀ request, op = .setSettings request → Moves R op.run)
    (switches : ∀ on, op = .setOutput on → Moves R op.run) : Moves R op.run := by
  have answered {β : Type} {act : Action α (Generator α δ) β} (moves : Moves R act) :
      Moves R (do let _ ← act : Action α (Generator α δ) Unit) :=
    Moves.bind h.trans moves fun _ => h.refl
  cases op with
  | saveBlock b => exact h.saveBlock b
  | saveEnsemble e => exact h.saveEnsemble e
  | saveSequence s => exact h.saveSequence s
  | deleteBlock name => exact h.deleteBlock name
  | deleteEnsemble name => exact h.deleteEnsemble calls name
  | deleteSequence name => exact h.deleteSequence calls name
  | setSettings request => exact sets request rfl
  | setGeneration generation => exact h.setGeneration generation
  | sampleEnsemble name => exact answered (h.sampleEnsemble calls.toWriting name)
  | sampleSequence name => exact answered (h.sampleSequence calls.toWriting name)
  | loadEnsemble name => exact answered (h.loadEnsemble calls name)
  | loadSequence name => exact answered (h.loadSequence calls name)
  | deleteWaveform name => exact answered (h.deleteWaveform calls name)
  | deleteProgram name => exact answered (h.deleteProgram calls name)
  | clear => exact h.clear calls
  | setOutput on => exact switches on rfl
  | generate recipe name params => exact answered (h.generate recipe name params)

end Operations

end Handling

namespace Filing

variable [Analytic α] [Pulser α δ] {D : δ → δ → Prop} {R : Generator α δ → Generator α δ → Prop}

omit [Analytic α] [Pulser α δ] in
/-- What the device reports of its settings is kept. -/
theorem applying [Scalar α] (h : Filing D R) {β : Type} {act : Action α δ β} (moves : Moves D act)
    (keep : β → Generator α δ → PulserSettings α) :
    Moves R (do
      let b ← Generator.onDevice act
      modify fun g => { g with settings := keep b g } : Action α (Generator α δ) Unit) :=
  Moves.bind h.trans (h.onDevice moves) fun _ =>
    Moves.modify fun _ => h.change _ _ ⟨rfl, rfl, rfl, rfl, rfl⟩

theorem setSettings (h : Filing D R) (calls : Switchless D) (request : SettingsRequest α) :
    Moves R (Generator.setSettings request) :=
  setSettings_moves h.refl h.trans
    (fun _ channels => h.applying (calls.setActiveChannels channels) _)
    (fun rate => h.applying (calls.setRate rate) _)
    (fun amplitudes => h.applying (calls.setAmplitudes amplitudes) _) request

/-- Where the settings do not matter, it is enough if the relation is kept where the output is
switched. -/
theorem operation (h : Filing D R) (calls : Switchless D) (op : Operation α)
    (switches : ∀ on, op = .setOutput on → Moves R op.run) : Moves R op.run := by
  refine h.toHandling.operation calls.serving op (fun request same => ?_) switches
  rw [same]
  exact Moves.bind h.trans (h.setSettings calls request) fun _ => h.refl

end Filing

/-! ## 5. The device and the settings alone -/

/-- What has to do with neither objects nor files is kept by all parts where the device keeps it. -/
theorem handling_of_held [Scalar α] {D : δ → δ → Prop} {R : Generator α δ → Generator α δ → Prop}
    (refl : ∀ g, R g g) (trans : ∀ a b c, R a b → R b c → R a c)
    (unseen : ∀ a b, b.device = a.device → SameSettings a b → R a b)
    (onDevice : ∀ {β : Type} {act : Action α δ β}, Moves D act → Moves R (onDevice act)) :
    Handling D R := by
  have held {f : Generator α δ → Generator α δ} (device : ∀ g, (f g).device = g.device)
      (settings : ∀ g, SameSettings g (f g)) :
      Moves R (modify f : Action α (Generator α δ) PUnit) :=
    Moves.modify fun g => unseen g (f g) (device g) (settings g)
  have written {β : Type} [Storable α β] (object : β) : Moves R (persist object) := by
    intro g
    obtain ⟨store, same⟩ := persist_only object g
    rw [same]
    exact unseen _ _ rfl ⟨rfl, rfl⟩
  have removed (kind : ObjectKind) (name : String) : Moves R (unpersist kind name) := by
    intro g
    obtain ⟨store, same⟩ := unpersist_only kind name g
    rw [same]
    exact unseen _ _ rfl ⟨rfl, rfl⟩
  have filedEnsemble (n : String) (e : Ensemble α) : Moves R (fileEnsemble n e) :=
    Moves.bind trans (written e) fun _ => held (fun _ => rfl) fun _ => ⟨rfl, rfl⟩
  have filedSequence (n : String) (s : Sequence α) : Moves R (fileSequence n s) :=
    Moves.bind trans (written s) fun _ => held (fun _ => rfl) fun _ => ⟨rfl, rfl⟩
  have notedEnsemble (n : String) (e : Ensemble α) : Moves R (noteEnsemble n e) :=
    Moves.bind trans (held (fun _ => rfl) fun _ => ⟨rfl, rfl⟩) fun _ => written e
  have notedSequence (n : String) (s : Sequence α) : Moves R (noteSequence n s) :=
    Moves.bind trans (held (fun _ => rfl) fun _ => ⟨rfl, rfl⟩) fun _ => written s
  exact {
    refl := refl
    trans := trans
    unseen := fun a b same settings => unseen a b same.device settings
    onDevice := onDevice
    fileBlock := fun b =>
      Moves.bind trans (written b) fun _ => held (fun _ => rfl) fun _ => ⟨rfl, rfl⟩
    fileEnsemble := fun e => filedEnsemble _ e
    fileSequence := fun s => filedSequence _ s
    noteEnsemble := fun _ b _ _ _ _ sofar => trans _ _ _ sofar (notedEnsemble _ _ b)
    noteSequence := fun _ b _ _ _ _ sofar => trans _ _ _ sofar (notedSequence _ _ b)
    refileEnsemble := fun _ b _ _ _ _ sofar => trans _ _ _ sofar (filedEnsemble _ _ b)
    refileSequence := fun _ b _ _ _ _ sofar => trans _ _ _ sofar (filedSequence _ _ b)
    dropBlock := fun _ =>
      Moves.bind trans (held (fun _ => rfl) fun _ => ⟨rfl, rfl⟩) fun _ => removed _ _
    dropEnsemble := fun _ =>
      Moves.bind trans (held (fun _ => rfl) fun _ => ⟨rfl, rfl⟩) fun _ => removed _ _
    dropSequence := fun _ =>
      Moves.bind trans (held (fun _ => rfl) fun _ => ⟨rfl, rfl⟩) fun _ => removed _ _ }

/-- Files, objects and settings are no concern of the device. -/
theorem filing_device [Scalar α] {D : δ → δ → Prop} (refl : ∀ d, D d d)
    (trans : ∀ a b c, D a b → D b c → D a c) :
    Filing D fun before after : Generator α δ => D before.device after.device := by
  let R (before after : Generator α δ) : Prop := D before.device after.device
  have unseen (a b : Generator α δ) (same : b.device = a.device) : R a b := by
    change D a.device b.device
    rw [same]
    exact refl a.device
  have called {β : Type} {act : Action α δ β} (moves : Moves D act) : Moves R (onDevice act) := by
    intro g
    rw [onDevice_after]
    exact moves g.device
  exact {
    handling_of_held (R := R) (fun g => refl g.device) (fun _ _ _ => trans _ _ _)
      (fun a b same _ => unseen a b same) called with
    change := fun a b same => unseen a b same.device }

/-- A generator starts with the device that it is given. -/
theorem start_device [Analytic α] [Pulser α δ] {g : Generator α δ} {options : GeneratorOptions α}
    {device : δ} (started : start options device = .ok g) : g.device = device := by
  have dropping := (filing_device (α := α) (D := fun a b : δ => b = a) (fun _ => rfl)
    fun _ _ _ first second => second.trans first).dropStaleRecords
  obtain ⟨recipes, -, dropped⟩ := start_ok_iff.mp started
  have same := dropping (opened options recipes device)
  rw [after_of_ok dropped] at same
  exact same

end PulseBench.Generator
