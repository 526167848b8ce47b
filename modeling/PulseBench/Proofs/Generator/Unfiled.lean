import PulseBench.Proofs.Generator.Mirrored

/-!
# Files change nothing else

An operation of a generator that has a storage directory does to memory and device what it
would do without one, and gives the same answer, if its names can be those of files. So all that
is known of generators without a directory holds of those that have one.

An action is `Alike` if that is so wherever files mirror memory, and if they still do afterwards.
The names of objects that are held are those of files already. Only saving brings new names, and
recipes, which choose names on their own and are left out.

Results:
1. `Alike.bind`, `Alike.get_bind`, `Alike.forM`, `Alike.tryCatch`: one action after the other.
2. `file_alike`, `note_alike`, `drop_alike`: one object and its file.
3. `dropStaleRecords_alike`, `sampleEnsemble_alike`, `sampleSequence_alike` and so on: from the
   parts to the operations.
4. `Operation.alike`, `afterAll_unfiled`: a run with files is a run without.
-/

namespace PulseBench.Generator

variable {α δ : Type}

open PulseBench.Action (after after_of_ok after_of_error bind_of_ok bind_of_error)
open Store (CanHold)

/-- The generator without its directory. -/
def unfiled (g : Generator α δ) : Generator α δ := { g with store := none }

/-- An outcome without the directory. -/
def unfiledOutcome {β : Type} : EStateM.Result (Failure α) (Generator α δ) β →
    EStateM.Result (Failure α) (Generator α δ) β
  | .ok b g => .ok b g.unfiled
  | .error f g => .error f g.unfiled

/-- Where files mirror memory, the action does what it does without files, and they still do
afterwards. -/
def Alike [Scalar α] {β : Type} (act : Action α (Generator α δ) β) : Prop :=
  ∀ g, Mirrored g → Mirrored (act.after g) ∧ act g.unfiled = unfiledOutcome (act g)

namespace Alike

/-! ## 1. One action after the other -/

section Steps

variable [Scalar α] {β γ : Type}

/-- An action that succeeds with and without files. -/
theorem of_ok {act : Action α (Generator α δ) β} {g g' : Generator α δ} {b : β}
    (done : act g = .ok b g') (mirrored : Mirrored g')
    (without : act g.unfiled = .ok b g'.unfiled) :
    Mirrored (act.after g) ∧ act g.unfiled = unfiledOutcome (act g) := by
  rw [after_of_ok done, done]
  exact ⟨mirrored, without⟩

protected theorem pure (b : β) : Alike (pure b : Action α (Generator α δ) β) :=
  fun _ mirrored => ⟨mirrored, rfl⟩

protected theorem throw (f : Failure α) : Alike (throw f : Action α (Generator α δ) β) :=
  fun _ mirrored => ⟨mirrored, rfl⟩

protected theorem bind {act : Action α (Generator α δ) β} {next : β → Action α (Generator α δ) γ}
    (h : Alike act) (each : ∀ b, Alike (next b)) : Alike (act >>= next) := by
  intro g mirrored
  obtain ⟨behind, same⟩ := h g mirrored
  cases done : act g with
  | ok b g' =>
    rw [after_of_ok done] at behind
    rw [done] at same
    have later := each b g' behind
    rw [after, Action.run, bind_of_ok done, bind_of_ok same]
    exact later
  | error f g' =>
    rw [after_of_error done] at behind
    rw [done] at same
    rw [after_of_error (bind_of_error done), bind_of_error done, bind_of_error same]
    exact ⟨behind, rfl⟩

/-- The answer may be left aside. -/
theorem discard {act : Action α (Generator α δ) β} (h : Alike act) :
    Alike (do let _ ← act : Action α (Generator α δ) Unit) :=
  h.bind fun _ => Alike.pure ()

theorem lift_bind {outcome : Except (Failure α) β} {next : β → Action α (Generator α δ) γ}
    (each : ∀ b, outcome = .ok b → Alike (next b)) : Alike (Action.lift outcome >>= next) := by
  cases outcome with
  | ok b => exact each b rfl
  | error f => exact Alike.throw f

/-- What is read must not be the directory. -/
theorem get_bind {next : Generator α δ → Action α (Generator α δ) γ}
    (blind : ∀ g, next g.unfiled = next g) (each : ∀ g, Mirrored g → Alike (next g)) :
    Alike (get >>= next) := by
  intro g mirrored
  obtain ⟨behind, same⟩ := each g mirrored g mirrored
  refine ⟨behind, ?_⟩
  rw [bind_of_ok (Action.get_apply g), bind_of_ok (Action.get_apply g.unfiled), blind]
  exact same

/-- Objects and directory stay as they are. -/
protected theorem modify {f : Generator α δ → Generator α δ} (same : ∀ g, SameHoldings g (f g))
    (blind : ∀ g, f g.unfiled = (f g).unfiled) :
    Alike (modify f : Action α (Generator α δ) PUnit) :=
  fun g mirrored => of_ok (Action.modify_apply f g)
    (mirrored_filing.change g (f g) (same g) mirrored)
    ((Action.modify_apply f g.unfiled).trans (congrArg _ (blind g)))

protected theorem forM {act : β → Action α (Generator α δ) PUnit} {items : List β}
    (each : ∀ b ∈ items, Alike (act b)) : Alike (items.forM act) := by
  induction items with
  | nil => exact Alike.pure PUnit.unit
  | cons b rest ih =>
    exact (each b List.mem_cons_self).bind fun _ =>
      ih fun c member => each c (List.mem_cons_of_mem _ member)

theorem option {act : β → Action α (Generator α δ) PUnit} (each : ∀ b, Alike (act b))
    (item : Option β) : Alike (item.forM act) := by
  cases item with
  | none => exact Alike.pure PUnit.unit
  | some b => exact each b

protected theorem tryCatch {act : Action α (Generator α δ) β}
    {handler : Failure α → Action α (Generator α δ) β} (h : Alike act)
    (handled : ∀ f, Alike (handler f)) : Alike (tryCatch act handler) := by
  intro g mirrored
  obtain ⟨behind, same⟩ := h g mirrored
  cases done : act g with
  | ok b g' =>
    rw [after_of_ok done] at behind
    rw [done] at same
    exact of_ok (Action.tryCatch_of_ok done) behind (Action.tryCatch_of_ok same)
  | error f g' =>
    rw [after_of_error done] at behind
    rw [done] at same
    rw [after, Action.run, Action.tryCatch_of_error done, Action.tryCatch_of_error same]
    exact handled f g' behind

protected theorem onDevice (act : Action α δ β) :
    Alike (onDevice act : Action α (Generator α δ) β) := by
  intro g mirrored
  refine ⟨mirrored_filing.onDevice (fun _ => trivial) g mirrored, ?_⟩
  cases called : act g.device with
  | ok b device => rw [onDevice_ok called, onDevice_ok (g := g.unfiled) called]; rfl
  | error f device => rw [onDevice_error called, onDevice_error (g := g.unfiled) called]; rfl

end Steps

end Alike

/-! ## 2. One object and its file -/

section Parts

variable [Scalar α] {β : Type} [Storable α β] {object : β}
  {hold : Generator α δ → Generator α δ}

theorem GoesWith.unfiled {write : Store α → Store α → Prop} (h : GoesWith hold write)
    (g : Generator α δ) (store : Option (Store α)) :
    (hold { g with store }).unfiled = hold g.unfiled := by
  rw [h.apart g store]
  exact (h.apart g none).symm

theorem note_alike (suits : Suits object hold)
    (can : CanHold (Storable.kind β) (Storable.name object)) :
    Alike (do modify hold; persist object : Action α (Generator α δ) Unit) := by
  intro g mirrored
  obtain ⟨next, done, behind⟩ := note_mirrored suits can mirrored
  refine Alike.of_ok done behind ?_
  rw [suits.unfiled, bind_of_ok (Action.modify_apply _ _)]
  exact persist_ok (suits.store g.unfiled) object

theorem file_alike (suits : Suits object hold)
    (can : CanHold (Storable.kind β) (Storable.name object)) :
    Alike (do persist object; modify hold : Action α (Generator α δ) Unit) := by
  intro g mirrored
  obtain ⟨next, done, behind⟩ := file_of_canHold suits can mirrored
  refine Alike.of_ok done behind ?_
  rw [suits.unfiled, bind_of_ok (persist_ok rfl object)]
  exact Action.modify_apply _ _

theorem drop_alike {kind : ObjectKind} {name : String} (rids : Rids kind name hold)
    (usable : Store.isUsable name = true) :
    Alike (do modify hold; unpersist kind name : Action α (Generator α δ) Unit) := by
  intro g mirrored
  have behind := drop_mirrored rids mirrored
  obtain ⟨s, stored, -⟩ := mirrored
  have done : (do modify hold; unpersist kind name : Action α (Generator α δ) Unit) g =
      .ok ⟨⟩ { hold g with store := some (s.without kind name) } := by
    rw [bind_of_ok (Action.modify_apply hold g)]
    exact unpersist_of_usable ((rids.store g).trans stored) usable kind
  refine ⟨behind, ?_⟩
  rw [done, bind_of_ok (Action.modify_apply _ _), unpersist_ok (rids.store g.unfiled)]
  exact congrArg _ (rids.apart g none)

end Parts

/-! ## 3. Operations -/

/-! ### Dropping records -/

section Records

variable [Scalar α]

theorem Mirrored.named_ensemble {g : Generator α δ} (h : Mirrored g) {name : String}
    {e : Ensemble α} (found : g.findEnsemble name = .ok e) :
    e.name = name ∧ CanHold .ensemble name :=
  h.ensemble (elim_eq_ok.mp found)

theorem Mirrored.named_sequence {g : Generator α δ} (h : Mirrored g) {name : String}
    {s : Sequence α} (found : g.findSequence name = .ok s) :
    s.name = name ∧ CanHold .sequence name :=
  h.sequence (elim_eq_ok.mp found)

theorem unload_alike (asset : LoadedAsset) :
    Alike (modify (unload asset) : Action α (Generator α δ) PUnit) := by
  refine Alike.modify (fun g => ?_) fun g => ?_
  · unfold unload
    split <;> exact ⟨rfl, rfl, rfl, rfl, rfl⟩
  · change (if g.loaded = some asset then _ else _) = (if _ then _ else _ : Generator α δ).unfiled
    split <;> rfl

theorem clearEnsembleRecord_alike (name : String) :
    Alike (clearEnsembleRecord name : Action α (Generator α δ) Unit) := by
  refine Alike.get_bind (fun _ => rfl) fun g mirrored => ?_
  cases found : g.ensembles.get? name with
  | none => exact Alike.pure ()
  | some e =>
    by_cases sampled : e.isSampled = true
    · obtain ⟨rfl, can⟩ := mirrored.ensemble found
      simp only [sampled, if_true]
      exact note_alike (ensemble_suits e.forget) can
    · simp only [sampled]
      exact Alike.pure ()

theorem clearSequenceRecord_alike (name : String) :
    Alike (clearSequenceRecord name : Action α (Generator α δ) Unit) := by
  have unloaded := unload_alike (α := α) (δ := δ) ⟨name, .sequence⟩
  refine Alike.get_bind (fun _ => rfl) fun g mirrored => ?_
  cases found : g.sequences.get? name with
  | none => exact unloaded
  | some s =>
    by_cases sampled : s.isSampled = true
    · obtain ⟨rfl, can⟩ := mirrored.sequence found
      simp only [sampled, if_true]
      rw [← bind_assoc]
      exact (note_alike (sequence_suits s.forget) can).bind fun _ => unloaded
    · simp only [sampled]
      exact unloaded

theorem invalidateUsers_alike (ensemble : String) :
    Alike (invalidateUsers ensemble : Action α (Generator α δ) Unit) :=
  Alike.get_bind (fun _ => rfl) fun _ _ => Alike.forM fun name _ => clearSequenceRecord_alike name

theorem invalidateEnsemble_alike (name : String) :
    Alike (invalidateEnsemble name : Action α (Generator α δ) Unit) :=
  (clearEnsembleRecord_alike name).bind fun _ => invalidateUsers_alike name

theorem dropStaleRecords_alike [Pulser α δ] :
    Alike (dropStaleRecords : Action α (Generator α δ) Unit) :=
  Alike.get_bind (fun _ => rfl) fun _ _ =>
    (Alike.forM fun name _ => clearEnsembleRecord_alike name).bind fun _ =>
      Alike.forM fun name _ => clearSequenceRecord_alike name

end Records

/-! ### Saving -/

section Saving

variable [Scalar α]

theorem saveBlock_alike {b : Block α} (can : CanHold .block b.name) :
    Alike (saveBlock b : Action α (Generator α δ) Unit) := by
  rw [saveBlock_eq]
  refine Alike.lift_bind fun _ _ => ?_
  refine (file_alike (block_suits b) can).bind fun _ => ?_
  exact Alike.get_bind (fun _ => rfl) fun _ _ =>
    Alike.forM fun name _ => invalidateEnsemble_alike name

theorem saveEnsemble_alike {e : Ensemble α} (can : CanHold .ensemble e.name) :
    Alike (saveEnsemble e : Action α (Generator α δ) Unit) := by
  refine Alike.lift_bind fun _ _ => ?_
  dsimp only
  rw [← bind_assoc]
  exact (file_alike (ensemble_suits e.forget) can).bind fun _ => invalidateUsers_alike e.name

theorem saveSequence_alike {s : Sequence α} (can : CanHold .sequence s.name) :
    Alike (saveSequence s : Action α (Generator α δ) Unit) :=
  Alike.lift_bind fun _ _ => file_alike (sequence_suits s.forget) can

end Saving

/-! ### Compiling -/

section Compiling

variable [Analytic α] [Pulser α δ]

omit [Analytic α] in
theorem writeSingleStep_alike [Scalar α] (name : String) :
    Alike (writeSingleStep name : Action α (Generator α δ) Unit) := by
  refine Alike.get_bind (fun _ => rfl) fun g _ => ?_
  by_cases required : g.limits.sequencer = .required
  · simp only [required, if_true]
    refine Alike.tryCatch (Alike.onDevice _).discard fun f => ?_
    exact (Alike.onDevice _).bind fun _ => Alike.throw f
  · simp only [required, if_false]
    exact Alike.pure ()

theorem sampleEnsemble_alike (name : String) :
    Alike (sampleEnsemble name : Action α (Generator α δ) (Record α)) := by
  refine Alike.get_bind (fun _ => rfl) fun g mirrored => ?_
  refine Alike.lift_bind fun e found => ?_
  obtain ⟨rfl, can⟩ := mirrored.named_ensemble found
  refine (invalidateEnsemble_alike e.name).bind fun _ => ?_
  refine Alike.get_bind (fun _ => rfl) fun cleared _ => ?_
  refine (Alike.onDevice _).bind fun compiled => ?_
  refine (writeSingleStep_alike e.name).bind fun _ => ?_
  dsimp only
  rw [← bind_assoc]
  exact (file_alike (ensemble_suits { e with record := some compiled.2 }) can).bind fun _ =>
    Alike.pure _

omit [Pulser α δ] in
theorem attachRecord_alike (name : String) (record : Record α) :
    Alike (attachRecord name record : Action α (Generator α δ) Unit) := by
  refine Alike.get_bind (fun _ => rfl) fun g mirrored => ?_
  cases found : g.ensembles.get? name with
  | none => exact Alike.pure ()
  | some e =>
    obtain ⟨rfl, can⟩ := mirrored.ensemble found
    exact note_alike (ensemble_suits { e with record := some record }) can

theorem sampleSequence_alike (name : String) :
    Alike (sampleSequence name : Action α (Generator α δ) (Record α)) := by
  refine Alike.get_bind (fun _ => rfl) fun g mirrored => ?_
  refine Alike.lift_bind fun s found => ?_
  obtain ⟨rfl, can⟩ := mirrored.named_sequence found
  refine (clearSequenceRecord_alike s.name).bind fun _ => ?_
  refine (Alike.forM fun n _ => clearEnsembleRecord_alike n).bind fun _ => ?_
  refine Alike.get_bind (fun _ => rfl) fun cleared _ => ?_
  refine (Alike.onDevice _).bind fun compiled => ?_
  refine (Alike.forM fun entry _ => attachRecord_alike entry.1 entry.2).bind fun _ => ?_
  dsimp only
  rw [← bind_assoc]
  exact (file_alike (sequence_suits { s with record := some compiled.1 }) can).bind fun _ =>
    Alike.pure _

end Compiling

/-! ### Everything else -/

section Others

variable [Analytic α] [Pulser α δ]

omit [Pulser α δ] in
theorem applying_alike {β : Type} (act : Action α δ β)
    {keep : β → Generator α δ → PulserSettings α} (blind : ∀ b g, keep b g.unfiled = keep b g) :
    Alike (do
      let b ← onDevice act
      modify fun g => { g with settings := keep b g } : Action α (Generator α δ) Unit) :=
  (Alike.onDevice act).bind fun b => Alike.modify (fun _ => ⟨rfl, rfl, rfl, rfl, rfl⟩) fun g =>
    congrArg (fun settings => { g.unfiled with settings }) (blind b g)

theorem setSettings_alike (request : SettingsRequest α) :
    Alike (setSettings request : Action α (Generator α δ) (PulserSettings α)) := by
  rw [setSettings_eq]
  refine Alike.get_bind (fun _ => rfl) fun g _ => ?_
  refine Alike.lift_bind fun activation _ => ?_
  refine (Alike.option (fun _ => applying_alike _ fun _ _ => rfl) _).bind fun _ => ?_
  refine (Alike.option (fun _ => applying_alike _ fun _ _ => rfl) _).bind fun _ => ?_
  refine (Alike.option (fun _ => applying_alike _ fun _ _ => rfl) _).bind fun _ => ?_
  exact Alike.get_bind (fun _ => rfl) fun _ _ => Alike.pure _

theorem loadAsset_alike (asset : LoadedAsset) :
    Alike (loadAsset asset : Action α (Generator α δ) LoadedAsset) := by
  refine (Alike.onDevice _).bind fun _ => (Alike.onDevice _).bind fun _ => ?_
  exact Alike.bind (Alike.modify (fun _ => ⟨rfl, rfl, rfl, rfl, rfl⟩) fun _ => rfl) fun _ =>
    Alike.pure asset

theorem loadEnsemble_alike (name : String) :
    Alike (loadEnsemble name : Action α (Generator α δ) LoadedAsset) := by
  refine Alike.get_bind (fun _ => rfl) fun g _ => Alike.lift_bind fun e _ => ?_
  by_cases sampled : e.isSampled = true
  · rw [if_pos sampled]
    exact loadAsset_alike _
  · rw [if_neg sampled]
    exact Alike.throw _

theorem loadSequence_alike (name : String) :
    Alike (loadSequence name : Action α (Generator α δ) LoadedAsset) := by
  refine Alike.get_bind (fun _ => rfl) fun g _ => Alike.lift_bind fun s _ => ?_
  by_cases sampled : s.isSampled = true
  · rw [if_pos sampled]
    exact loadAsset_alike _
  · rw [if_neg sampled]
    exact Alike.throw _

theorem deleteWaveform_alike (name : String) :
    Alike (deleteWaveform name : Action α (Generator α δ) (List String)) := by
  have unloading (ensemble : String) : Alike (do
      clearEnsembleRecord ensemble
      modify (unload ⟨ensemble, .ensemble⟩) : Action α (Generator α δ) Unit) :=
    (clearEnsembleRecord_alike ensemble).bind fun _ => unload_alike _
  refine (Alike.onDevice _).bind fun deleted => ?_
  refine Alike.get_bind (fun _ => rfl) fun g _ => ?_
  refine (Alike.forM fun n _ => unloading n).bind fun _ => ?_
  exact (Alike.forM fun n _ => clearSequenceRecord_alike n).bind fun _ => Alike.pure deleted

theorem deleteProgram_alike (name : String) :
    Alike (deleteProgram name : Action α (Generator α δ) (List String)) :=
  (Alike.onDevice _).bind fun deleted =>
    (Alike.forM fun n _ => clearSequenceRecord_alike n).bind fun _ => Alike.pure deleted

theorem clear_alike : Alike (clear : Action α (Generator α δ) Unit) := by
  refine (Alike.onDevice _).bind fun _ => ?_
  refine Alike.get_bind (fun _ => rfl) fun g _ => ?_
  refine (Alike.forM fun n _ => clearEnsembleRecord_alike n).bind fun _ => ?_
  refine Alike.get_bind (fun _ => rfl) fun g _ => ?_
  refine (Alike.forM fun n _ => clearSequenceRecord_alike n).bind fun _ => ?_
  exact Alike.modify (fun _ => ⟨rfl, rfl, rfl, rfl, rfl⟩) fun _ => rfl

omit [Pulser α δ] in
theorem deleteBlock_alike (name : String) :
    Alike (deleteBlock name : Action α (Generator α δ) Unit) := by
  refine Alike.get_bind (fun _ => rfl) fun g mirrored => Alike.lift_bind fun b found => ?_
  exact drop_alike (block_rids name) (mirrored.block (elim_eq_ok.mp found)).2.1

theorem deleteEnsemble_alike (name : String) :
    Alike (deleteEnsemble name : Action α (Generator α δ) Unit) := by
  refine Alike.get_bind (fun _ => rfl) fun g mirrored => Alike.lift_bind fun e found => ?_
  obtain ⟨-, usable, -⟩ := mirrored.named_ensemble found
  refine (Alike.forM fun w _ => (deleteWaveform_alike w).discard).bind fun _ => ?_
  exact drop_alike (ensemble_rids name) usable

theorem deleteSequence_alike (name : String) :
    Alike (deleteSequence name : Action α (Generator α δ) Unit) := by
  refine Alike.get_bind (fun _ => rfl) fun g mirrored => Alike.lift_bind fun s found => ?_
  obtain ⟨-, usable, -⟩ := mirrored.named_sequence found
  have dropped := drop_alike (δ := δ) (sequence_rids (α := α) name) usable
  by_cases sampled : s.isSampled = true
  · rw [if_pos sampled]
    exact (deleteProgram_alike name).bind fun _ => dropped
  · rw [if_neg sampled]
    exact dropped

end Others

/-! ## 4. Runs -/

/-- Files can have the names that the operation brings in. -/
def Operation.Fileable : Operation α → Prop
  | .saveBlock b => CanHold .block b.name
  | .saveEnsemble e => CanHold .ensemble e.name
  | .saveSequence s => CanHold .sequence s.name
  | .generate _ _ _ => False
  | _ => True

section Runs

variable [Analytic α] [Pulser α δ] {g : Generator α δ}

/-- An operation does with files what it does without them. -/
theorem Operation.alike {op : Operation α} (fileable : op.Fileable) :
    Alike (op.run : Action α (Generator α δ) Unit) := by
  cases op with
  | saveBlock b => exact saveBlock_alike fileable
  | saveEnsemble e => exact saveEnsemble_alike fileable
  | saveSequence s => exact saveSequence_alike fileable
  | deleteBlock name => exact deleteBlock_alike name
  | deleteEnsemble name => exact deleteEnsemble_alike name
  | deleteSequence name => exact deleteSequence_alike name
  | setSettings request => exact (setSettings_alike request).discard
  | setGeneration generation =>
    exact Alike.modify (fun _ => ⟨rfl, rfl, rfl, rfl, rfl⟩) fun _ => rfl
  | sampleEnsemble name => exact (sampleEnsemble_alike name).discard
  | sampleSequence name => exact (sampleSequence_alike name).discard
  | loadEnsemble name => exact (loadEnsemble_alike name).discard
  | loadSequence name => exact (loadSequence_alike name).discard
  | deleteWaveform name => exact (deleteWaveform_alike name).discard
  | deleteProgram name => exact (deleteProgram_alike name).discard
  | clear => exact clear_alike
  | setOutput on => exact (Alike.onDevice _).discard
  | generate recipe name params => exact absurd fileable not_false

theorem Operation.after_unfiled (h : Mirrored g) {op : Operation α} (fileable : op.Fileable) :
    op.after g.unfiled = (op.after g).unfiled := by
  obtain ⟨-, same⟩ := op.alike fileable g h
  unfold Operation.after
  cases done : (op.run : Action α (Generator α δ) Unit) g with
  | ok b g' =>
    rw [done] at same
    rw [after_of_ok done, after_of_ok same]
  | error f g' =>
    rw [done] at same
    rw [after_of_error done, after_of_error same]

/-- A run with files is a run without. -/
theorem afterAll_unfiled (h : Mirrored g) {ops : List (Operation α)}
    (fileable : ∀ op ∈ ops, op.Fileable) :
    afterAll ops g.unfiled = (afterAll ops g).unfiled := by
  induction ops generalizing g with
  | nil => rfl
  | cons op rest ih =>
    have first : op.Fileable := fileable op List.mem_cons_self
    change afterAll rest (op.after g.unfiled) = (afterAll rest (op.after g)).unfiled
    rw [op.after_unfiled h first]
    exact ih (op.alike first g h).1 fun op member => fileable op (List.mem_cons_of_mem _ member)

end Runs

end PulseBench.Generator
