import Mathlib
import PulseBench.Proofs.Generator.Run
import PulseBench.Proofs.Generator.Unfiled

/-!
# Opening a directory again

A generator that is started on a directory holds what it finds there, but for the records of
waveforms and programs that its device does not have. From then on files mirror memory, whatever
is done and whatever fails, so the next start finds there what was held.

Results:
1. `dropStaleRecords_mirrored`: what is dropped at the start.
2. `start_mirrored`, `Mirrored.afterAll`: from the start on, files mirror memory.
3. `store_mirrors_memory`: what is loaded from the directory is what is held. As an example, a
   session with a call that fails, and the one behind it.
-/

namespace PulseBench.Generator

variable {α δ : Type}

open PulseBench.Action (Moves after_of_ok bind_of_ok)
open Store (CanHold Mirrors Written)

/-! ## 1. Stale records -/

section Stale

variable [Pulser α δ]

/-- Whether nothing of a name is on a device, neither a waveform nor a program. -/
def isGone (device : δ) (asset : String) : Bool :=
  !(Pulser.waveformNames device ++ Pulser.sequenceNames device).contains asset

/-- Whether the record of an ensemble speaks of something that is gone. -/
def isStaleEnsemble (device : δ) (e : Ensemble α) : Bool := mentions e.record (isGone device)

def isStaleSequence (device : δ) (s : Sequence α) : Bool :=
  mentions s.record (isGone device) || (s.isSampled && isGone device s.name)

/-- Without files this succeeds. If objects bear the names they are held under, then the records
that speak of something gone are dropped, and no others. -/
theorem dropStaleRecords_ok [Scalar α] {g : Generator α δ} (memory : g.store = none)
    (namedEnsembles : ∀ n e, g.ensembles.get? n = some e → e.name = n)
    (namedSequences : ∀ n s, g.sequences.get? n = some s → s.name = n) :
    ∃ g', (dropStaleRecords : Action α (Generator α δ) Unit) g = .ok ⟨⟩ g' ∧
      g'.blocks = g.blocks ∧
      (∀ n, g'.ensembles.get? n = (g.ensembles.get? n).map fun e =>
        if isStaleEnsemble g.device e then e.forget else e) ∧
      ∀ n, g'.sequences.get? n = (g.sequences.get? n).map fun s =>
        if isStaleSequence g.device s then s.forget else s := by
  obtain ⟨middle, first, forgets⟩ := forM_clearEnsembleRecord_ok memory
    (g.ensemblesWhere (isStaleEnsemble g.device))
  obtain ⟨last, second, forgets'⟩ := forM_clearSequenceRecord_ok
    (forgets.store.trans memory) (g.sequencesWhere (isStaleSequence g.device))
  have all : Forgets (· ∈ g.ensemblesWhere (isStaleEnsemble g.device))
      (· ∈ g.sequencesWhere (isStaleSequence g.device)) g last :=
    (forgets.trans forgets').congr (fun _ => or_iff_left id) fun _ => or_iff_right id
  exact ⟨last, (bind_of_ok first).trans second, all.blocks, all.get?_ensembles namedEnsembles,
    all.get?_sequences namedSequences⟩

/-- The records that speak of something gone are dropped, and nothing else happens. -/
theorem dropStaleRecords_mirrored [Scalar α] {g : Generator α δ} (h : Mirrored g) :
    ∃ g', (dropStaleRecords : Action α (Generator α δ) Unit) g = .ok ⟨⟩ g' ∧ Mirrored g' ∧
      g'.blocks = g.blocks ∧
      (∀ n, g'.ensembles.get? n = (g.ensembles.get? n).map fun e =>
        if isStaleEnsemble g.device e then e.forget else e) ∧
      ∀ n, g'.sequences.get? n = (g.sequences.get? n).map fun s =>
        if isStaleSequence g.device s then s.forget else s := by
  -- Without files it can not fail, so it does not fail with them.
  obtain ⟨last, without, objects⟩ := dropStaleRecords_ok (g := g.unfiled) rfl
    (fun n e found => (h.ensemble found).1) fun n s found => (h.sequence found).1
  obtain ⟨behind, same⟩ := dropStaleRecords_alike g h
  rw [without] at same
  cases done : (dropStaleRecords : Action α (Generator α δ) Unit) g with
  | error f g' =>
    rw [done] at same
    cases same
  | ok _ g' =>
    rw [done] at same
    rw [after_of_ok done] at behind
    obtain rfl : last = g'.unfiled := by
      cases same
      rfl
    exact ⟨g', rfl, behind, objects⟩

end Stale

/-! ## 2. From the start on -/

section Run

variable {δ' : Type} [Analytic α] [Pulser α δ] [Pulser α δ'] {options : GeneratorOptions α}
  {store : Store α} {g : Generator α δ}

/-- A generator that opens a directory holds what is there, but for the records of what is not on
its device. -/
theorem start_mirrored (stored : options.store = some store)
    (mirrors : Mirrors store store.loadAll store.loadAll store.loadAll)
    {recipes : Selection α (RecipeRule α)}
    (chosen : Selection.ofRegistry (Recipe.registry options.recipeRoots) firstRecipe = .ok recipes)
    (device : δ) :
    ∃ g, start options device = .ok g ∧ Mirrored g ∧ g.blocks = store.loadAll ∧
      (∀ n, g.ensembles.get? n = ((store.loadAll : Roster (Ensemble α)).get? n).map fun e =>
        if isStaleEnsemble device e then e.forget else e) ∧
      ∀ n, g.sequences.get? n = ((store.loadAll : Roster (Sequence α)).get? n).map fun s =>
        if isStaleSequence device s then s.forget else s := by
  have loaded {β : Type} [Storable α β] :
      (options.store.map Store.loadAll).getD (∅ : Roster β) = store.loadAll := by
    rw [stored]
    rfl
  have opened : Mirrored (opened options recipes device) := by
    refine ⟨store, stored, ?_⟩
    change Mirrors store ((options.store.map Store.loadAll).getD ∅)
      ((options.store.map Store.loadAll).getD ∅) ((options.store.map Store.loadAll).getD ∅)
    rw [loaded, loaded, loaded]
    exact mirrors
  obtain ⟨g, dropped, mirrored, blocks, ensembles, sequences⟩ := dropStaleRecords_mirrored opened
  refine ⟨g, start_ok_iff.mpr ⟨recipes, chosen, dropped⟩, mirrored, blocks.trans loaded, ?_, ?_⟩
  · intro n
    rw [ensembles, ← loaded]
    rfl
  · intro n
    rw [sequences, ← loaded]
    rfl

/-- So it does if only the store wrote to the directory. -/
theorem mirrored_of_started {device : δ} (stored : options.store = some store)
    (written : Written store) (started : start options device = .ok g) : Mirrored g := by
  obtain ⟨recipes, chosen, -⟩ := start_ok_iff.mp started
  obtain ⟨g', same, mirrored, -⟩ := start_mirrored stored written.mirrors_loadAll chosen device
  obtain rfl : g' = g := Except.ok.inj (same.symm.trans started)
  exact mirrored

/-- Every operation changes objects and files alike. -/
theorem Mirrored.afterAll (h : Mirrored g) (ops : List (Operation α)) :
    Mirrored (afterAll ops g) := by
  induction ops generalizing g with
  | nil => exact h
  | cons op rest ih =>
    refine ih (mirrored_filing.operation .all op (fun on same => ?_) g h)
    subst same
    exact Moves.bind mirrored_filing.trans (mirrored_filing.onDevice fun _ => trivial) fun _ =>
      mirrored_filing.refl

/-! ## 3. The law -/

/-- The directory mirrors memory. It held only what the store wrote before the generator was
started, whatever the device. Behind any operations, successful or not, if files can hold the
numbers of all objects, loading the directory gives exactly the blocks, ensembles and sequences
in memory, with their records. So a generator that is started there later, on whatever device,
holds the same blocks, ensembles and sequences. It drops the records of what is not on its
device, and no others. -/
theorem store_mirrors_memory {device : δ} (stored : options.store = some store)
    (written : Written store) (started : start options device = .ok g) (ops : List (Operation α))
    (fits : Store.fits (afterAll ops g).blocks (afterAll ops g).ensembles
      (afterAll ops g).sequences = true) (other : δ') :
    let held := Generator.afterAll ops g
    ∃ (s : Store α) (reopened : Generator α δ'), held.store = some s ∧
      (∀ n, (s.loadAll : Roster (Block α)).get? n = held.blocks.get? n) ∧
      (∀ n, (s.loadAll : Roster (Ensemble α)).get? n = held.ensembles.get? n) ∧
      (∀ n, (s.loadAll : Roster (Sequence α)).get? n = held.sequences.get? n) ∧
      start { options with store := some s } other = .ok reopened ∧
      (∀ n, reopened.blocks.get? n = held.blocks.get? n) ∧
      (∀ n, reopened.ensembles.get? n = (held.ensembles.get? n).map fun e =>
        if isStaleEnsemble other e then e.forget else e) ∧
      ∀ n, reopened.sequences.get? n = (held.sequences.get? n).map fun q =>
        if isStaleSequence other q then q.forget else q := by
  intro held
  obtain ⟨recipes, chosen, -⟩ := start_ok_iff.mp started
  obtain ⟨s, stored', mirrors⟩ : Mirrored held :=
    (mirrored_of_started stored written started).afterAll ops
  obtain ⟨blocks, ensembles, sequences⟩ := mirrors.get?_loadAll fits
  have again : ({ options with store := some s } : GeneratorOptions α).store = some s := rfl
  obtain ⟨reopened, opened, -, sameBlocks, sameEnsembles, sameSequences⟩ :=
    start_mirrored again (mirrors.congr blocks ensembles sequences) chosen other
  refine ⟨s, reopened, stored', blocks, ensembles, sequences, opened, fun n => ?_, fun n => ?_,
    fun n => ?_⟩
  · rw [sameBlocks, blocks]
  · rw [sameEnsembles, ensembles]
  · rw [sameSequences, sequences]

end Run

/-! ### A session and the next one -/

def storing (store : Store ℚ) : GeneratorOptions ℚ := { GeneratorOptions.default with store }

/-- A device that takes waveforms, but no programs. -/
def programless : FaultyPulser (MemoryPulser ℚ) :=
  .under { FaultPlan.none with fails := fun call _ => decide (call = .writeSequence) }
    (.fresh benchLimits)

/-- One ensemble is compiled, a sequence that plays another one is not, and the block that both
play is deleted. -/
def interrupted : List (Operation ℚ) :=
  [.saveBlock (level "flat" (1 / 2)), .saveEnsemble (playing "pulse" "flat"),
    .saveEnsemble (playing "echo" "flat"), .saveSequence (stepping "train" "echo" false),
    .sampleEnsemble "pulse", .sampleSequence "train", .deleteBlock "flat"]

/-- What is held then. -/
def holdsPulse (g : Generator ℚ (FaultyPulser (MemoryPulser ℚ))) : Bool :=
  Store.fits g.blocks g.ensembles g.sequences && (g.blocks.get? "flat").isNone &&
    (g.ensembles.get? "pulse").any (fun e => e.isSampled && !isStaleEnsemble g.device e) &&
    (g.ensembles.get? "echo").any (fun e => !e.isSampled) &&
    (g.sequences.get? "train").any fun s => !s.isSampled

theorem holdsPulse_unfiled (g : Generator ℚ (FaultyPulser (MemoryPulser ℚ))) :
    holdsPulse g.unfiled = holdsPulse g := rfl

theorem interrupted_fileable : ∀ op ∈ interrupted, op.Fileable := by
  have flat : CanHold .block "flat" := ⟨by cbv, by cbv⟩
  have pulse : CanHold .ensemble "pulse" := ⟨by cbv, by cbv⟩
  have echo : CanHold .ensemble "echo" := ⟨by cbv, by cbv⟩
  have train : CanHold .sequence "train" := ⟨by cbv, by cbv⟩
  simp only [interrupted, List.forall_mem_cons]
  exact ⟨flat, pulse, echo, train, trivial, trivial, trivial, List.forall_mem_nil _⟩

/-- The next session, on the same device, finds no block, one ensemble with its record, and neither
the other nor the sequence with one. -/
theorem store_mirrors_memory_of_interrupted :
    ∃ (g reopened : Generator ℚ (FaultyPulser (MemoryPulser ℚ))) (s : Store ℚ),
      start (storing Store.empty) programless = .ok g ∧
      (afterAll interrupted g).store = some s ∧
      start (storing s) (afterAll interrupted g).device = .ok reopened ∧
      reopened.blocks.get? "flat" = none ∧
      (reopened.ensembles.get? "pulse").map Ensemble.isSampled = some true ∧
      (reopened.ensembles.get? "echo").map Ensemble.isSampled = some false ∧
      (reopened.sequences.get? "train").map Sequence.isSampled = some false := by
  have evaluated : (start (storing Store.empty) programless).toOption.any
      (fun g => holdsPulse (afterAll interrupted g.unfiled)) = true := by
    decide +kernel
  obtain ⟨g, started, held⟩ : ∃ g, start (storing Store.empty) programless = .ok g ∧
      holdsPulse (afterAll interrupted g.unfiled) = true := by
    generalize start (storing Store.empty) programless = outcome at evaluated
    cases outcome with
    | ok g =>
      rw [Except.toOption, Option.any_some] at evaluated
      exact ⟨g, rfl, evaluated⟩
    | error f => cases evaluated
  rw [afterAll_unfiled (mirrored_of_started rfl .empty started) interrupted_fileable,
    holdsPulse_unfiled] at held
  simp only [holdsPulse, Bool.and_eq_true, Option.isNone_iff_eq_none, Option.any_eq_true,
    Bool.not_eq_true'] at held
  obtain ⟨⟨⟨⟨fits, gone⟩, e, pulse, sampled, fresh⟩, e', echo, unsampled⟩, q, train,
    unsampled'⟩ := held
  obtain ⟨s, reopened, stored, -, -, -, opened, blocks, ensembles, sequences⟩ :=
    store_mirrors_memory rfl .empty started interrupted fits (afterAll interrupted g).device
  refine ⟨g, reopened, s, started, stored, opened, (blocks "flat").trans gone, ?_, ?_, ?_⟩
  · rw [ensembles, pulse]
    simp [fresh, sampled]
  · rw [ensembles, echo, Option.map_some, Option.map_some]
    split
    · rfl
    · rw [unsampled]
  · rw [sequences, train, Option.map_some, Option.map_some]
    split
    · rfl
    · rw [unsampled']

end PulseBench.Generator
