import PulseBench.Proofs.Compile.Playback
import PulseBench.Proofs.Generator.Saved
import PulseBench.Proofs.Plugin.Selection
import PulseBench.Proofs.Recipe.Every

/-!
# Playing what recipes made

A recipe makes its blocks as a list, and its ensemble is made for the blocks of that
list. But they are stored by name, and the ensemble is played from what is stored. So
the playback is that of the list where the names are different, and the last block of a
name takes the place of the others where they are not.

The caller chooses the name of one block, and the other is always called `sync_trigger`.
Nothing refuses this name: a recipe that is given it makes two blocks of the same name,
and what is stored is the trigger alone, played in place of the block.

Results:
1. `Generated.save_programs`: what is stored of all that was made.
2. `generate_ok`: a recipe that succeeds stores what it made.
3. `Ensemble.played_eq_playedFrom`: blocks of different names are played as they were made.
4. `generated_plays_own`: when the playback is that of the recipe.
-/

namespace PulseBench

variable {α δ : Type}

/-! ## 1. What is stored -/

namespace Generator

open PulseBench.Action (Moves Same bind_ok_iff lift_bind_ok_iff)

variable [Scalar α] {g g' : Generator α δ}

/-- What is played of a generator. -/
def programs (g : Generator α δ) : Roster (Block α) × Roster (Ensemble α) := (g.blocks, g.ensembles)

omit [Scalar α] in
theorem persist_programs {β : Type} [Storable α β] (object : β) :
    Moves (Same programs) (persist object : Action α (Generator α δ) Unit) :=
  persist_moves (fun _ _ => rfl) object

theorem clearSequenceRecord_programs (name : String) :
    Moves (Same programs) (clearSequenceRecord name : Action α (Generator α δ) Unit) :=
  clearSequenceRecord_moves (Same.refl programs) (Same.trans programs) (fun _ => rfl) name
    fun _ _ _ => noteSequence_after (Same.trans programs) (fun _ _ => rfl) rfl

theorem invalidateUsers_programs (ensemble : String) :
    Moves (Same programs) (invalidateUsers ensemble : Action α (Generator α δ) Unit) :=
  invalidateUsers_moves (Same.refl programs) (Same.trans programs) clearSequenceRecord_programs
    ensemble

/-- Dropping the records of an ensemble keeps the blocks at least. -/
theorem invalidateEnsemble_blocks (name : String) :
    Moves (Same blocks) (invalidateEnsemble name : Action α (Generator α δ) Unit) := by
  refine Moves.bind (Same.trans blocks) ?_ fun _ g =>
    congrArg Prod.fst (invalidateUsers_programs name g)
  exact clearEnsembleRecord_moves (Same.refl blocks) name fun _ _ _ =>
    noteEnsemble_after (Same.trans blocks) (fun _ _ => rfl) rfl

theorem saveBlock_blocks {b : Block α} (saved : saveBlock b g = .ok ⟨⟩ g') :
    g'.blocks = g.blocks.insert b.name b := by
  rw [saveBlock_eq] at saved
  obtain ⟨_, -, saved⟩ := lift_bind_ok_iff.mp saved
  obtain ⟨_, filed, ran, saved⟩ := bind_ok_iff.mp saved
  obtain ⟨_, written, persisted, ⟨⟩⟩ := bind_ok_iff.mp ran
  have kept : written.blocks = g.blocks := congrArg Prod.fst ((persist_programs b).of_ok persisted)
  have invalidated (names : List String) :
      Moves (Same blocks) (names.forM invalidateEnsemble : Action α (Generator α δ) PUnit) :=
    Moves.forM (Same.refl blocks) (Same.trans blocks) fun name _ => invalidateEnsemble_blocks name
  have dropped : g'.blocks = written.blocks.insert b.name b := (invalidated _).of_ok saved
  rw [dropped, kept]

theorem saveEnsemble_programs {e : Ensemble α} (saved : saveEnsemble e g = .ok ⟨⟩ g') :
    g'.blocks = g.blocks ∧ g'.ensembles = g.ensembles.insert e.name e.forget := by
  obtain ⟨_, -, saved⟩ := lift_bind_ok_iff.mp saved
  obtain ⟨_, written, persisted, saved⟩ := bind_ok_iff.mp saved
  obtain ⟨keptBlocks, keptEnsembles⟩ := Prod.mk.inj ((persist_programs e.forget).of_ok persisted)
  obtain ⟨blocks, ensembles⟩ := Prod.mk.inj ((invalidateUsers_programs e.name).of_ok saved)
  exact ⟨blocks.trans keptBlocks,
    ensembles.trans (congrArg (·.insert e.name e.forget) keptEnsembles)⟩

theorem saveSequence_programs (s : Sequence α) :
    Moves (Same programs) (saveSequence s : Action α (Generator α δ) Unit) :=
  Moves.bind (Same.trans programs) (Moves.lift (Same.refl programs) _) fun _ =>
    Moves.bind (Same.trans programs) (persist_programs s.forget) fun _ => Moves.modify fun _ => rfl

theorem forM_saveBlock_blocks {bs : List (Block α)} (saved : bs.forM saveBlock g = .ok ⟨⟩ g') :
    g'.blocks = g.blocks.insertAll Block.name bs := by
  induction bs generalizing g with
  | nil =>
    cases saved
    rfl
  | cons b rest ih =>
    obtain ⟨_, middle, first, others⟩ := bind_ok_iff.mp saved
    rw [ih others, saveBlock_blocks first]
    rfl

theorem forM_saveEnsemble_programs {es : List (Ensemble α)}
    (saved : es.forM saveEnsemble g = .ok ⟨⟩ g') :
    g'.blocks = g.blocks ∧
      g'.ensembles = g.ensembles.insertAll Ensemble.name (es.map Ensemble.forget) := by
  induction es generalizing g with
  | nil =>
    cases saved
    exact ⟨rfl, rfl⟩
  | cons e rest ih =>
    obtain ⟨_, middle, first, others⟩ := bind_ok_iff.mp saved
    obtain ⟨blocks, ensembles⟩ := ih others
    obtain ⟨kept, inserted⟩ := saveEnsemble_programs first
    refine ⟨blocks.trans kept, ?_⟩
    rw [ensembles, inserted]
    rfl

end Generator

open Generator in
/-- What is stored of all that was made. Ensembles that were there before may have lost their
records. -/
theorem Generated.save_programs [Scalar α] {made : Generated α} {g g' : Generator α δ}
    (saved : made.save g = .ok ⟨⟩ g') :
    g'.blocks = g.blocks.insertAll Block.name made.blocks ∧ ∃ before : Roster (Ensemble α),
      g'.ensembles = before.insertAll Ensemble.name (made.ensembles.map Ensemble.forget) := by
  obtain ⟨_, a, blocks, saved⟩ := Action.bind_ok_iff.mp saved
  obtain ⟨_, b, ensembles, sequences⟩ := Action.bind_ok_iff.mp saved
  have first := forM_saveBlock_blocks blocks
  have second := forM_saveEnsemble_programs ensembles
  obtain ⟨keptBlocks, keptEnsembles⟩ := Prod.mk.inj ((Action.Moves.forM (Action.Same.refl programs)
    (Action.Same.trans programs) fun s _ => saveSequence_programs s).of_ok sequences)
  exact ⟨keptBlocks.trans (second.1.trans first), a.ensembles, keptEnsembles.trans second.2⟩

/-! ## 2. What was made -/

namespace Generator

open PulseBench.Action (bind_ok_iff lift_bind_ok_iff)

variable [Scalar α] {g g' : Generator α δ} {recipe name : String} {params : ParamSet α}

/-- A recipe makes its objects of accepted parameters. -/
theorem makes_ok {made : Generated α} (makes : g.makes recipe name params = .ok made) :
    ∃ m given resolved, g.recipes.registry.find recipe = .ok m ∧
      m.schema.resolve given = .ok resolved ∧
      m.rule ⟨g.settings, g.generation⟩ name resolved = .ok made := by
  unfold Generator.makes at makes
  split at makes
  · cases makes
  · rename_i resolved recipes chose
    obtain ⟨m, given, found, method, accepted⟩ :=
      Selection.setParameters_selects (Roster.get?_insert_self _ _ _) chose
    obtain ⟨known, same, makes⟩ := bind_eq_ok.mp makes
    cases method.symm.trans same
    exact ⟨m, given, resolved, found, accepted, makes⟩

/-- A recipe that succeeds stores what it made. -/
theorem generate_ok {names : List String} (done : generate recipe name params g = .ok names g') :
    ∃ made recipes, g.makes recipe name params = .ok made ∧
      made.save { g with recipes } = .ok ⟨⟩ g' ∧
      names = made.ensembles.map Ensemble.name ++ made.sequences.map Sequence.name := by
  obtain ⟨resolved, chosen, selected, done⟩ := bind_ok_iff.mp done
  unfold onRecipes at selected
  split at selected
  · rename_i own recipes chose
    cases selected
    replace done : (Action.lift recipes.method >>= _) _ = _ := done
    obtain ⟨m, method, done⟩ := lift_bind_ok_iff.mp done
    obtain ⟨made, makes, done⟩ := lift_bind_ok_iff.mp done
    obtain ⟨_, a, blocks, done⟩ := bind_ok_iff.mp done
    obtain ⟨_, b, ensembles, done⟩ := bind_ok_iff.mp done
    obtain ⟨_, c, sequences, ⟨⟩⟩ := bind_ok_iff.mp done
    refine ⟨made, recipes, ?_, ?_, rfl⟩
    · rw [Generator.makes, chose]
      exact bind_eq_ok.mpr ⟨m, method, makes⟩
    · exact bind_ok_iff.mpr ⟨_, a, blocks, bind_ok_iff.mpr ⟨_, b, ensembles, sequences⟩⟩
  · cases selected

end Generator

/-! ## 3. Playback of one's own blocks -/

namespace Ensemble

/-- What an ensemble plays that has its blocks at hand, one for each entry of its list. -/
def playedFrom (e : Ensemble α) (blocks : List (Block α)) :
    Except (Failure α) (List (Played α)) := do
  let plays ← (e.plays.zip blocks).mapM fun entry =>
    e.play (.ofNamed Block.name [entry.2]) entry.1.1 entry.1.2
  return plays.flatten

theorem get?_ofNamed_singleton (b : Block α) :
    (Roster.ofNamed Block.name [b]).get? b.name = some b :=
  Roster.get?_insert_self _ b.name b

theorem mapM_play_eq (e : Ensemble α) {store : Roster (Block α)} {blocks : List (Block α)}
    (found : ∀ b ∈ blocks, store.get? b.name = some b) {plays : List (String × Nat)}
    (own : plays.map Prod.fst = blocks.map Block.name) :
    plays.mapM (fun entry => e.play store entry.1 entry.2) =
      (plays.zip blocks).mapM fun entry =>
        e.play (.ofNamed Block.name [entry.2]) entry.1.1 entry.1.2 := by
  induction blocks generalizing plays with
  | nil =>
    rw [List.map_eq_nil_iff.mp own]
    rfl
  | cons b rest ih =>
    obtain ⟨entry, others, rfl, named, behind⟩ := List.map_eq_cons_iff.mp own
    have first : e.play store entry.1 entry.2 =
        e.play (.ofNamed Block.name [b]) entry.1 entry.2 := by
      refine play_congr ?_ entry.2
      rw [named, found b List.mem_cons_self, get?_ofNamed_singleton]
    rw [List.zip_cons_cons, List.mapM_cons, List.mapM_cons, first,
      ih (fun d member => found d (List.mem_cons_of_mem _ member)) behind]

/-- Blocks that are stored under their names are played. -/
theorem played_eq_playedFrom {e : Ensemble α} {blocks : List (Block α)}
    (own : e.plays.map Prod.fst = blocks.map Block.name) {store : Roster (Block α)}
    (found : ∀ b ∈ blocks, store.get? b.name = some b) :
    e.played store = e.playedFrom blocks := by
  unfold played playedFrom
  rw [← e.mapM_play_eq found own]

/-- A block that is played at all is played as often as it says. -/
theorem play_ofNamed_singleton (e : Ensemble α) (b : Block α) {repetitions : Nat}
    (positive : 0 < repetitions) : e.play (.ofNamed Block.name [b]) b.name repetitions =
      match b.inconsistentElement? with
      | some index => .error (.program (.mixedElement index b.name))
      | none => .ok (b.played repetitions) := by
  unfold play
  rw [get?_ofNamed_singleton]
  exact if_neg positive.ne'

end Ensemble

/-! ## 4. Playback of recipes -/

theorem Block.inconsistentElement?_eq_none {b : Block α} {channels : NameSet}
    (same : ∀ e ∈ b.elements, e.channels = channels) : b.inconsistentElement? = none := by
  refine List.findIdx?_eq_none_iff.mpr fun e member => ?_
  have own : b.channels = channels := by
    unfold Block.channels
    cases elements : b.elements with
    | nil => rw [elements] at member; cases member
    | cons first rest => exact same first (elements ▸ List.mem_cons_self)
  rw [same e member, own, bne_self_eq_false]

namespace RecipeContext

variable [Scalar α] (c : RecipeContext α) {name : String} {block : Block α} {repetitions : Nat}
  {e : Ensemble α}

/-- There is a trigger, and it has this name. -/
def NamesTrigger (name : String) : Prop :=
  c.generation.syncChannel.isSome = true ∧ name = "sync_trigger"

/-- The block of a recipe, and then the trigger. -/
def ownPlayback (block : Block α) (repetitions : Nat) : List (Played α) :=
  block.played repetitions ++ c.triggers.flatMap (Block.played · 1)

variable {c}

theorem triggers_cases (c : RecipeContext α) :
    c.triggers = [] ∨ ∃ channel, c.triggers = [c.syncBlock channel] := by
  unfold triggers
  cases c.generation.syncChannel with
  | none => exact Or.inl rfl
  | some channel => exact Or.inr ⟨channel, rfl⟩

theorem namesTrigger_iff : c.NamesTrigger name ↔ ∃ trigger ∈ c.triggers, trigger.name = name := by
  unfold NamesTrigger triggers
  cases c.generation.syncChannel with
  | none => simp
  | some channel =>
    simp only [Option.isSome_some, true_and, Option.map_some, Option.toList_some,
      List.mem_singleton, exists_eq_left]
    exact eq_comm

theorem inconsistentElement?_of_mem {trigger : Block α} (member : trigger ∈ c.triggers) :
    trigger.inconsistentElement? = none := by
  rcases c.triggers_cases with none | ⟨channel, single⟩
  · rw [none] at member
    cases member
  · rw [single] at member
    obtain rfl := List.mem_singleton.mp member
    exact Block.inconsistentElement?_eq_none (List.forall_mem_singleton.mpr rfl)

theorem playedFrom_triggers
    (plays : e.plays = (block.name, repetitions) :: c.triggers.map fun b => (b.name, 1))
    (positive : 0 < repetitions) :
    e.playedFrom (block :: c.triggers) = match block.inconsistentElement? with
      | some index => .error (.program (.mixedElement index block.name))
      | none => .ok (c.ownPlayback block repetitions) := by
  have first := e.play_ofNamed_singleton block positive
  unfold Ensemble.playedFrom ownPlayback
  rw [plays, List.zip_cons_cons, List.mapM_cons, first]
  cases block.inconsistentElement? with
  | some index => rfl
  | none =>
    rcases c.triggers_cases with none | ⟨channel, single⟩
    · rw [none]
      rfl
    · have second := e.play_ofNamed_singleton (c.syncBlock channel) Nat.one_pos
      rw [inconsistentElement?_of_mem (single ▸ List.mem_singleton_self _)] at second
      rw [single, List.map_singleton, List.zip_cons_cons, List.mapM_cons, second]
      rfl

/-- Different names are stored side by side. -/
theorem nodup_names (named : block.name = name) (other : ¬ c.NamesTrigger name) :
    ((block :: c.triggers).map Block.name).Nodup := by
  refine List.nodup_cons.mpr ⟨fun member => ?_, ?_⟩
  · obtain ⟨trigger, member, same⟩ := List.mem_map.mp member
    exact other (namesTrigger_iff.mpr ⟨trigger, member, same.trans named⟩)
  · rcases c.triggers_cases with none | ⟨channel, single⟩
    · rw [none]
      exact List.nodup_nil
    · rw [single]
      exact List.nodup_singleton _

/-- The trigger is stored last. -/
theorem get?_trigger {trigger : Block α} (member : trigger ∈ c.triggers)
    (store : Roster (Block α)) :
    (store.insertAll Block.name (block :: c.triggers)).get? trigger.name = some trigger := by
  rcases c.triggers_cases with none | ⟨channel, single⟩
  · rw [none] at member
    cases member
  · rw [single] at member ⊢
    obtain rfl := List.mem_singleton.mp member
    exact Roster.get?_insert_self _ _ _

omit [Scalar α] in
/-- A block with an element that is not in the trigger is not played like the trigger. -/
theorem played_ne {trigger : Block α}
    (distinct : ∃ e ∈ block.elements, e ∉ trigger.elements) (positive : 0 < repetitions) :
    block.played repetitions ≠ trigger.played repetitions := by
  intro same
  obtain ⟨e, own, other⟩ := distinct
  have played : Played.mk e 0 ∈ block.played repetitions :=
    List.mem_flatMap.mpr ⟨0, List.mem_range.mpr positive, List.mem_map_of_mem own⟩
  rw [same] at played
  obtain ⟨repetition, -, member⟩ := List.mem_flatMap.mp played
  obtain ⟨e', played, equal⟩ := List.mem_map.mp member
  cases equal
  exact other played

end RecipeContext

namespace Generator

open PulseBench.Action (Moves Same)

/-- What is stored of a recipe: an ensemble that plays what was made for it, unless the name is that
of the trigger. Then the trigger is played in place of the block. -/
structure Stores [Scalar α] (c : RecipeContext α) (name : String) (made : Generated α)
    (block : Block α) (repetitions : Nat) (e : Ensemble α) (store : Roster (Block α)) : Prop where
  blocks : made.blocks = block :: c.triggers
  ensembles : made.ensembles = [e]
  named : block.name = name
  plays : e.plays = (name, repetitions) :: c.triggers.map fun b => (b.name, 1)
  own : (∀ n ∈ c.settings.active.names, Channel.isAnalog n = true ∨ Channel.isDigital n = true) →
    e.playedFrom made.blocks = .ok (c.ownPlayback block repetitions)
  faithful : e.played store = e.playedFrom made.blocks ↔ ¬ c.NamesTrigger name
  replaced : ∀ trigger ∈ c.triggers, trigger.name = name →
    e.played store = .ok (c.ownPlayback trigger repetitions)

theorem stores_finished [Scalar α] {c : RecipeContext α} (name : String)
    {elements : List (Element α)} {repetitions : Nat} (rotating : Bool) (readout : Readout α)
    (positive : 0 < repetitions) (makes : Recipe.Makes c elements)
    (checked : c.checkChannels = .ok ()) (store : Roster (Block α)) :
    ∃ e, Stores c name (c.finished name ⟨name, elements⟩ repetitions rotating readout)
      ⟨name, elements⟩ repetitions e
      (store.insertAll Block.name (⟨name, elements⟩ :: c.triggers)) := by
  let e : Ensemble α := ⟨name, (name, repetitions) :: c.triggers.map fun b => (b.name, 1), rotating,
    some readout, none⟩
  let block : Block α := ⟨name, elements⟩
  have own : e.playedFrom (block :: c.triggers) = match block.inconsistentElement? with
      | some index => .error (.program (.mixedElement index block.name))
      | none => .ok (c.ownPlayback block repetitions) :=
    RecipeContext.playedFrom_triggers rfl positive
  -- With the name of the trigger, the trigger is found under both names.
  have replaced : ∀ trigger ∈ c.triggers, trigger.name = name →
      e.played (store.insertAll Block.name (block :: c.triggers)) =
        .ok (c.ownPlayback trigger repetitions) := by
    intro trigger member named
    have found : ∀ b ∈ trigger :: c.triggers,
        (store.insertAll Block.name (block :: c.triggers)).get? b.name = some b := by
      refine List.forall_mem_cons.mpr ⟨?_, ?_⟩
      · exact RecipeContext.get?_trigger member store
      · exact fun b member => RecipeContext.get?_trigger member store
    have plays : e.plays = (trigger.name, repetitions) :: c.triggers.map fun b => (b.name, 1) := by
      rw [named]
    have names : e.plays.map Prod.fst = (trigger :: c.triggers).map Block.name := by
      simp [plays, Function.comp_def]
    rw [Ensemble.played_eq_playedFrom names found,
      RecipeContext.playedFrom_triggers plays positive,
      RecipeContext.inconsistentElement?_of_mem member]
  refine ⟨e, rfl, rfl, rfl, rfl, fun kinds => ?_, ⟨?_, fun other => ?_⟩, replaced⟩
  · have ready : c.Ready := ⟨kinds, RecipeContext.active_of_checkChannels checked⟩
    have consistent : block.inconsistentElement? = none :=
      Block.inconsistentElement?_eq_none (makes.spans ready)
    rw [consistent] at own
    exact own
  · intro faithful other
    obtain ⟨trigger, member, named⟩ := RecipeContext.namesTrigger_iff.mp other
    have same := (replaced trigger member named).symm.trans (faithful.trans own)
    split at same
    · cases same
    · have distinct : ∃ e ∈ block.elements, e ∉ trigger.elements := by
        obtain ⟨channel, -, rfl⟩ := Option.map_eq_some_iff.mp (Option.mem_toList.mp member)
        exact makes.distinct channel
      exact RecipeContext.played_ne distinct positive
        (List.append_cancel_right (Except.ok.inj same)).symm
  · refine Ensemble.played_eq_playedFrom ?_ ?_
    · simp [e, RecipeContext.finished, Function.comp_def]
    · exact Roster.get?_insertAll (RecipeContext.nodup_names rfl other) store

/-- Whatever recipe succeeds on whatever generator, under whatever name: the stored ensemble plays
what was made for it, unless it has the name of a trigger. -/
theorem generated_plays_own [Scalar α] [Scalar.Lawful α] {extra : List String}
    {g g' : Generator α δ} (roots : g.recipes.registry = Recipe.registry extra)
    {recipe name : String} {params : ParamSet α} {names : List String}
    (done : generate recipe name params g = .ok names g') :
    ∃ made block repetitions e, g.makes recipe name params = .ok made ∧ names = [name] ∧
      g'.ensembles.get? name = some e ∧
      Stores ⟨g.settings, g.generation⟩ name made block repetitions e g'.blocks := by
  obtain ⟨made, recipes, makes, saved, rfl⟩ := generate_ok done
  obtain ⟨m, given, resolved, found, accepted, makes'⟩ := makes_ok makes
  rw [roots] at found
  obtain ⟨elements, repetitions, rotating, readout, rfl, positive, sound, checked⟩ :=
    Recipe.exists_finished extra found accepted makes'
  obtain ⟨blocks, before, ensembles⟩ := Generated.save_programs saved
  obtain ⟨e, stores⟩ :=
    stores_finished name rotating readout positive sound checked g.blocks
  have only : e = ⟨name, _, rotating, some readout, none⟩ :=
    (List.singleton_inj.mp stores.ensembles).symm
  have stored : g'.ensembles.get? name = some e := by
    rw [ensembles, only]
    exact Roster.get?_insert_self _ _ _
  exact ⟨_, _, repetitions, e, makes, rfl, stored, blocks ▸ stores⟩

/-- A generator starts with the recipes of its roots. -/
theorem start_recipes [Analytic α] [Pulser α δ] {options : GeneratorOptions α} {device : δ}
    (started : start options device = .ok g) :
    g.recipes.registry = Recipe.registry options.recipeRoots := by
  have ensembles (name : String) :
      Moves (Same recipes) (clearEnsembleRecord name : Action α (Generator α δ) Unit) :=
    clearEnsembleRecord_moves (Same.refl recipes) name fun _ _ _ =>
      noteEnsemble_after (Same.trans recipes) (fun _ _ => rfl) rfl
  have sequences (name : String) :
      Moves (Same recipes) (clearSequenceRecord name : Action α (Generator α δ) Unit) :=
    clearSequenceRecord_moves (Same.refl recipes) (Same.trans recipes) (fun _ => rfl) name
      fun _ _ _ => noteSequence_after (Same.trans recipes) (fun _ _ => rfl) rfl
  obtain ⟨selection, chosen, dropped⟩ := start_ok_iff.mp started
  have same : g.recipes = selection :=
    (dropStaleRecords_moves (Same.refl recipes) (Same.trans recipes) ensembles sequences).of_ok
      dropped
  rw [same]
  unfold Selection.ofRegistry at chosen
  split at chosen
  · cases chosen
    rfl
  · split at chosen
    · cases chosen
      rfl
    · cases chosen

section Bench

/-- A device with a channel that is left for triggers. -/
def triggeredBench : MemoryPulser ℚ :=
  .fresh { benchLimits with
    activations := .ofList [("all", .ofList ["a_ch1", "d_ch1", "d_ch3"])] }

def triggeredOptions : GeneratorOptions ℚ :=
  { GeneratorOptions.default with
    generation := { GenerationParameters.default with syncChannel := some "d_ch3" } }

def twoTaus : ParamSet ℚ := .ofList [("number_of_taus", .int 2)]

/-- Two points of a Rabi measurement are stored and played, and then the trigger. -/
theorem generated_plays_own_rabi : ∃ first g' block repetitions e,
    start triggeredOptions triggeredBench = .ok first ∧
    generate "rabi" "rabi" twoTaus first = .ok ["rabi"] g' ∧
    g'.ensembles.get? "rabi" = some e ∧ block.name = "rabi" ∧
    e.played g'.blocks =
      .ok (RecipeContext.ownPlayback ⟨first.settings, first.generation⟩ block repetitions) := by
  have ran : (match start triggeredOptions triggeredBench with
    | .ok first =>
      match generate "rabi" "rabi" twoTaus first with
      | .ok _ _ =>
        first.settings.active.names.all fun n => Channel.isAnalog n || Channel.isDigital n
      | .error _ _ => false
    | .error _ => false) = true := by decide +kernel
  cases started : start triggeredOptions triggeredBench with
  | error f =>
    rw [started] at ran
    cases ran
  | ok first =>
    rw [started] at ran
    cases done : generate "rabi" "rabi" twoTaus first with
    | error f g' =>
      simp only [done] at ran
      cases ran
    | ok names g' =>
      simp only [done, List.all_eq_true, Bool.or_eq_true] at ran
      obtain ⟨made, block, repetitions, e, -, rfl, stored, stores⟩ :=
        generated_plays_own (start_recipes started) done
      have other : ¬ RecipeContext.NamesTrigger ⟨first.settings, first.generation⟩ "rabi" :=
        fun named => absurd named.2 (by decide)
      exact ⟨first, g', block, repetitions, e, rfl, done, stored, stores.named,
        (stores.faithful.mpr other).trans (stores.own ran)⟩

/-- How many elements an ensemble plays, from the blocks made for it and from those stored. -/
def playedLengths (made : Except (Failure ℚ) (Generated ℚ)) (stored : Generator ℚ (MemoryPulser ℚ))
    (name : String) : Option (Option Nat × Option Nat) := do
  let made ← made.toOption
  let e ← stored.ensembles.get? name
  return ((e.playedFrom made.blocks).toOption.map List.length,
    (e.played stored.blocks).toOption.map List.length)

/-- Under the name of the trigger, two points of four elements each and the trigger were made, and
three triggers are stored and played. -/
theorem trigger_name_loses_block : ∃ first g' made e,
    start triggeredOptions triggeredBench = .ok first ∧
    generate "rabi" "sync_trigger" twoTaus first = .ok ["sync_trigger"] g' ∧
    first.makes "rabi" "sync_trigger" twoTaus = .ok made ∧
    g'.ensembles.get? "sync_trigger" = some e ∧
    (e.playedFrom made.blocks).toOption.map List.length = some 9 ∧
    (e.played g'.blocks).toOption.map List.length = some 3 := by
  have ran : (match start triggeredOptions triggeredBench with
    | .ok first =>
      match generate "rabi" "sync_trigger" twoTaus first with
      | .ok names g' => decide (names = ["sync_trigger"] ∧
          playedLengths (first.makes "rabi" "sync_trigger" twoTaus) g' "sync_trigger" =
            some (some 9, some 3))
      | .error _ _ => false
    | .error _ => false) = true := by decide +kernel
  split at ran
  · rename_i first started
    split at ran
    · rename_i names g' done
      obtain ⟨rfl, lengths⟩ := of_decide_eq_true ran
      obtain ⟨made, makes, lengths⟩ := Option.bind_eq_some_iff.mp lengths
      obtain ⟨e, stored, lengths⟩ := Option.bind_eq_some_iff.mp lengths
      obtain ⟨own, played⟩ := Prod.mk.inj (Option.some.inj lengths)
      exact ⟨first, g', made, e, started, done, toOption_eq_some.mp makes, stored, own, played⟩
    · cases ran
  · cases ran

end Bench

end Generator

end PulseBench
