import PulseBench.Proofs.Generator.Saved

/-!
# What an edit changes

Saving a block, an ensemble or a sequence drops the records that the old version was compiled
into. Without a storage directory the state behind it can be written down: the saved object is
inserted, records are stripped from the ensembles and sequences that pass a test, and everything
else is as it was, in the same order. The tests only look at the objects before.

A stripped sequence is no longer marked as loaded; a stripped ensemble still is.

Results:
1. `Forgets.eq_stripped`: dropped records, names that stay and the mark determine the state.
2. `saveBlock_eq_stripped`, `saveEnsemble_eq_stripped`: the two edits that others depend on.
3. `edits_strip_dependents`: all edits, behind any run.
-/

namespace PulseBench.Generator

variable {α δ : Type}

open PulseBench.Action (Moves after after_of_ok after_of_error)

/-! ## 1. Stripped states -/

/-- The asset is a sequence that passes a test. -/
def isSequenceWhere (g : Generator α δ) (test : Sequence α → Bool) : LoadedAsset → Bool
  | ⟨_, .ensemble⟩ => false
  | ⟨n, .sequence⟩ => (g.sequences.get? n).any test

/-- The ensembles and sequences that pass a test lose their records, and nothing else changes but
that these sequences are no longer loaded. -/
def stripped (g : Generator α δ) (ensembles : Ensemble α → Bool) (sequences : Sequence α → Bool) :
    Generator α δ :=
  { g with
    ensembles := g.ensembles.map fun _ e => if ensembles e then e.forget else e
    sequences := g.sequences.map fun _ s => if sequences s then s.forget else s
    loaded := g.loaded.filter fun asset => !g.isSequenceWhere sequences asset }

/-- The sequence plays an ensemble that plays a block. -/
def reachesBlock (g : Generator α δ) (block : String) (s : Sequence α) : Bool :=
  s.steps.any fun step => (g.ensembles.get? step.ensemble).any (·.uses block)

/-- A new version of a block, and no record of an ensemble that plays it or of a sequence that plays
such an ensemble. -/
def withBlock (g : Generator α δ) (b : Block α) : Generator α δ :=
  ({ g with blocks := g.blocks.insert b.name b } : Generator α δ).stripped
    (·.uses b.name) (g.reachesBlock b.name)

/-- A new version of an ensemble, without record, and no record of a sequence that plays it. -/
def withEnsemble (g : Generator α δ) (e : Ensemble α) : Generator α δ :=
  ({ g with ensembles := g.ensembles.insert e.name e.forget } : Generator α δ).stripped
    (fun _ => false) (·.uses e.name)

/-- A new version of a sequence, without record. Nothing depends on it. -/
def withSequence (g : Generator α δ) (s : Sequence α) : Generator α δ :=
  { g with sequences := g.sequences.insert s.name s.forget }

/-- A step that keeps the names of ensembles and sequences, and their order. -/
def SameNames (before after : Generator α δ) : Prop :=
  after.ensembles.names = before.ensembles.names ∧ after.sequences.names = before.sequences.names

theorem SameNames.refl (g : Generator α δ) : SameNames g g := ⟨rfl, rfl⟩

theorem SameNames.trans (a b c : Generator α δ) (first : SameNames a b) (second : SameNames b c) :
    SameNames a c :=
  ⟨second.1.trans first.1, second.2.trans first.2⟩

section Names

variable [Scalar α]

theorem clearEnsembleRecord_sameNames (name : String) :
    Moves SameNames (clearEnsembleRecord name : Action α (Generator α δ) Unit) :=
  clearEnsembleRecord_moves SameNames.refl name fun _ e found =>
    noteEnsemble_after SameNames.trans (fun _ _ => ⟨rfl, rfl⟩)
      ⟨Roster.names_insert_of_get? e.forget found, rfl⟩

theorem invalidateUsers_sameNames (ensemble : String) :
    Moves SameNames (invalidateUsers ensemble : Action α (Generator α δ) Unit) :=
  invalidateUsers_moves SameNames.refl SameNames.trans
    (fun name => clearSequenceRecord_moves SameNames.refl SameNames.trans (fun _ => ⟨rfl, rfl⟩) name
      fun _ s found => noteSequence_after SameNames.trans (fun _ _ => ⟨rfl, rfl⟩)
        ⟨rfl, Roster.names_insert_of_get? s.forget found⟩) ensemble

theorem invalidateEnsemble_sameNames (name : String) :
    Moves SameNames (invalidateEnsemble name : Action α (Generator α δ) Unit) :=
  Moves.bind SameNames.trans (clearEnsembleRecord_sameNames name) fun _ =>
    invalidateUsers_sameNames name

end Names

/-- Where records are dropped and all names stay, the mark determines the rest. -/
theorem Forgets.eq_stripped {a b : Generator α δ} (orderly : a.Orderly)
    {ensembles : Ensemble α → Bool} {sequences : Sequence α → Bool}
    (forgets : Forgets (· ∈ a.ensemblesWhere ensembles) (· ∈ a.sequencesWhere sequences) a b)
    (names : SameNames a b)
    (mark : Unloads (Among (fun _ => False) (· ∈ a.sequencesWhere sequences)) a b) :
    b = a.stripped ensembles sequences := by
  have sameEnsembles : b.ensembles = (a.stripped ensembles sequences).ensembles := by
    refine Roster.ext_names (names.1.trans (Roster.names_map _ _).symm) fun n => ?_
    rw [forgets.get?_ensembles orderly.ensemble_named, stripped, Roster.get?_map]
  have sameSequences : b.sequences = (a.stripped ensembles sequences).sequences := by
    refine Roster.ext_names (names.2.trans (Roster.names_map _ _).symm) fun n => ?_
    rw [forgets.get?_sequences orderly.sequence_named, stripped, Roster.get?_map]
  have sameMark : b.loaded = (a.stripped ensembles sequences).loaded := by
    refine Option.ext fun asset => (mark asset).trans ?_
    have passes : Among (fun _ => False) (· ∈ a.sequencesWhere sequences) asset ↔
        a.isSequenceWhere sequences asset = true := by
      obtain ⟨n, kind⟩ := asset
      cases kind with
      | ensemble => exact iff_of_false id Bool.false_ne_true
      | sequence =>
        rw [isSequenceWhere, Option.any_eq_true]
        exact mem_sequencesWhere_iff orderly.sequence_named sequences n
    rw [passes, stripped, Option.filter_eq_some_iff, Bool.not_eq_true, Bool.not_eq_true']
  rw [forgets.rest, sameEnsembles, sameSequences, sameMark]
  rfl

/-! ## 2. Single edits -/

section Saving

variable [Scalar α] {g : Generator α δ}

omit [Scalar α] in
theorem usedByAny_iff (orderly : g.Orderly) (block n : String) :
    g.UsedByAny (· ∈ g.ensemblesWhere (·.uses block)) n ↔
      n ∈ g.sequencesWhere (g.reachesBlock block) := by
  rw [mem_sequencesWhere_iff orderly.sequence_named]
  constructor
  · rintro ⟨m, hit, s, found, uses⟩
    obtain ⟨e, played, usesBlock⟩ := (mem_ensemblesWhere_iff orderly.ensemble_named _ m).mp hit
    obtain ⟨step, member, same⟩ := List.any_eq_true.mp uses
    refine ⟨s, found, List.any_eq_true.mpr ⟨step, member, ?_⟩⟩
    rw [beq_iff_eq.mp same, played]
    exact usesBlock
  · rintro ⟨s, found, reaches⟩
    obtain ⟨step, member, any⟩ := List.any_eq_true.mp reaches
    obtain ⟨e, played, usesBlock⟩ := (Option.any_eq_true _ _).mp any
    refine ⟨step.ensemble, ?_, s, found, List.any_eq_true.mpr ⟨step, member, beq_self_eq_true _⟩⟩
    exact (mem_ensemblesWhere_iff orderly.ensemble_named _ _).mpr ⟨e, played, usesBlock⟩

theorem saveBlock_ok (orderly : g.Orderly) {b : Block α} (named : b.name.isEmpty = false) :
    saveBlock b g = .ok ⟨⟩ (g.withBlock b) := by
  let inserted : Generator α δ := { g with blocks := g.blocks.insert b.name b }
  have saved : inserted.Orderly := orderly.of_same rfl rfl rfl
  let users := inserted.ensemblesWhere (·.uses b.name)
  obtain ⟨g', invalidated, strikes, -⟩ := forM_invalidateEnsemble_strikes saved users
  obtain ⟨own, dropped, forgets⟩ :=
    forM_invalidateEnsemble_ok saved.store saved.sequence_named users
  rw [invalidated] at dropped
  cases dropped
  have moves : Moves SameNames (users.forM invalidateEnsemble : Action α (Generator α δ) PUnit) :=
    Moves.forM SameNames.refl SameNames.trans fun name _ => invalidateEnsemble_sameNames name
  have names := moves inserted
  rw [after_of_ok invalidated] at names
  have reached (n : String) := usedByAny_iff saved b.name n
  have stripped : g' = g.withBlock b :=
    Forgets.eq_stripped saved (forgets.congr (fun _ => Iff.rfl) reached) names
      (strikes.sheds.mark.congr fun ⟨n, kind⟩ => by
        cases kind with
        | ensemble => exact Iff.rfl
        | sequence => exact reached n)
  unfold saveBlock
  rw [checkName_ok named, Action.bind_of_ok (Action.lift_ok _ g),
    Action.bind_of_ok (persist_ok orderly.store b), ← stripped]
  exact invalidated

theorem saveEnsemble_ok (orderly : g.Orderly) {e : Ensemble α} (named : e.name.isEmpty = false) :
    saveEnsemble e g = .ok ⟨⟩ (g.withEnsemble e) := by
  let inserted : Generator α δ := { g with ensembles := g.ensembles.insert e.name e.forget }
  have saved : inserted.Orderly := orderly.insertEnsemble rfl
  obtain ⟨g', invalidated, forgets, unloads⟩ := invalidateUsers_unloads saved e.name
  have names := invalidateUsers_sameNames e.name inserted
  rw [after_of_ok invalidated] at names
  have users (n : String) := (mem_sequencesWhere_iff saved.sequence_named (·.uses e.name) n).symm
  have none (n : String) : n ∉ inserted.ensemblesWhere fun _ => false := by
    rw [mem_ensemblesWhere_iff saved.ensemble_named]
    exact fun ⟨_, _, passes⟩ => Bool.false_ne_true passes
  have stripped : g' = g.withEnsemble e :=
    Forgets.eq_stripped saved (forgets.congr (fun n => iff_of_false id (none n)) users) names
      (unloads.congr fun ⟨n, kind⟩ => by
        cases kind with
        | ensemble => exact Iff.rfl
        | sequence => exact users n)
  unfold saveEnsemble
  rw [checkName_ok named, Action.bind_of_ok (Action.lift_ok _ g),
    Action.bind_of_ok (persist_ok orderly.store _), ← stripped]
  exact invalidated

theorem saveSequence_ok (orderly : g.Orderly) {s : Sequence α} (named : s.name.isEmpty = false) :
    saveSequence s g = .ok ⟨⟩ (g.withSequence s) := by
  unfold saveSequence
  rw [checkName_ok named, Action.bind_of_ok (Action.lift_ok _ g),
    Action.bind_of_ok (persist_ok orderly.store _)]
  rfl

end Saving

/-! ## 3. All edits -/

theorem checkName_refuses {β : Type} {kind : ObjectKind} {name : String}
    (unnamed : name.isEmpty = true) (rest : Unit → Action α (Generator α δ) β)
    (g : Generator α δ) :
    (Action.lift (checkName kind name) >>= rest) g = .error (.generator (.emptyName kind)) g := by
  rw [checkName_error unnamed]
  exact Action.bind_of_error (Action.lift_error _ g)

/-- Behind any run without storage, an object without a name is refused and nothing changes. Every
other edit succeeds, strips the records that depend on the edited object, and changes nothing else. -/
theorem edits_strip_dependents [Analytic α] [Pulser α δ] {options : GeneratorOptions α} {device : δ}
    {first : Generator α δ} (memory : options.store = none)
    (started : start options device = .ok first) (ops : List (Operation α)) {g : Generator α δ}
    (reached : afterAll ops first = g) :
    (∀ b, saveBlock b g = if b.name.isEmpty then .error (.generator (.emptyName .block)) g
      else .ok ⟨⟩ (g.withBlock b)) ∧
    (∀ e, saveEnsemble e g = if e.name.isEmpty then .error (.generator (.emptyName .ensemble)) g
      else .ok ⟨⟩ (g.withEnsemble e)) ∧
    ∀ s, saveSequence s g = if s.name.isEmpty then .error (.generator (.emptyName .sequence)) g
      else .ok ⟨⟩ (g.withSequence s) := by
  have orderly : g.Orderly := reached ▸ afterAll_orderly (start_orderly memory started) ops
  refine ⟨fun b => ?_, fun e => ?_, fun s => ?_⟩
  · split
    · exact checkName_refuses ‹_› _ g
    · exact saveBlock_ok orderly (Bool.eq_false_iff.mpr ‹_›)
  · split
    · exact checkName_refuses ‹_› _ g
    · exact saveEnsemble_ok orderly (Bool.eq_false_iff.mpr ‹_›)
  · split
    · exact checkName_refuses ‹_› _ g
    · exact saveSequence_ok orderly (Bool.eq_false_iff.mpr ‹_›)

section Bench

/-- Besides the sequence that plays one ensemble, another ensemble of another block is compiled. -/
def sharedAndRest : List (Operation ℚ) :=
  sharedOnce ++ [.saveBlock (level "calm" 0), .saveEnsemble (playing "rest" "calm"),
    .sampleEnsemble "rest", .loadSequence "first"]

/-- A new version of the block takes the records of its ensemble and of the sequence along, and the
sequence is no longer loaded. The other ensemble keeps its record. -/
theorem edits_strip_dependents_shared_block :
    (GeneratorOptions.default : GeneratorOptions ℚ).store = none ∧
    ∃ first, start .default (MemoryPulser.fresh benchLimits) = .ok first ∧
      ∃ g, afterAll sharedAndRest first = g ∧
        saveBlock (level "flat" 1) g = .ok ⟨⟩ (g.withBlock (level "flat" 1)) ∧
        g.ensemblesWhere Ensemble.isSampled = ["pulse", "rest"] ∧
        g.sequencesWhere Sequence.isSampled = ["first"] ∧
        g.loaded = some ⟨"first", .sequence⟩ ∧
        (g.withBlock (level "flat" 1)).ensemblesWhere Ensemble.isSampled = ["rest"] ∧
        (g.withBlock (level "flat" 1)).sequencesWhere Sequence.isSampled = [] ∧
        (g.withBlock (level "flat" 1)).loaded = none := by
  have memory : (GeneratorOptions.default : GeneratorOptions ℚ).store = none := rfl
  refine ⟨memory, ?_⟩
  have ran : (match start .default (MemoryPulser.fresh benchLimits) with
    | .ok first =>
      let g := afterAll sharedAndRest first
      let edited := g.withBlock (level "flat" 1)
      decide (g.ensemblesWhere Ensemble.isSampled = ["pulse", "rest"] ∧
        g.sequencesWhere Sequence.isSampled = ["first"] ∧
        g.loaded = some ⟨"first", .sequence⟩ ∧
        edited.ensemblesWhere Ensemble.isSampled = ["rest"] ∧
        edited.sequencesWhere Sequence.isSampled = [] ∧ edited.loaded = none)
    | .error _ => false) = true := by decide +kernel
  cases started : start .default (MemoryPulser.fresh benchLimits) with
  | error f =>
    rw [started] at ran
    cases ran
  | ok first =>
    rw [started] at ran
    have edits := (edits_strip_dependents memory started sharedAndRest rfl).1 (level "flat" 1)
    exact ⟨first, rfl, _, rfl, edits, of_decide_eq_true ran⟩

end Bench

end PulseBench.Generator
