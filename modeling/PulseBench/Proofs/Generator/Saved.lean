import Mathlib.Data.List.TakeWhile
import PulseBench.Proofs.Generator.Loaded

/-!
# What saving does to records and mark

A new version of a block or of an ensemble strikes some ensembles. These lose
their records but keep the mark; the sequences that play them lose both. A new
version of a sequence loses its record and keeps the mark.

A recipe saves what it made: blocks, then ensembles, then sequences, up to the
first object without a name. Saving a single object is the same with a single
one made.

Results:
1. `Strikes.trans`, `invalidateEnsemble_strikes`: striking ensembles.
2. `saveBlock_strikes`, `saveEnsemble_strikes`, `saveSequence_sheds`: one object.
3. `Generated.save_sheds`: everything that was made.
4. `Operation.saves_sheds`: every operation that saves.
-/

namespace PulseBench.Generator

variable {α δ : Type}

open PulseBench.Action (Moves after after_of_ok after_of_error)

/-! ## 1. Striking ensembles -/

/-- The ensemble of this name plays a block. -/
def PlayedBy (g : Generator α δ) (block n : String) : Prop :=
  ∃ e, g.ensembles.get? n = some e ∧ e.uses block = true

/-- The sequence of this name plays one of some ensembles. -/
def UsedByAny (g : Generator α δ) (hit : String → Prop) (n : String) : Prop :=
  ∃ m, hit m ∧ g.UsedBy m n

/-- Some ensembles lose their records, and so do the sequences that play them. Only the sequences
are unloaded. -/
structure Strikes (hit : String → Prop) (before after : Generator α δ) : Prop where
  sheds : Sheds (Among hit (before.UsedByAny hit))
    (Among (fun _ => False) (before.UsedByAny hit)) before after
  users : ∀ ensemble n, after.UsedBy ensemble n ↔ before.UsedBy ensemble n
  device : after.device = before.device

/-- Dropping records leaves the blocks of the ensembles as they are. -/
theorem Forgets.playedBy_iff {es ss : String → Prop} {a b : Generator α δ}
    (h : Forgets es ss a b) (block n : String) : b.PlayedBy block n ↔ a.PlayedBy block n := by
  constructor
  · rintro ⟨e, found, uses⟩
    obtain ⟨own, listed, same⟩ := h.ensemble_forget found
    have plays : own.forget.plays = e.forget.plays := by rw [same]
    refine ⟨own, listed, ?_⟩
    rw [Ensemble.uses, show own.plays = e.plays from plays]
    exact uses
  · rintro ⟨e, found, uses⟩
    by_cases dropped : es n
    · exact ⟨e.forget, by rw [h.dropped_ensemble n dropped, found]; rfl, uses⟩
    · exact ⟨e, (h.kept_ensemble n dropped).trans found, uses⟩

namespace Strikes

variable {hit hit' : String → Prop} {a b c : Generator α δ}

theorem of_same (sheds : Sheds (fun _ => False) (fun _ => False) a b)
    (sequences : b.sequences = a.sequences) (device : b.device = a.device) :
    Strikes (fun _ => False) a b where
  sheds := sheds.congr (fun ⟨_, kind⟩ => by cases kind <;> simp [Among, UsedByAny])
    fun ⟨_, kind⟩ => by cases kind <;> simp [Among, UsedByAny]
  users _ _ := by rw [UsedBy, UsedBy, sequences]
  device := device

theorem refl (g : Generator α δ) : Strikes (fun _ => False) g g :=
  of_same (Sheds.refl g) rfl rfl

theorem trans (first : Strikes hit a b) (second : Strikes hit' b c) :
    Strikes (fun n => hit n ∨ hit' n) a c where
  sheds := by
    have users (n : String) : b.UsedByAny hit' n ↔ a.UsedByAny hit' n :=
      exists_congr fun m => and_congr_right fun _ => first.users m n
    have either (n : String) : a.UsedByAny hit n ∨ a.UsedByAny hit' n ↔
        a.UsedByAny (fun m => hit m ∨ hit' m) n := by
      simp only [UsedByAny, or_and_right, exists_or]
    refine (first.sheds.trans second.sheds).congr (fun ⟨n, kind⟩ => ?_) fun ⟨n, kind⟩ => ?_
    · cases kind with
      | ensemble => exact Iff.rfl
      | sequence => simp only [Among, users, either]
    · cases kind with
      | ensemble => simp only [Among, or_self]
      | sequence => simp only [Among, users, either]
  users ensemble n := (second.users ensemble n).trans (first.users ensemble n)
  device := second.device.trans first.device

theorem congr (h : Strikes hit a b) (same : ∀ n, hit n ↔ hit' n) : Strikes hit' a b := by
  rw [← funext fun n => propext (same n)]
  exact h

end Strikes

section Saving

variable [Scalar α] {g : Generator α δ}

theorem invalidateEnsemble_strikes (orderly : g.Orderly) (name : String) :
    ∃ g', invalidateEnsemble name g = .ok ⟨⟩ g' ∧ Strikes (· = name) g g' ∧ g'.Orderly := by
  obtain ⟨middle, cleared, first⟩ := clearEnsembleRecord_ok orderly.store name
  have mark := clearEnsembleRecord_mark name g
  rw [after_of_ok cleared] at mark
  obtain ⟨g', invalidated, later, unloads⟩ :=
    invalidateUsers_unloads (orderly.forgets first) name
  have users (n : String) : middle.UsedBy name n ↔ g.UsedByAny (· = name) n := by
    simp only [first.usedBy_iff, UsedByAny, exists_eq_left]
  refine ⟨g', (Action.bind_of_ok cleared).trans invalidated, ⟨?_, fun ensemble n => ?_, ?_⟩,
    (orderly.forgets first).forgets later⟩
  · refine ((first.sheds (unloads_of_same mark)).trans (later.sheds unloads)).congr
      (fun ⟨n, kind⟩ => ?_) fun ⟨n, kind⟩ => ?_
    · cases kind <;> simp [Among, users]
    · cases kind <;> simp [Among, users]
  · exact (later.usedBy_iff ensemble n).trans (first.usedBy_iff ensemble n)
  · exact later.device.trans first.device

theorem forM_invalidateEnsemble_strikes (orderly : g.Orderly) (names : List String) :
    ∃ g', names.forM invalidateEnsemble g = .ok ⟨⟩ g' ∧ Strikes (· ∈ names) g g' ∧
      g'.Orderly := by
  induction names generalizing g with
  | nil => exact ⟨g, rfl, (Strikes.refl g).congr fun n => by simp, orderly⟩
  | cons name rest ih =>
    obtain ⟨middle, invalidated, first, between⟩ := invalidateEnsemble_strikes orderly name
    obtain ⟨g', others, later, behind⟩ := ih between
    exact ⟨g', (Action.bind_of_ok invalidated).trans others,
      (first.trans later).congr fun n => List.mem_cons.symm, behind⟩

/-! ## 2. One object -/

omit [Scalar α] in
theorem checkName_ok {kind : ObjectKind} {name : String} (named : name.isEmpty = false) :
    (checkName kind name : Except (Failure α) Unit) = .ok () := by
  rw [checkName, named]
  rfl

omit [Scalar α] in
theorem checkName_error {kind : ObjectKind} {name : String} (unnamed : name.isEmpty = true) :
    (checkName kind name : Except (Failure α) Unit) = .error (.generator (.emptyName kind)) := by
  rw [checkName, unnamed]
  rfl

/-- A new version of a block strikes the ensembles that play it. -/
theorem saveBlock_strikes (orderly : g.Orderly) {b : Block α} (named : b.name.isEmpty = false) :
    ∃ g', saveBlock b g = .ok ⟨⟩ g' ∧ Strikes (g.PlayedBy b.name) g g' ∧ g'.Orderly ∧
      ∀ block n, g'.PlayedBy block n ↔ g.PlayedBy block n := by
  have saved : ({ g with blocks := g.blocks.insert b.name b } : Generator α δ).Orderly :=
    orderly.of_same rfl rfl rfl
  have listed := mem_ensemblesWhere_iff orderly.ensemble_named (·.uses b.name)
  obtain ⟨g', invalidated, strikes, behind⟩ :=
    forM_invalidateEnsemble_strikes saved (g.ensemblesWhere (·.uses b.name))
  obtain ⟨own, dropped, forgets⟩ := forM_invalidateEnsemble_ok saved.store saved.sequence_named
    (g.ensemblesWhere (·.uses b.name))
  rw [invalidated] at dropped
  cases dropped
  have ran : saveBlock b g = .ok ⟨⟩ g' := by
    unfold saveBlock
    rw [checkName_ok named, Action.bind_of_ok (Action.lift_ok _ g),
      Action.bind_of_ok (persist_ok orderly.store b)]
    exact invalidated
  have inserted : Strikes (fun _ => False) g { g with blocks := g.blocks.insert b.name b } :=
    Strikes.of_same (Sheds.of_same rfl rfl rfl) rfl rfl
  refine ⟨g', ran, (inserted.trans strikes).congr fun n => ?_, behind, forgets.playedBy_iff⟩
  rw [false_or, listed]
  rfl

/-- A new version of an ensemble strikes that ensemble. -/
theorem saveEnsemble_strikes (orderly : g.Orderly) {e : Ensemble α}
    (named : e.name.isEmpty = false) :
    ∃ g', saveEnsemble e g = .ok ⟨⟩ g' ∧ Strikes (· = e.name) g g' ∧ g'.Orderly := by
  have saved := orderly.insertEnsemble (e := e.forget) rfl
  obtain ⟨g', invalidated, forgets, unloads⟩ := invalidateUsers_unloads saved e.name
  have ran : saveEnsemble e g = .ok ⟨⟩ g' := by
    unfold saveEnsemble
    rw [checkName_ok named, Action.bind_of_ok (Action.lift_ok _ g),
      Action.bind_of_ok (persist_ok orderly.store _)]
    exact invalidated
  have inserted : Sheds (Among (· = e.name) fun _ => False) (fun _ => False) g
      { g with ensembles := g.ensembles.insert e.name e.forget } :=
    Sheds.of_ensembles (fun n own => by rw [own, Roster.get?_insert_self]; rfl)
      fun n other => Roster.get?_insert_of_ne _ _ other
  refine ⟨g', ran, ⟨?_, fun ensemble n => forgets.usedBy_iff ensemble n, forgets.device⟩,
    saved.forgets forgets⟩
  refine (inserted.trans (forgets.sheds unloads)).congr (fun ⟨n, kind⟩ => ?_)
    fun ⟨n, kind⟩ => ?_
  · cases kind <;> simp [Among, UsedByAny, UsedBy]
  · cases kind <;> simp [Among, UsedByAny, UsedBy]

/-- A new version of a sequence has no record, and the mark stays. -/
theorem saveSequence_sheds (orderly : g.Orderly) {s : Sequence α}
    (named : s.name.isEmpty = false) :
    ∃ g', saveSequence s g = .ok ⟨⟩ g' ∧
      Sheds (Among (fun _ => False) (· = s.name)) (fun _ => False) g g' ∧
      g'.device = g.device ∧ g'.Orderly := by
  refine ⟨{ g with sequences := g.sequences.insert s.name s.forget }, ?_, ?_, rfl,
    orderly.insertSequence (s := s.forget) rfl⟩
  · unfold saveSequence
    rw [checkName_ok named, Action.bind_of_ok (Action.lift_ok _ g),
      Action.bind_of_ok (persist_ok orderly.store _)]
    rfl
  · exact Sheds.of_sequences (fun n own => by rw [own, Roster.get?_insert_self]; rfl)
      fun n other => Roster.get?_insert_of_ne _ _ other

/-! ## 3. Everything that was made -/

theorem forM_saveBlock_strikes (orderly : g.Orderly) {bs : List (Block α)}
    (named : ∀ b ∈ bs, b.name.isEmpty = false) :
    ∃ g', bs.forM saveBlock g = .ok ⟨⟩ g' ∧
      Strikes (fun n => ∃ b ∈ bs, g.PlayedBy b.name n) g g' ∧ g'.Orderly := by
  induction bs generalizing g with
  | nil => exact ⟨g, rfl, (Strikes.refl g).congr fun n => by simp, orderly⟩
  | cons b rest ih =>
    obtain ⟨middle, saved, first, between, plays⟩ :=
      saveBlock_strikes orderly (named b List.mem_cons_self)
    obtain ⟨g', others, later, behind⟩ :=
      ih between fun d member => named d (List.mem_cons_of_mem _ member)
    refine ⟨g', (Action.bind_of_ok saved).trans others,
      (first.trans later).congr fun n => ?_, behind⟩
    simp only [plays, List.mem_cons, exists_eq_or_imp]

theorem forM_saveEnsemble_strikes (orderly : g.Orderly) {es : List (Ensemble α)}
    (named : ∀ e ∈ es, e.name.isEmpty = false) :
    ∃ g', es.forM saveEnsemble g = .ok ⟨⟩ g' ∧ Strikes (fun n => ∃ e ∈ es, n = e.name) g g' ∧
      g'.Orderly := by
  induction es generalizing g with
  | nil => exact ⟨g, rfl, (Strikes.refl g).congr fun n => by simp, orderly⟩
  | cons e rest ih =>
    obtain ⟨middle, saved, first, between⟩ :=
      saveEnsemble_strikes orderly (named e List.mem_cons_self)
    obtain ⟨g', others, later, behind⟩ :=
      ih between fun d member => named d (List.mem_cons_of_mem _ member)
    refine ⟨g', (Action.bind_of_ok saved).trans others,
      (first.trans later).congr fun n => ?_, behind⟩
    simp only [List.mem_cons, exists_eq_or_imp]

theorem forM_saveSequence_sheds (orderly : g.Orderly) {ss : List (Sequence α)}
    (named : ∀ s ∈ ss, s.name.isEmpty = false) :
    ∃ g', ss.forM saveSequence g = .ok ⟨⟩ g' ∧
      Sheds (Among (fun _ => False) fun n => ∃ s ∈ ss, n = s.name) (fun _ => False) g g' ∧
      g'.device = g.device ∧ g'.Orderly := by
  induction ss generalizing g with
  | nil =>
    refine ⟨g, rfl, (Sheds.refl g).congr (fun ⟨n, kind⟩ => ?_) fun _ => Iff.rfl, rfl, orderly⟩
    cases kind <;> simp [Among]
  | cons s rest ih =>
    obtain ⟨middle, saved, first, same, between⟩ :=
      saveSequence_sheds orderly (named s List.mem_cons_self)
    obtain ⟨g', others, later, sameLater, behind⟩ :=
      ih between fun d member => named d (List.mem_cons_of_mem _ member)
    refine ⟨g', (Action.bind_of_ok saved).trans others,
      (first.trans later).congr (fun ⟨n, kind⟩ => ?_) fun _ => or_self_iff,
      sameLater.trans same, behind⟩
    cases kind with
    | ensemble => exact or_self_iff
    | sequence => simp only [Among, List.mem_cons, exists_eq_or_imp]

end Saving

end PulseBench.Generator

namespace PulseBench.Generated

variable {α δ : Type}

open PulseBench.Generator
open PulseBench.Action (Moves after after_of_ok after_of_error)

def isNamed (name : String) : Bool := !name.isEmpty

/-- What is saved of the objects that were made: the first one without a name ends it. -/
def saved (made : Generated α) : Generated α where
  blocks := made.blocks.takeWhile (isNamed ·.name)
  ensembles :=
    if made.blocks.all (isNamed ·.name) then made.ensembles.takeWhile (isNamed ·.name) else []
  sequences :=
    if made.blocks.all (isNamed ·.name) && made.ensembles.all (isNamed ·.name) then
      made.sequences.takeWhile (isNamed ·.name)
    else []

/-- Every object has a name. -/
structure Named (made : Generated α) : Prop where
  blocks : ∀ b ∈ made.blocks, b.name.isEmpty = false
  ensembles : ∀ e ∈ made.ensembles, e.name.isEmpty = false
  sequences : ∀ s ∈ made.sequences, s.name.isEmpty = false

theorem saved_named (made : Generated α) : made.saved.Named := by
  have prefixed {β : Type} {name : β → String} {items : List β} {b : β}
      (member : b ∈ items.takeWhile (isNamed <| name ·)) : (name b).isEmpty = false := by
    simpa [isNamed] using List.mem_takeWhile_imp member
  refine ⟨fun b member => prefixed member, fun e member => ?_, fun s member => ?_⟩
  · change e ∈ if _ then _ else _ at member
    split at member
    · exact prefixed member
    · cases member
  · change s ∈ if _ then _ else _ at member
    split at member
    · exact prefixed member
    · cases member

section Saving

variable [Scalar α]

/-- Saving all objects one after the other. -/
def save (made : Generated α) : Action α (Generator α δ) PUnit := do
  made.blocks.forM saveBlock
  made.ensembles.forM saveEnsemble
  made.sequences.forM saveSequence

omit [Scalar α] in
/-- Behind one action only the state behind the next counts. -/
theorem after_bind_congr {σ β γ : Type} (act : Action α σ β) {next next' : β → Action α σ γ} (s : σ)
    (same : ∀ b s', (next b).after s' = (next' b).after s') :
    (act >>= next).after s = (act >>= next').after s := by
  cases ran : act s with
  | error f s' =>
    rw [after_of_error (Action.bind_of_error ran), after_of_error (Action.bind_of_error ran)]
  | ok b s' =>
    rw [after, after, Action.run, Action.run, Action.bind_of_ok ran, Action.bind_of_ok ran]
    exact same b s'

omit [Scalar α] in
/-- A loop that refuses some items ends in front of the first of them, and so does all behind it. -/
theorem after_forM_bind {σ β : Type} {act : β → Action α σ PUnit} (takes : β → Bool)
    (refuses : ∀ b s, takes b = false → ∃ f, act b s = .error f s) (items : List β)
    (next : Action α σ PUnit) (s : σ) :
    (items.forM act >>= fun _ => next).after s =
      ((items.takeWhile takes).forM act >>= fun _ =>
        if items.all takes then next else pure ⟨⟩).after s := by
  induction items generalizing s with
  | nil => rfl
  | cons b rest ih =>
    cases taken : takes b with
    | false =>
      obtain ⟨f, refused⟩ := refuses b s taken
      have ended : ((b :: rest).forM act >>= fun _ => next) s = .error f s :=
        Action.bind_of_error (Action.bind_of_error refused)
      rw [after_of_error ended, List.takeWhile_cons, taken, List.all_cons, taken]
      rfl
    | true =>
      rw [List.takeWhile_cons, taken, List.all_cons, taken]
      simp only [if_true, Bool.true_and]
      have split (others : List β) (behind : Action α σ PUnit) :
          ((b :: others).forM act >>= fun _ => behind) =
            (act b >>= fun _ => others.forM act >>= fun _ => behind) :=
        bind_assoc (act b) (fun _ => others.forM act) fun _ => behind
      rw [split, split]
      exact after_bind_congr (act b) s fun _ => ih

theorem saveBlock_refuses (b : Block α) (g : Generator α δ) (unnamed : isNamed b.name = false) :
    ∃ f, saveBlock b g = .error f g := by
  have empty : b.name.isEmpty = true := by simpa [isNamed] using unnamed
  refine ⟨.generator (.emptyName .block), ?_⟩
  unfold saveBlock
  rw [checkName_error empty]
  exact Action.bind_of_error (Action.lift_error _ g)

theorem saveEnsemble_refuses (e : Ensemble α) (g : Generator α δ)
    (unnamed : isNamed e.name = false) : ∃ f, saveEnsemble e g = .error f g := by
  have empty : e.name.isEmpty = true := by simpa [isNamed] using unnamed
  refine ⟨.generator (.emptyName .ensemble), ?_⟩
  unfold saveEnsemble
  rw [checkName_error empty]
  exact Action.bind_of_error (Action.lift_error _ g)

theorem saveSequence_refuses (s : Sequence α) (g : Generator α δ)
    (unnamed : isNamed s.name = false) : ∃ f, saveSequence s g = .error f g := by
  have empty : s.name.isEmpty = true := by simpa [isNamed] using unnamed
  refine ⟨.generator (.emptyName .sequence), ?_⟩
  unfold saveSequence
  rw [checkName_error empty]
  exact Action.bind_of_error (Action.lift_error _ g)

/-- Objects behind the first one without a name do not matter. -/
theorem save_saved (made : Generated α) (g : Generator α δ) :
    made.saved.save.after g = made.save.after g := by
  have last (s : Generator α δ) :
      ((made.sequences.takeWhile (isNamed ·.name)).forM saveSequence).after s =
        (made.sequences.forM saveSequence).after s := by
    have ended :=
      after_forM_bind (isNamed ·.name) saveSequence_refuses made.sequences (pure ⟨⟩) s
    rw [ite_self, bind_pure_unit, bind_pure_unit] at ended
    exact ended.symm
  have rest (s : Generator α δ) :
      ((made.ensembles.takeWhile (isNamed ·.name)).forM saveEnsemble >>= fun _ =>
        (if made.ensembles.all (isNamed ·.name) then made.sequences.takeWhile (isNamed ·.name)
          else []).forM saveSequence).after s =
        (made.ensembles.forM saveEnsemble >>= fun _ => made.sequences.forM saveSequence).after s := by
    rw [after_forM_bind (isNamed ·.name) saveEnsemble_refuses made.ensembles]
    refine after_bind_congr _ s fun _ s' => ?_
    split
    · exact last s'
    · rfl
  unfold save
  rw [after_forM_bind (isNamed ·.name) saveBlock_refuses made.blocks]
  refine after_bind_congr _ g fun _ s => ?_
  unfold saved
  split
  · rename_i named
    simp only [named, Bool.true_and]
    exact rest s
  · rename_i unnamed
    simp only [unnamed, Bool.false_and]
    rfl

/-- Some ensembles are made anew, others play a block that is. -/
def Hits (made : Generated α) (g : Generator α δ) (n : String) : Prop :=
  (∃ b ∈ made.blocks, g.PlayedBy b.name n) ∨ ∃ e ∈ made.ensembles, n = e.name

/-- Ensembles that are made anew or play a block that is lose their records, and so do the sequences
that play these and those made anew. Only sequences that play a struck ensemble are unloaded. -/
theorem save_sheds {made : Generated α} (named : made.Named) {g : Generator α δ}
    (orderly : g.Orderly) :
    Sheds (Among (made.Hits g) fun n =>
        g.UsedByAny (made.Hits g) n ∨ ∃ s ∈ made.sequences, n = s.name)
      (Among (fun _ => False) (g.UsedByAny (made.Hits g))) g (made.save.after g) ∧
    (made.save.after g).device = g.device := by
  obtain ⟨a, blocks, first, orderly⟩ := forM_saveBlock_strikes orderly named.blocks
  obtain ⟨b, ensembles, second, orderly⟩ := forM_saveEnsemble_strikes orderly named.ensembles
  obtain ⟨c, sequences, third, same, -⟩ := forM_saveSequence_sheds orderly named.sequences
  have ran : made.save g = .ok ⟨⟩ c :=
    (Action.bind_of_ok blocks).trans ((Action.bind_of_ok ensembles).trans sequences)
  have struck : Generator.Strikes (made.Hits g) g b := first.trans second
  rw [after_of_ok ran]
  refine ⟨(struck.sheds.trans third).congr (fun ⟨n, kind⟩ => ?_) fun _ => Iff.of_eq (or_false _),
    same.trans struck.device⟩
  cases kind with
  | ensemble => exact Iff.of_eq (or_false _)
  | sequence => exact Iff.rfl

end Saving

end PulseBench.Generated

/-! ## 4. Operations that save -/

namespace PulseBench.Generator

variable {α δ : Type}

open PulseBench.Action (after after_of_ok after_of_error)

/-- What a recipe makes. -/
def makes (g : Generator α δ) (recipe name : String) (params : ParamSet α) [Scalar α] :
    Except (Failure α) (Generated α) :=
  match Selection.setParameters (params.insert Selection.methodKey (.text recipe)) g.recipes with
  | .error f _ => .error f
  | .ok resolved recipes => do
      let m ← recipes.method
      m.rule ⟨g.settings, g.generation⟩ name resolved

/-- What an action returns does not change the state behind it. -/
theorem after_bind_pure {σ β γ : Type} (act : Action α σ β) (f : β → γ) (s : σ) :
    (act >>= fun b => pure (f b)).after s = act.after s := by
  cases ran : act s with
  | error e s' => rw [after_of_error ran, after_of_error (Action.bind_of_error ran)]
  | ok b s' =>
    rw [after_of_ok ran]
    exact after_of_ok (Action.bind_of_ok ran)

/-- Behind the choice of the recipe, only what it makes counts. -/
theorem generate_after [Scalar α] (recipe name : String) (params : ParamSet α)
    (g : Generator α δ) :
    ∃ recipes, (generate recipe name params).after g =
      match g.makes recipe name params with
      | .ok made => made.save.after { g with recipes }
      | .error _ => { g with recipes } := by
  cases selected : Selection.setParameters
      (params.insert Selection.methodKey (.text recipe)) g.recipes with
  | error f recipes =>
    have failed : onRecipes (Selection.setParameters
        (params.insert Selection.methodKey (.text recipe))) g = .error f { g with recipes } := by
      rw [onRecipes, selected]
    refine ⟨recipes, (after_of_error (Action.bind_of_error failed)).trans ?_⟩
    rw [makes, selected]
  | ok resolved recipes =>
    have resolves : onRecipes (Selection.setParameters
        (params.insert Selection.methodKey (.text recipe))) g = .ok resolved { g with recipes } := by
      rw [onRecipes, selected]
    have known : g.makes recipe name params =
        recipes.method >>= fun m => m.rule ⟨g.settings, g.generation⟩ name resolved := by
      rw [makes, selected]
    have begun : generate recipe name params g =
        ((Action.lift recipes.method >>= fun m =>
          Action.lift (m.rule ⟨g.settings, g.generation⟩ name resolved)) >>= fun made =>
            made.save >>= fun _ => pure
              (made.ensembles.map Ensemble.name ++ made.sequences.map Sequence.name))
          { g with recipes } := by
      unfold generate Generated.save
      rw [Action.bind_of_ok resolves, Action.bind_of_ok (Action.get_apply _)]
      simp only [bind_assoc]
    refine ⟨recipes, ?_⟩
    rw [known, after, Action.run, begun]
    cases recipes.method with
    | error f => rfl
    | ok m =>
      rw [ok_bind]
      cases makes : m.rule ⟨g.settings, g.generation⟩ name resolved with
      | error f =>
        rw [Action.bind_of_error ((Action.bind_of_ok (Action.lift_ok m _)).trans
          (by rw [makes]; exact Action.lift_error f _))]
      | ok made =>
        rw [Action.bind_of_ok ((Action.bind_of_ok (Action.lift_ok m _)).trans
          (by rw [makes]; exact Action.lift_ok made _))]
        exact after_bind_pure made.save _ _

namespace Operation

/-- The operation saves objects, if it succeeds. -/
def Saves : Operation α → Prop
  | .saveBlock _ | .saveEnsemble _ | .saveSequence _ | .generate _ _ _ => True
  | _ => False

variable [Analytic α]

/-- The objects to save. -/
def made (op : Operation α) (g : Generator α δ) : Generated α :=
  match op with
  | .saveBlock b => ⟨[b], [], []⟩
  | .saveEnsemble e => ⟨[], [e], []⟩
  | .saveSequence s => ⟨[], [], [s]⟩
  | .generate recipe name params =>
    match g.makes recipe name params with
    | .ok made => made
    | .error _ => ⟨[], [], []⟩
  | _ => ⟨[], [], []⟩

/-- The objects that are saved. -/
def saved (op : Operation α) (g : Generator α δ) : Generated α := (op.made g).saved

variable [Pulser α δ]

theorem made_after {op : Operation α} (saves : op.Saves) (g : Generator α δ) :
    ∃ recipes, op.after g = (op.made g).save.after { g with recipes } := by
  -- A loop over a single object does nothing but save it.
  have single {β : Type} (b : β) (act : β → Action α (Generator α δ) PUnit) :
      ([b].forM act).after g = (act b).after g := after_bind_pure (act b) id g
  cases op with
  | saveBlock b =>
    refine ⟨g.recipes, (single b Generator.saveBlock).symm.trans ?_⟩
    exact (after_bind_pure ([b].forM Generator.saveBlock) id g).symm
  | saveEnsemble e =>
    refine ⟨g.recipes, (single e Generator.saveEnsemble).symm.trans ?_⟩
    exact (after_bind_pure ([e].forM Generator.saveEnsemble) id g).symm
  | saveSequence s => exact ⟨g.recipes, (single s Generator.saveSequence).symm⟩
  | generate recipe name params =>
    obtain ⟨recipes, ran⟩ := generate_after recipe name params g
    refine ⟨recipes, (Action.after_discard _ g).trans (ran.trans ?_)⟩
    rw [made]
    cases g.makes recipe name params <;> rfl
  | _ => exact saves.elim

/-- What an operation that saves does to records and mark. -/
theorem saves_sheds {op : Operation α} (saves : op.Saves) {g : Generator α δ}
    (orderly : g.Orderly) :
    Sheds (Among ((op.saved g).Hits g) fun n =>
        g.UsedByAny ((op.saved g).Hits g) n ∨ ∃ s ∈ (op.saved g).sequences, n = s.name)
      (Among (fun _ => False) (g.UsedByAny ((op.saved g).Hits g))) g (op.after g) ∧
    (op.after g).device = g.device := by
  obtain ⟨recipes, ran⟩ := made_after saves g
  have start : Sheds (fun _ => False) (fun _ => False) g { g with recipes } :=
    Sheds.of_same rfl rfl rfl
  have selected : ({ g with recipes } : Generator α δ).Orderly := orderly.of_same rfl rfl rfl
  obtain ⟨sheds, device⟩ := Generated.save_sheds (Generated.saved_named (op.made g)) selected
  rw [Generated.save_saved, ← ran] at sheds device
  exact ⟨(start.trans sheds).congr (fun _ => Iff.of_eq (false_or _)) fun _ =>
    Iff.of_eq (false_or _), device⟩

end Operation

end PulseBench.Generator
