import PulseBench.Proofs.Generator.Orderly

/-!
# Records and the mark of what is loaded

A generator marks the asset that it loaded last. Dropping a record may also
take the mark away, and it matters when it does not. `Sheds` says of a step
which assets lose their record and which are no longer marked; everything else
about records and mark stays.

Clearing the record of a sequence takes the mark along, clearing the record of
an ensemble does not. All else follows from that.

Results:
1. `Sheds.trans`, `Forgets.sheds`, `Sheds.of_ensembles`: steps one after the other, and
   steps that only drop or replace objects.
2. `forM_unloads`, `clearSequenceRecord_unloads`, `invalidateUsers_unloads`: the
   mark alone.
-/

namespace PulseBench.Generator

variable {α δ : Type}

open PulseBench.Action (Moves after after_of_ok after_of_error)

/-! ## 1. Records and mark -/

/-- The record of an asset, if its object is there and sampled. -/
def record? (g : Generator α δ) : LoadedAsset → Option (Record α)
  | ⟨n, .ensemble⟩ => (g.ensembles.get? n).bind Ensemble.record
  | ⟨n, .sequence⟩ => (g.sequences.get? n).bind Sequence.record

/-- Ensembles and sequences of some names. -/
def Among (ensembles sequences : String → Prop) : LoadedAsset → Prop
  | ⟨n, .ensemble⟩ => ensembles n
  | ⟨n, .sequence⟩ => sequences n

/-- Some assets are no longer marked as loaded, and no other becomes so. -/
def Unloads (which : LoadedAsset → Prop) (before after : Generator α δ) : Prop :=
  ∀ a, after.loaded = some a ↔ before.loaded = some a ∧ ¬ which a

/-- Some assets lose their record, and some are no longer marked as loaded. -/
structure Sheds (lost unloaded : LoadedAsset → Prop) (before after : Generator α δ) : Prop where
  dropped : ∀ a, lost a → after.record? a = none
  kept : ∀ a, ¬ lost a → after.record? a = before.record? a
  mark : Unloads unloaded before after

section Relations

variable {es es' ss ss' : String → Prop} {d d' u u' : LoadedAsset → Prop}
  {a b c : Generator α δ}

theorem unloads_of_same (same : b.loaded = a.loaded) : Unloads (fun _ => False) a b := by
  intro x
  rw [same, not_false_eq_true, and_true]

theorem Unloads.trans (first : Unloads u a b) (second : Unloads u' b c) :
    Unloads (fun x => u x ∨ u' x) a c := by
  intro x
  rw [second x, first x, not_or, and_assoc]

theorem Unloads.congr (h : Unloads u a b) (same : ∀ x, u x ↔ u' x) : Unloads u' a b := by
  rw [← funext fun x => propext (same x)]
  exact h

/-- What is not loaded does not become so. -/
theorem Unloads.none (h : Unloads u a b) (nothing : a.loaded = .none) : b.loaded = .none := by
  cases marked : b.loaded with
  | none => rfl
  | some x =>
    have before := ((h x).mp marked).1
    rw [nothing] at before
    cases before

theorem unload_unloads (asset : LoadedAsset) (g : Generator α δ) :
    Unloads (· = asset) g (unload asset g) := by
  intro x
  unfold unload
  split
  · rename_i marked
    constructor
    · rintro ⟨⟩
    · rintro ⟨own, other⟩
      rw [marked] at own
      exact absurd (Option.some.inj own).symm other
  · rename_i other
    refine ⟨fun own => ⟨own, ?_⟩, And.left⟩
    rintro rfl
    exact other own

/-- Records and mark only depend on the objects and on what is marked. -/
theorem Sheds.of_same (ensembles : b.ensembles = a.ensembles)
    (sequences : b.sequences = a.sequences) (loaded : b.loaded = a.loaded) :
    Sheds (fun _ => False) (fun _ => False) a b where
  dropped _ h := h.elim
  kept x _ := by
    obtain ⟨n, kind⟩ := x
    cases kind with
    | ensemble => rw [record?, record?, ensembles]
    | sequence => rw [record?, record?, sequences]
  mark := unloads_of_same loaded

theorem Sheds.refl (g : Generator α δ) : Sheds (fun _ => False) (fun _ => False) g g :=
  Sheds.of_same rfl rfl rfl

theorem Sheds.trans (first : Sheds d u a b) (second : Sheds d' u' b c) :
    Sheds (fun x => d x ∨ d' x) (fun x => u x ∨ u' x) a c where
  dropped x which := by
    by_cases later : d' x
    · exact second.dropped x later
    · rw [second.kept x later]
      exact first.dropped x (which.resolve_right later)
  kept x neither := by
    rw [not_or] at neither
    rw [second.kept x neither.2, first.kept x neither.1]
  mark := first.mark.trans second.mark

theorem Sheds.congr (h : Sheds d u a b) (sameLost : ∀ x, d x ↔ d' x)
    (sameUnloaded : ∀ x, u x ↔ u' x) : Sheds d' u' a b := by
  rw [← funext fun x => propext (sameLost x), ← funext fun x => propext (sameUnloaded x)]
  exact h

/-- An asset with a record is one that was spared. -/
theorem Sheds.of_record (h : Sheds d u a b) {x : LoadedAsset} {r : Record α}
    (carried : b.record? x = some r) : ¬ d x ∧ a.record? x = some r := by
  have spared : ¬ d x := by
    intro dropped
    rw [h.dropped x dropped] at carried
    cases carried
  exact ⟨spared, (h.kept x spared).symm.trans carried⟩

/-- Where records are dropped, only the mark has to be followed. -/
theorem Forgets.sheds (f : Forgets es ss a b) (mark : Unloads u a b) :
    Sheds (Among es ss) u a b where
  dropped x which := by
    obtain ⟨n, kind⟩ := x
    cases kind with
    | ensemble =>
      rw [record?, f.dropped_ensemble n which]
      cases a.ensembles.get? n <;> rfl
    | sequence =>
      rw [record?, f.dropped_sequence n which]
      cases a.sequences.get? n <;> rfl
  kept x other := by
    obtain ⟨n, kind⟩ := x
    cases kind with
    | ensemble => rw [record?, record?, f.kept_ensemble n other]
    | sequence => rw [record?, record?, f.kept_sequence n other]
  mark := mark

/-- Some ensembles were replaced by such without record, or removed. -/
theorem Sheds.of_ensembles {g : Generator α δ} {ensembles : Roster (Ensemble α)}
    (lost : ∀ n, es n → (ensembles.get? n).bind Ensemble.record = none)
    (others : ∀ n, ¬ es n → ensembles.get? n = g.ensembles.get? n) :
    Sheds (Among es fun _ => False) (fun _ => False) g { g with ensembles } where
  dropped x which := by
    obtain ⟨n, kind⟩ := x
    cases kind with
    | ensemble => exact lost n which
    | sequence => exact which.elim
  kept x other := by
    obtain ⟨n, kind⟩ := x
    cases kind with
    | ensemble => rw [record?, record?, others n other]
    | sequence => rfl
  mark := unloads_of_same rfl

theorem Sheds.of_sequences {g : Generator α δ} {sequences : Roster (Sequence α)}
    (lost : ∀ n, ss n → (sequences.get? n).bind Sequence.record = none)
    (others : ∀ n, ¬ ss n → sequences.get? n = g.sequences.get? n) :
    Sheds (Among (fun _ => False) ss) (fun _ => False) g { g with sequences } where
  dropped x which := by
    obtain ⟨n, kind⟩ := x
    cases kind with
    | ensemble => exact which.elim
    | sequence => exact lost n which
  kept x other := by
    obtain ⟨n, kind⟩ := x
    cases kind with
    | ensemble => rfl
    | sequence => rw [record?, record?, others n other]
  mark := unloads_of_same rfl

end Relations

/-! ## 2. The mark alone -/

section Mark

variable {g g' : Generator α δ}

/-- A step that leaves the mark. -/
def SameMark (before after : Generator α δ) : Prop := after.loaded = before.loaded

theorem SameMark.refl (g : Generator α δ) : SameMark g g := rfl

theorem SameMark.trans (a b c : Generator α δ) (first : SameMark a b) (second : SameMark b c) :
    SameMark a c :=
  Eq.trans second first

theorem persist_mark {β : Type} [Storable α β] (object : β) :
    Moves SameMark (persist object : Action α (Generator α δ) Unit) :=
  persist_moves (fun _ _ => rfl) object

/-- A loop of which every round unloads something. -/
theorem forM_unloads {β : Type} {items : List β} {act : β → Action α (Generator α δ) PUnit}
    {which : β → LoadedAsset → Prop}
    (each : ∀ b ∈ items, ∀ g g' : Generator α δ, act b g = .ok ⟨⟩ g' → Unloads (which b) g g')
    (done : items.forM act g = .ok ⟨⟩ g') : Unloads (fun a => ∃ b ∈ items, which b a) g g' := by
  induction items generalizing g with
  | nil =>
    cases done
    exact (unloads_of_same rfl).congr fun a => by simp
  | cons b rest ih =>
    cases first : act b g with
    | error f middle =>
      cases (Action.bind_of_error first).symm.trans done
    | ok _ middle =>
      have others := ih (fun d member => each d (List.mem_cons_of_mem _ member))
        ((Action.bind_of_ok first).symm.trans done)
      exact ((each b List.mem_cons_self g middle first).trans others).congr fun a => by simp

variable [Scalar α]

theorem clearEnsembleRecord_mark (name : String) :
    Moves SameMark (clearEnsembleRecord name : Action α (Generator α δ) Unit) :=
  clearEnsembleRecord_moves SameMark.refl name fun _ _ _ =>
    noteEnsemble_after SameMark.trans (fun _ _ => rfl) rfl

/-- Clearing the record of a sequence takes the mark along. -/
theorem clearSequenceRecord_unloads {name : String}
    (done : clearSequenceRecord name g = .ok ⟨⟩ g') : Unloads (· = ⟨name, .sequence⟩) g g' := by
  -- Whatever becomes of the record, the mark is only touched behind it.
  obtain ⟨cleared, kept, same⟩ : ∃ cleared : Action α (Generator α δ) PUnit,
      Moves SameMark cleared ∧
      clearSequenceRecord name g = (do cleared; modify (unload ⟨name, .sequence⟩)) g := by
    unfold clearSequenceRecord
    rw [Action.bind_of_ok (Action.get_apply g)]
    cases g.sequences.get? name with
    | none => exact ⟨pure ⟨⟩, SameMark.refl, rfl⟩
    | some s =>
      by_cases sampled : s.isSampled = true
      · simp only [sampled, if_true]
        refine ⟨(do
          modify fun g => { g with sequences := g.sequences.insert name s.forget }
          persist s.forget), ?_, rfl⟩
        refine Moves.bind SameMark.trans (Moves.modify fun _ => ?_) fun _ => persist_mark s.forget
        rfl
      · simp only [sampled]
        exact ⟨pure ⟨⟩, SameMark.refl, rfl⟩
  rw [same] at done
  have mark := kept g
  cases ran : cleared g with
  | error f middle =>
    rw [Action.bind_of_error ran] at done
    cases done
  | ok _ middle =>
    rw [Action.bind_of_ok ran] at done
    cases done
    rw [after_of_ok ran] at mark
    exact ((unloads_of_same mark).trans (unload_unloads _ middle)).congr fun a => by simp

theorem forM_clearSequenceRecord_unloads {names : List String}
    (done : names.forM clearSequenceRecord g = .ok ⟨⟩ g') :
    Unloads (Among (fun _ => False) (· ∈ names)) g g' := by
  have each : ∀ n ∈ names, ∀ g g' : Generator α δ, clearSequenceRecord n g = .ok ⟨⟩ g' →
      Unloads (· = ⟨n, .sequence⟩) g g' := fun _ _ _ _ => clearSequenceRecord_unloads
  refine (forM_unloads each done).congr fun a => ?_
  obtain ⟨n, kind⟩ := a
  cases kind with
  | ensemble => simp [Among]
  | sequence => simp [Among]

theorem forM_clearEnsembleRecord_mark (names : List String) :
    Moves SameMark (names.forM clearEnsembleRecord : Action α (Generator α δ) PUnit) :=
  Moves.forM SameMark.refl SameMark.trans fun name _ => clearEnsembleRecord_mark name

/-- The sequences that play an ensemble lose their records and are unloaded. -/
theorem invalidateUsers_unloads (orderly : g.Orderly) (ensemble : String) :
    ∃ g', invalidateUsers ensemble g = .ok ⟨⟩ g' ∧
      Forgets (fun _ => False) (g.UsedBy ensemble) g g' ∧
      Unloads (Among (fun _ => False) (g.UsedBy ensemble)) g g' := by
  obtain ⟨g', invalidated, forgets⟩ :=
    invalidateUsers_ok orderly.store orderly.sequence_named ensemble
  have users : (g.sequencesWhere (·.uses ensemble)).forM clearSequenceRecord g = .ok ⟨⟩ g' :=
    invalidated
  refine ⟨g', invalidated, forgets, (forM_clearSequenceRecord_unloads users).congr fun a => ?_⟩
  obtain ⟨n, kind⟩ := a
  cases kind with
  | ensemble => exact Iff.rfl
  | sequence => exact mem_sequencesWhere_iff orderly.sequence_named _ n

end Mark

/-- Nothing is marked when a generator starts, whatever its store holds. -/
theorem start_unmarked [Analytic α] [Pulser α δ] {g : Generator α δ} {options : GeneratorOptions α}
    {device : δ} (started : start options device = .ok g) : g.loaded = none := by
  -- Records that are out of date are dropped, and that marks nothing.
  have dropping {g g' : Generator α δ}
      (dropped : (dropStaleRecords : Action α (Generator α δ) Unit) g = .ok ⟨⟩ g')
      (nothing : g.loaded = none) : g'.loaded = none := by
    unfold dropStaleRecords at dropped
    rw [Action.bind_of_ok (Action.get_apply g)] at dropped
    dsimp only at dropped
    have mark := forM_clearEnsembleRecord_mark
      (g.ensemblesWhere fun e => mentions e.record fun asset => !g.assetNames.contains asset) g
    cases ensembles : (g.ensemblesWhere fun e => mentions e.record fun asset =>
        !g.assetNames.contains asset).forM clearEnsembleRecord g with
    | error f middle =>
      rw [Action.bind_of_error ensembles] at dropped
      cases dropped
    | ok _ middle =>
      rw [Action.bind_of_ok ensembles] at dropped
      rw [after_of_ok ensembles] at mark
      exact (forM_clearSequenceRecord_unloads dropped).none (Eq.trans mark nothing)
  obtain ⟨recipes, -, dropped⟩ := start_ok_iff.mp started
  exact dropping dropped rfl

end PulseBench.Generator
