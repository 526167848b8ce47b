import PulseBench.Generator.Basic
import PulseBench.Proofs.Outcome
import PulseBench.Proofs.Roster

/-!
# Dropping records

Without a storage directory, dropping records never fails. `Forgets` says all
that it does: some ensembles and sequences lose their records, and perhaps
nothing is loaded any more. Objects, settings and device stay as they are.

Results:
1. `clearEnsembleRecord_ok`, `clearSequenceRecord_ok`: one object.
2. `forM_forgets`: a list of them.
3. `Forgets.get?_ensembles`: the ensembles that pass a test lost their records.
   `invalidateEnsemble_ok`: an ensemble and all sequences that play it.
-/

namespace PulseBench

variable {α δ : Type}

def Ensemble.forget (e : Ensemble α) : Ensemble α := { e with record := none }

def Sequence.forget (s : Sequence α) : Sequence α := { s with record := none }

theorem Ensemble.forget_of_not_isSampled {e : Ensemble α} (h : ¬ e.isSampled = true) :
    e.forget = e := by
  obtain ⟨name, plays, rotating, readout, record⟩ := e
  cases record with
  | none => rfl
  | some r => exact absurd rfl h

theorem Sequence.forget_of_not_isSampled {s : Sequence α} (h : ¬ s.isSampled = true) :
    s.forget = s := by
  obtain ⟨name, steps, rotating, readout, record⟩ := s
  cases record with
  | none => rfl
  | some r => exact absurd rfl h

namespace Generator

open Action (after after_of_ok)

/-- Ensembles and sequences of some names lost their records, and nothing else changed except for
what is loaded. -/
structure Forgets (ensembles sequences : String → Prop) (before after : Generator α δ) : Prop where
  dropped_ensemble : ∀ n, ensembles n →
    after.ensembles.get? n = (before.ensembles.get? n).map Ensemble.forget
  kept_ensemble : ∀ n, ¬ ensembles n → after.ensembles.get? n = before.ensembles.get? n
  dropped_sequence : ∀ n, sequences n →
    after.sequences.get? n = (before.sequences.get? n).map Sequence.forget
  kept_sequence : ∀ n, ¬ sequences n → after.sequences.get? n = before.sequences.get? n
  rest : after = { before with
    ensembles := after.ensembles
    sequences := after.sequences
    loaded := after.loaded }

/-- The sequence of this name plays an ensemble. -/
def UsedBy (g : Generator α δ) (ensemble : String) (n : String) : Prop :=
  ∃ s, g.sequences.get? n = some s ∧ s.uses ensemble = true

namespace Forgets

variable {es es' ss ss' : String → Prop} {a b c : Generator α δ}

theorem refl (a : Generator α δ) : Forgets (fun _ => False) (fun _ => False) a a where
  dropped_ensemble _ h := h.elim
  kept_ensemble _ _ := rfl
  dropped_sequence _ h := h.elim
  kept_sequence _ _ := rfl
  rest := rfl

theorem device (h : Forgets es ss a b) : b.device = a.device := by
  rw [h.rest]

theorem limits (h : Forgets es ss a b) : b.limits = a.limits := by
  rw [h.rest]

theorem settings (h : Forgets es ss a b) : b.settings = a.settings := by
  rw [h.rest]

theorem blocks (h : Forgets es ss a b) : b.blocks = a.blocks := by
  rw [h.rest]

theorem store (h : Forgets es ss a b) : b.store = a.store := by
  rw [h.rest]

theorem functions (h : Forgets es ss a b) : b.functions = a.functions := by
  rw [h.rest]

theorem compiler (h : Forgets es ss a b) : b.compiler = a.compiler := by
  rw [h.rest]
  rfl

theorem trans (first : Forgets es ss a b) (second : Forgets es' ss' b c) :
    Forgets (fun n => es n ∨ es' n) (fun n => ss n ∨ ss' n) a c where
  dropped_ensemble n which := by
    by_cases later : es' n
    · rw [second.dropped_ensemble n later]
      by_cases sooner : es n
      · rw [first.dropped_ensemble n sooner, Option.map_map]
        rfl
      · rw [first.kept_ensemble n sooner]
    · rw [second.kept_ensemble n later, first.dropped_ensemble n (which.resolve_right later)]
  kept_ensemble n neither := by
    rw [not_or] at neither
    rw [second.kept_ensemble n neither.2, first.kept_ensemble n neither.1]
  dropped_sequence n which := by
    by_cases later : ss' n
    · rw [second.dropped_sequence n later]
      by_cases sooner : ss n
      · rw [first.dropped_sequence n sooner, Option.map_map]
        rfl
      · rw [first.kept_sequence n sooner]
    · rw [second.kept_sequence n later, first.dropped_sequence n (which.resolve_right later)]
  kept_sequence n neither := by
    rw [not_or] at neither
    rw [second.kept_sequence n neither.2, first.kept_sequence n neither.1]
  rest := second.rest.trans (by rw [first.rest])

/-- Only which names are meant matters. -/
theorem congr (h : Forgets es ss a b) (sameEnsembles : ∀ n, es n ↔ es' n)
    (sameSequences : ∀ n, ss n ↔ ss' n) : Forgets es' ss' a b := by
  rw [← funext fun n => propext (sameEnsembles n), ← funext fun n => propext (sameSequences n)]
  exact h

/-- An ensemble with a record is one that was spared. -/
theorem ensemble_of_record (h : Forgets es ss a b) {n : String} {e : Ensemble α} {r : Record α}
    (found : b.ensembles.get? n = some e) (carried : e.record = some r) :
    ¬ es n ∧ a.ensembles.get? n = some e := by
  by_cases dropped : es n
  · rw [h.dropped_ensemble n dropped, Option.map_eq_some_iff] at found
    obtain ⟨own, -, rfl⟩ := found
    cases carried
  · exact ⟨dropped, (h.kept_ensemble n dropped).symm.trans found⟩

theorem sequence_of_record (h : Forgets es ss a b) {n : String} {s : Sequence α} {r : Record α}
    (found : b.sequences.get? n = some s) (carried : s.record = some r) :
    ¬ ss n ∧ a.sequences.get? n = some s := by
  by_cases dropped : ss n
  · rw [h.dropped_sequence n dropped, Option.map_eq_some_iff] at found
    obtain ⟨own, -, rfl⟩ := found
    cases carried
  · exact ⟨dropped, (h.kept_sequence n dropped).symm.trans found⟩

/-- An ensemble keeps everything but its record. -/
theorem ensemble_forget (h : Forgets es ss a b) {n : String} {e : Ensemble α}
    (found : b.ensembles.get? n = some e) :
    ∃ own, a.ensembles.get? n = some own ∧ own.forget = e.forget := by
  by_cases dropped : es n
  · rw [h.dropped_ensemble n dropped, Option.map_eq_some_iff] at found
    obtain ⟨own, listed, rfl⟩ := found
    exact ⟨own, listed, rfl⟩
  · exact ⟨e, (h.kept_ensemble n dropped).symm.trans found, rfl⟩

theorem sequence_forget (h : Forgets es ss a b) {n : String} {s : Sequence α}
    (found : b.sequences.get? n = some s) :
    ∃ own, a.sequences.get? n = some own ∧ own.forget = s.forget := by
  by_cases dropped : ss n
  · rw [h.dropped_sequence n dropped, Option.map_eq_some_iff] at found
    obtain ⟨own, listed, rfl⟩ := found
    exact ⟨own, listed, rfl⟩
  · exact ⟨s, (h.kept_sequence n dropped).symm.trans found, rfl⟩

/-- Dropping records leaves the steps of the sequences as they are. -/
theorem usedBy_iff (h : Forgets es ss a b) (ensemble n : String) :
    b.UsedBy ensemble n ↔ a.UsedBy ensemble n := by
  constructor
  · rintro ⟨s, found, uses⟩
    obtain ⟨own, listed, same⟩ := h.sequence_forget found
    have steps : own.forget.steps = s.forget.steps := by rw [same]
    refine ⟨own, listed, ?_⟩
    rw [Sequence.uses, show own.steps = s.steps from steps]
    exact uses
  · rintro ⟨s, found, uses⟩
    by_cases dropped : ss n
    · exact ⟨s.forget, by rw [h.dropped_sequence n dropped, found]; rfl, uses⟩
    · exact ⟨s, (h.kept_sequence n dropped).trans found, uses⟩

end Forgets

/-! ## 1. One object -/

section InMemory

variable {g : Generator α δ}

theorem persist_ok {β : Type} [Storable α β] (memory : g.store = none) (object : β) :
    persist object g = .ok ⟨⟩ g := by
  unfold persist
  rw [Action.bind_of_ok (Action.get_apply g), memory]
  rfl

theorem unpersist_ok (memory : g.store = none) (kind : ObjectKind) (name : String) :
    unpersist kind name g = .ok ⟨⟩ g := by
  unfold unpersist
  rw [Action.bind_of_ok (Action.get_apply g), memory]
  rfl

/-- Writing a file changes nothing but the store. -/
theorem persist_only {β : Type} [Storable α β] (object : β) (g : Generator α δ) :
    ∃ store, (persist object : Action α (Generator α δ) Unit).after g = { g with store } := by
  cases stored : g.store with
  | none =>
    rw [after_of_ok (persist_ok stored object)]
    exact ⟨g.store, rfl⟩
  | some store =>
    unfold persist
    rw [after, Action.run, Action.bind_of_ok (Action.get_apply g), stored]
    dsimp only
    cases store.save object with
    | error f => exact ⟨g.store, rfl⟩
    | ok store => exact ⟨some store, rfl⟩

/-- Nor does removing one. -/
theorem unpersist_only (kind : ObjectKind) (name : String) (g : Generator α δ) :
    ∃ store, (unpersist kind name : Action α (Generator α δ) Unit).after g = { g with store } := by
  cases stored : g.store with
  | none =>
    rw [after_of_ok (unpersist_ok stored kind name)]
    exact ⟨g.store, rfl⟩
  | some store =>
    unfold unpersist
    rw [after, Action.run, Action.bind_of_ok (Action.get_apply g), stored]
    dsimp only
    cases store.delete kind name with
    | error f => exact ⟨g.store, rfl⟩
    | ok removed => exact ⟨some removed.2, rfl⟩

variable [Scalar α]

theorem clearEnsembleRecord_ok (memory : g.store = none) (name : String) :
    ∃ g', clearEnsembleRecord name g = .ok ⟨⟩ g' ∧
      Forgets (· = name) (fun _ => False) g g' := by
  unfold clearEnsembleRecord
  rw [Action.bind_of_ok (Action.get_apply g)]
  cases found : g.ensembles.get? name with
  | none =>
    refine ⟨g, rfl, ?_, fun _ _ => rfl, fun _ h => h.elim, fun _ _ => rfl, rfl⟩
    rintro n rfl
    rw [found]
    rfl
  | some e =>
    by_cases sampled : e.isSampled = true
    · simp only [sampled, if_true]
      rw [Action.bind_of_ok (Action.modify_apply _ g)]
      refine ⟨_, persist_ok (by exact memory) _, ?_, fun n other => ?_, fun _ h => h.elim,
        fun _ _ => rfl, rfl⟩
      · rintro n rfl
        rw [found]
        exact Roster.get?_insert_self _ _ _
      · exact Roster.get?_insert_of_ne _ _ other
    · simp only [sampled]
      refine ⟨g, rfl, ?_, fun _ _ => rfl, fun _ h => h.elim, fun _ _ => rfl, rfl⟩
      rintro n rfl
      rw [found, Option.map_some, Ensemble.forget_of_not_isSampled sampled]

omit [Scalar α] in
theorem forgets_unload (asset : LoadedAsset) (g : Generator α δ) :
    Forgets (fun _ => False) (fun _ => False) g (unload asset g) := by
  unfold unload
  split
  · exact ⟨fun _ h => h.elim, fun _ _ => rfl, fun _ h => h.elim, fun _ _ => rfl, rfl⟩
  · exact Forgets.refl g

theorem clearSequenceRecord_ok (memory : g.store = none) (name : String) :
    ∃ g', clearSequenceRecord name g = .ok ⟨⟩ g' ∧
      Forgets (fun _ => False) (· = name) g g' := by
  -- What is loaded does not matter, so only the record has to be followed.
  have unloaded {middle : Generator α δ} (dropped : Forgets (fun _ => False) (· = name) g middle) :
      Forgets (fun _ => False) (· = name) g (unload ⟨name, .sequence⟩ middle) :=
    (dropped.trans (forgets_unload _ middle)).congr (fun _ => or_self_iff) fun _ => by simp
  unfold clearSequenceRecord
  rw [Action.bind_of_ok (Action.get_apply g)]
  cases found : g.sequences.get? name with
  | none =>
    refine ⟨_, rfl, unloaded ⟨fun _ h => h.elim, fun _ _ => rfl, ?_, fun _ _ => rfl, rfl⟩⟩
    rintro n rfl
    rw [found]
    rfl
  | some s =>
    by_cases sampled : s.isSampled = true
    · simp only [sampled, if_true]
      rw [Action.bind_of_ok (Action.modify_apply _ g)]
      refine ⟨_, Action.bind_of_ok (persist_ok (by exact memory) _), unloaded
        ⟨fun _ h => h.elim, fun _ _ => rfl, ?_, fun n other => ?_, rfl⟩⟩
      · rintro n rfl
        rw [found]
        exact Roster.get?_insert_self _ _ _
      · exact Roster.get?_insert_of_ne _ _ other
    · simp only [sampled]
      refine ⟨_, rfl, unloaded ⟨fun _ h => h.elim, fun _ _ => rfl, ?_, fun _ _ => rfl, rfl⟩⟩
      rintro n rfl
      rw [found, Option.map_some, Sequence.forget_of_not_isSampled sampled]

/-! ## 2. Lists of objects -/

omit [Scalar α] in
/-- A loop over actions that drop records. -/
theorem forM_forgets {β : Type} (items : List β) {act : β → Action α (Generator α δ) PUnit}
    {es ss : β → String → Prop}
    (each : ∀ b ∈ items, ∀ g : Generator α δ, g.store = none →
      ∃ g', act b g = .ok ⟨⟩ g' ∧ Forgets (es b) (ss b) g g')
    (memory : g.store = none) :
    ∃ g', items.forM act g = .ok ⟨⟩ g' ∧
      Forgets (fun n => ∃ b ∈ items, es b n) (fun n => ∃ b ∈ items, ss b n) g g' := by
  induction items generalizing g with
  | nil => exact ⟨g, rfl, (Forgets.refl g).congr (fun n => by simp) fun n => by simp⟩
  | cons b rest ih =>
    obtain ⟨middle, cleared, first⟩ := each b List.mem_cons_self g memory
    obtain ⟨g', others, later⟩ :=
      ih (fun d member => each d (List.mem_cons_of_mem _ member)) (first.store.trans memory)
    exact ⟨g', (Action.bind_of_ok cleared).trans others,
      (first.trans later).congr (fun n => by simp) fun n => by simp⟩

theorem forM_clearEnsembleRecord_ok (memory : g.store = none) (names : List String) :
    ∃ g', names.forM clearEnsembleRecord g = .ok ⟨⟩ g' ∧
      Forgets (· ∈ names) (fun _ => False) g g' := by
  obtain ⟨g', cleared, forgets⟩ := forM_forgets names
    (fun name _ g memory => clearEnsembleRecord_ok (g := g) memory name) memory
  exact ⟨g', cleared, forgets.congr (fun n => by simp) fun n => by simp⟩

theorem forM_clearSequenceRecord_ok (memory : g.store = none) (names : List String) :
    ∃ g', names.forM clearSequenceRecord g = .ok ⟨⟩ g' ∧
      Forgets (fun _ => False) (· ∈ names) g g' := by
  obtain ⟨g', cleared, forgets⟩ := forM_forgets names
    (fun name _ g memory => clearSequenceRecord_ok (g := g) memory name) memory
  exact ⟨g', cleared, forgets.congr (fun n => by simp) fun n => by simp⟩

/-! ## 3. An ensemble and its users -/

omit [Scalar α] in
/-- The ensembles that pass a test, if every ensemble is kept under its own name. -/
theorem mem_ensemblesWhere_iff (named : ∀ n e, g.ensembles.get? n = some e → e.name = n)
    (test : Ensemble α → Bool) (n : String) :
    n ∈ g.ensemblesWhere test ↔ ∃ e, g.ensembles.get? n = some e ∧ test e = true := by
  simp only [ensemblesWhere, List.mem_map, List.mem_filter, Roster.mem_values_iff]
  constructor
  · rintro ⟨e, ⟨⟨key, found⟩, passes⟩, rfl⟩
    rw [← named key e found] at found
    exact ⟨e, found, passes⟩
  · rintro ⟨e, found, passes⟩
    exact ⟨e, ⟨⟨n, found⟩, passes⟩, named n e found⟩

omit [Scalar α] in
theorem mem_sequencesWhere_iff (named : ∀ n s, g.sequences.get? n = some s → s.name = n)
    (test : Sequence α → Bool) (n : String) :
    n ∈ g.sequencesWhere test ↔ ∃ s, g.sequences.get? n = some s ∧ test s = true := by
  simp only [sequencesWhere, List.mem_map, List.mem_filter, Roster.mem_values_iff]
  constructor
  · rintro ⟨s, ⟨⟨key, found⟩, passes⟩, rfl⟩
    rw [← named key s found] at found
    exact ⟨s, found, passes⟩
  · rintro ⟨s, found, passes⟩
    exact ⟨s, ⟨⟨n, found⟩, passes⟩, named n s found⟩

omit [Scalar α] in
/-- What became of the ensembles where some lost their records. -/
theorem Forgets.get?_ensembles {test : Ensemble α → Bool} {ss : String → Prop}
    {a b : Generator α δ} (f : Forgets (· ∈ a.ensemblesWhere test) ss a b)
    (named : ∀ n e, a.ensembles.get? n = some e → e.name = n) (n : String) :
    b.ensembles.get? n = (a.ensembles.get? n).map fun e => if test e then e.forget else e := by
  have listed := mem_ensemblesWhere_iff named test n
  by_cases dropped : n ∈ a.ensemblesWhere test
  · obtain ⟨e, found, passes⟩ := listed.mp dropped
    rw [f.dropped_ensemble n dropped, found, Option.map_some, Option.map_some, if_pos passes]
  · rw [f.kept_ensemble n dropped]
    cases found : a.ensembles.get? n with
    | none => rfl
    | some e => rw [Option.map_some, if_neg fun passes => dropped (listed.mpr ⟨e, found, passes⟩)]

omit [Scalar α] in
theorem Forgets.get?_sequences {test : Sequence α → Bool} {es : String → Prop}
    {a b : Generator α δ} (f : Forgets es (· ∈ a.sequencesWhere test) a b)
    (named : ∀ n s, a.sequences.get? n = some s → s.name = n) (n : String) :
    b.sequences.get? n = (a.sequences.get? n).map fun s => if test s then s.forget else s := by
  have listed := mem_sequencesWhere_iff named test n
  by_cases dropped : n ∈ a.sequencesWhere test
  · obtain ⟨s, found, passes⟩ := listed.mp dropped
    rw [f.dropped_sequence n dropped, found, Option.map_some, Option.map_some, if_pos passes]
  · rw [f.kept_sequence n dropped]
    cases found : a.sequences.get? n with
    | none => rfl
    | some s => rw [Option.map_some, if_neg fun passes => dropped (listed.mpr ⟨s, found, passes⟩)]

theorem invalidateUsers_ok (memory : g.store = none)
    (named : ∀ n s, g.sequences.get? n = some s → s.name = n) (ensemble : String) :
    ∃ g', invalidateUsers ensemble g = .ok ⟨⟩ g' ∧
      Forgets (fun _ => False) (g.UsedBy ensemble) g g' := by
  obtain ⟨g', cleared, forgets⟩ :=
    forM_clearSequenceRecord_ok memory (g.sequencesWhere (·.uses ensemble))
  refine ⟨g', (Action.bind_of_ok (Action.get_apply g)).trans cleared, ?_⟩
  exact forgets.congr (fun _ => Iff.rfl) (mem_sequencesWhere_iff named _)

/-- An ensemble and all sequences that play it lose their records. -/
theorem invalidateEnsemble_ok (memory : g.store = none)
    (named : ∀ n s, g.sequences.get? n = some s → s.name = n) (name : String) :
    ∃ g', invalidateEnsemble name g = .ok ⟨⟩ g' ∧
      Forgets (· = name) (g.UsedBy name) g g' := by
  obtain ⟨middle, cleared, first⟩ := clearEnsembleRecord_ok memory name
  have same : ∀ n, middle.sequences.get? n = g.sequences.get? n := fun n =>
    first.kept_sequence n id
  obtain ⟨g', invalidated, later⟩ := invalidateUsers_ok (g := middle) (first.store.trans memory)
    (fun n s found => named n s ((same n).symm.trans found)) name
  refine ⟨g', (Action.bind_of_ok cleared).trans invalidated, (first.trans later).congr
    (fun n => by simp) fun n => ?_⟩
  simp only [UsedBy, same, false_or]

/-- The same for a list of ensembles. -/
theorem forM_invalidateEnsemble_ok (memory : g.store = none)
    (named : ∀ n s, g.sequences.get? n = some s → s.name = n) (names : List String) :
    ∃ g', names.forM invalidateEnsemble g = .ok ⟨⟩ g' ∧
      Forgets (· ∈ names) (fun n => ∃ name ∈ names, g.UsedBy name n) g g' := by
  induction names generalizing g with
  | nil =>
    exact ⟨g, rfl, (Forgets.refl g).congr (fun n => by simp) fun n => by simp⟩
  | cons name rest ih =>
    obtain ⟨middle, cleared, first⟩ := invalidateEnsemble_ok memory named name
    have sameName : ∀ n s, middle.sequences.get? n = some s → s.name = n := by
      intro n s found
      obtain ⟨own, listed, same⟩ := first.sequence_forget found
      exact (congrArg Sequence.name same).symm.trans (named n own listed)
    have sameUsers : ∀ ensemble n, middle.UsedBy ensemble n ↔ g.UsedBy ensemble n :=
      fun ensemble n => first.usedBy_iff ensemble n
    obtain ⟨g', others, later⟩ := ih (first.store.trans memory) sameName
    refine ⟨g', (Action.bind_of_ok cleared).trans others, (first.trans later).congr
      (fun n => List.mem_cons.symm) fun n => ?_⟩
    simp only [sameUsers, List.mem_cons, exists_eq_or_imp]

end InMemory

end Generator

end PulseBench
