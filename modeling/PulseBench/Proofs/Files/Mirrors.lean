import PulseBench.Proofs.Files.Codec
import PulseBench.Proofs.Files.Directory

/-!
# A directory that mirrors memory

Blocks, ensembles and sequences share one directory. `Mirrors` says that it shows all three
collections, each with its own kind of files. Saving or deleting an object in the directory and
in the collection of its kind keeps that.

A directory that only the store wrote to (`Written`) mirrors something, and if all that was
written can be read, that is what is loaded from it.

Results:
1. `Mirrors.saveBlock`, `Mirrors.withoutBlock` and so on: one object is saved or deleted.
2. `Mirrors.get?_loadAll`: what is loaded is what was held.
3. `Written.mirrors_loadAll`: what a directory mirrors that only the store wrote to.
-/

namespace PulseBench.Store

variable {α : Type} [Scalar α] {s next : Store α} {blocks blocks' : Roster (Block α)}
  {ensembles ensembles' : Roster (Ensemble α)} {sequences sequences' : Roster (Sequence α)}

@[simp] theorem kind_block : Storable.kind (Block α) = .block := rfl

@[simp] theorem kind_ensemble : Storable.kind (Ensemble α) = .ensemble := rfl

@[simp] theorem kind_sequence : Storable.kind (Sequence α) = .sequence := rfl

/-- The files of each kind hold the objects of that kind. -/
structure Mirrors (s : Store α) (blocks : Roster (Block α)) (ensembles : Roster (Ensemble α))
    (sequences : Roster (Sequence α)) : Prop where
  blocks : s.Shows blocks
  ensembles : s.Shows ensembles
  sequences : s.Shows sequences

namespace Mirrors

/-! ## 1. One object -/

theorem congr (h : s.Mirrors blocks ensembles sequences)
    (sameBlocks : ∀ n, blocks'.get? n = blocks.get? n)
    (sameEnsembles : ∀ n, ensembles'.get? n = ensembles.get? n)
    (sameSequences : ∀ n, sequences'.get? n = sequences.get? n) :
    s.Mirrors blocks' ensembles' sequences' :=
  ⟨h.blocks.congr sameBlocks, h.ensembles.congr sameEnsembles, h.sequences.congr sameSequences⟩

theorem saveBlock (h : s.Mirrors blocks ensembles sequences) {b : Block α}
    (saved : s.save b = .ok next) :
    next.Mirrors (blocks.insert b.name b) ensembles sequences :=
  ⟨h.blocks.save saved, h.ensembles.save_other (by simp) saved,
    h.sequences.save_other (by simp) saved⟩

theorem saveEnsemble (h : s.Mirrors blocks ensembles sequences) {e : Ensemble α}
    (saved : s.save e = .ok next) :
    next.Mirrors blocks (ensembles.insert e.name e) sequences :=
  ⟨h.blocks.save_other (by simp) saved, h.ensembles.save saved,
    h.sequences.save_other (by simp) saved⟩

theorem saveSequence (h : s.Mirrors blocks ensembles sequences) {q : Sequence α}
    (saved : s.save q = .ok next) :
    next.Mirrors blocks ensembles (sequences.insert q.name q) :=
  ⟨h.blocks.save_other (by simp) saved, h.ensembles.save_other (by simp) saved,
    h.sequences.save saved⟩

theorem withoutBlock (h : s.Mirrors blocks ensembles sequences) (name : String) :
    (s.without .block name).Mirrors (blocks.erase name) ensembles sequences :=
  ⟨h.blocks.without name, h.ensembles.without_other (by simp) name,
    h.sequences.without_other (by simp) name⟩

theorem withoutEnsemble (h : s.Mirrors blocks ensembles sequences) (name : String) :
    (s.without .ensemble name).Mirrors blocks (ensembles.erase name) sequences :=
  ⟨h.blocks.without_other (by simp) name, h.ensembles.without name,
    h.sequences.without_other (by simp) name⟩

theorem withoutSequence (h : s.Mirrors blocks ensembles sequences) (name : String) :
    (s.without .sequence name).Mirrors blocks ensembles (sequences.erase name) :=
  ⟨h.blocks.without_other (by simp) name, h.ensembles.without_other (by simp) name,
    h.sequences.without name⟩

end Mirrors

/-! ## 2. Reading all objects -/

/-- Files can hold all objects: their numbers are finite, and counts and integers not too large. -/
def fits (blocks : Roster (Block α)) (ensembles : Roster (Ensemble α))
    (sequences : Roster (Sequence α)) : Bool :=
  blocks.values.all Block.fits && ensembles.values.all Ensemble.fits &&
    sequences.values.all Sequence.fits

omit [Scalar α] in
theorem values_all_iff {β : Type} {r : Roster β} {fit : β → Bool} :
    r.values.all fit = true ↔ ∀ n object, r.get? n = some object → fit object = true := by
  rw [List.all_eq_true]
  exact ⟨fun all n object found => all object (Roster.mem_values_iff.mpr ⟨n, found⟩),
    fun all object member => by
      obtain ⟨n, found⟩ := Roster.mem_values_iff.mp member
      exact all n object found⟩

theorem fits_iff :
    fits blocks ensembles sequences = true ↔
      (∀ n b, blocks.get? n = some b → b.fits = true) ∧
      (∀ n e, ensembles.get? n = some e → e.fits = true) ∧
      ∀ n q, sequences.get? n = some q → q.fits = true := by
  rw [fits, Bool.and_eq_true, Bool.and_eq_true, values_all_iff, values_all_iff, values_all_iff,
    and_assoc]

/-- What is loaded is what was held: equal objects under the same names. -/
theorem Mirrors.get?_loadAll (h : s.Mirrors blocks ensembles sequences)
    (fit : fits blocks ensembles sequences = true) :
    (∀ n, (s.loadAll : Roster (Block α)).get? n = blocks.get? n) ∧
    (∀ n, (s.loadAll : Roster (Ensemble α)).get? n = ensembles.get? n) ∧
    ∀ n, (s.loadAll : Roster (Sequence α)).get? n = sequences.get? n := by
  obtain ⟨block, ensemble, sequence⟩ := fits_iff.mp fit
  exact ⟨h.blocks.get?_loadAll fun n b found => Block.reads b (block n b found),
    h.ensembles.get?_loadAll fun n e found => Ensemble.reads e (ensemble n e found),
    h.sequences.get?_loadAll fun n q found => Sequence.reads q (sequence n q found)⟩

/-! ## 3. Directories that only the store wrote to -/

/-- A directory into which the store wrote objects that fit, and from which it deleted some. -/
inductive Written : Store α → Prop
  | empty : Written empty
  | block {s next : Store α} {b : Block α} (before : Written s) (fit : b.fits = true)
      (saved : s.save b = .ok next) : Written next
  | ensemble {s next : Store α} {e : Ensemble α} (before : Written s) (fit : e.fits = true)
      (saved : s.save e = .ok next) : Written next
  | sequence {s next : Store α} {q : Sequence α} (before : Written s) (fit : q.fits = true)
      (saved : s.save q = .ok next) : Written next
  | delete {s next : Store α} {kind : ObjectKind} {name : String} {found : Bool}
      (before : Written s) (deleted : s.delete kind name = .ok (found, next)) : Written next

omit [Scalar α] in
/-- One more object that fits. -/
theorem insert_fits {β : Type} {r : Roster β} {fit : β → Bool}
    (all : ∀ n object, r.get? n = some object → fit object = true) {name : String} {new : β}
    (suits : fit new = true) :
    ∀ n object, (r.insert name new).get? n = some object → fit object = true := by
  intro n object found
  rw [Roster.get?_insert] at found
  split at found
  case isTrue =>
    cases found
    exact suits
  case isFalse => exact all n object found

omit [Scalar α] in
theorem erase_fits {β : Type} {r : Roster β} {fit : β → Bool}
    (all : ∀ n object, r.get? n = some object → fit object = true) (name : String) :
    ∀ n object, (r.erase name).get? n = some object → fit object = true := by
  intro n object found
  rw [Roster.get?_erase] at found
  split at found
  case isTrue => cases found
  case isFalse => exact all n object found

omit [Scalar α] in
/-- A deletion that succeeds leaves the directory without the file. -/
theorem delete_eq {kind : ObjectKind} {name : String} {found : Bool}
    (deleted : s.delete kind name = .ok (found, next)) : next = s.without kind name := by
  by_cases usable : isUsable name = true
  · rw [delete_of_usable usable] at deleted
    exact (Prod.mk.inj (Except.ok.inj deleted)).2.symm
  · rw [delete, fileName_of_unusable usable] at deleted
    cases deleted

theorem Written.mirrors (written : Written s) :
    ∃ blocks ensembles sequences, s.Mirrors blocks ensembles sequences ∧
      fits blocks ensembles sequences = true := by
  induction written with
  | empty => exact ⟨∅, ∅, ∅, ⟨shows_empty, shows_empty, shows_empty⟩, rfl⟩
  | block before fit saved ih =>
    obtain ⟨blocks, ensembles, sequences, mirrors, fits⟩ := ih
    obtain ⟨block, ensemble, sequence⟩ := fits_iff.mp fits
    exact ⟨_, _, _, mirrors.saveBlock saved,
      fits_iff.mpr ⟨insert_fits block fit, ensemble, sequence⟩⟩
  | ensemble before fit saved ih =>
    obtain ⟨blocks, ensembles, sequences, mirrors, fits⟩ := ih
    obtain ⟨block, ensemble, sequence⟩ := fits_iff.mp fits
    exact ⟨_, _, _, mirrors.saveEnsemble saved,
      fits_iff.mpr ⟨block, insert_fits ensemble fit, sequence⟩⟩
  | sequence before fit saved ih =>
    obtain ⟨blocks, ensembles, sequences, mirrors, fits⟩ := ih
    obtain ⟨block, ensemble, sequence⟩ := fits_iff.mp fits
    exact ⟨_, _, _, mirrors.saveSequence saved,
      fits_iff.mpr ⟨block, ensemble, insert_fits sequence fit⟩⟩
  | @delete s next kind name found before deleted ih =>
    obtain ⟨blocks, ensembles, sequences, mirrors, fits⟩ := ih
    obtain ⟨block, ensemble, sequence⟩ := fits_iff.mp fits
    rw [delete_eq deleted]
    cases kind with
    | block =>
      exact ⟨_, _, _, mirrors.withoutBlock name,
        fits_iff.mpr ⟨erase_fits block name, ensemble, sequence⟩⟩
    | ensemble =>
      exact ⟨_, _, _, mirrors.withoutEnsemble name,
        fits_iff.mpr ⟨block, erase_fits ensemble name, sequence⟩⟩
    | sequence =>
      exact ⟨_, _, _, mirrors.withoutSequence name,
        fits_iff.mpr ⟨block, ensemble, erase_fits sequence name⟩⟩

/-- Such a directory mirrors what is loaded from it. -/
theorem Written.mirrors_loadAll (written : Written s) :
    s.Mirrors s.loadAll s.loadAll s.loadAll := by
  obtain ⟨blocks, ensembles, sequences, mirrors, fits⟩ := written.mirrors
  obtain ⟨sameBlocks, sameEnsembles, sameSequences⟩ := mirrors.get?_loadAll fits
  exact mirrors.congr sameBlocks sameEnsembles sameSequences

end PulseBench.Store
