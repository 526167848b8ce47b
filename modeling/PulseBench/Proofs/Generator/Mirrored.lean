import PulseBench.Proofs.Files.Mirrors
import PulseBench.Proofs.Generator.Filing

/-!
# Files mirror memory

A generator with a storage directory keeps every object twice: in memory, and in a file. Both
are changed by every edit, deletion, compilation and loss of a record, one after the other, and
any of these may fail in between. `Mirrored` says that they agree all the same.

A change that is written first fails without a trace if the name cannot be that of a file. A
change that is made in memory first concerns an object that has a file already, so its writing
does not fail. A name that cannot be that of a file is not held, so nothing is left behind when
its file cannot be removed.

Results:
1. `block_suits`, `ensemble_suits`, `sequence_suits`: to hold an object goes with saving it.
2. `file_mirrored`, `note_mirrored`, `drop_mirrored`: one object and its file, in each order.
3. `mirrored_filing`: so it is for all parts of operations.
-/

namespace PulseBench.Generator

variable {α δ : Type}

open PulseBench.Action (Moves after after_of_ok after_of_error bind_of_ok bind_of_error)
open Store (CanHold Mirrors)

/-- There is a directory, and it mirrors what is held. -/
def Mirrored [Scalar α] (g : Generator α δ) : Prop :=
  ∃ s, g.store = some s ∧ Mirrors s g.blocks g.ensembles g.sequences

section Parts

variable {β : Type} {g : Generator α δ} {s : Store α}

/-! ## 1. Holding and saving -/

/-- A change in memory that goes with a change of the directory. -/
structure GoesWith [Scalar α] (hold : Generator α δ → Generator α δ)
    (write : Store α → Store α → Prop) : Prop where
  mirrored : ∀ (g : Generator α δ) (s next : Store α),
    Mirrors s g.blocks g.ensembles g.sequences → write s next →
    Mirrored (hold { g with store := some next })
  /-- The change is none of the directory. -/
  apart : ∀ (g : Generator α δ) (store : Option (Store α)),
    hold { g with store } = { hold g with store }

theorem GoesWith.store [Scalar α] {hold : Generator α δ → Generator α δ}
    {write : Store α → Store α → Prop} (h : GoesWith hold write) (g : Generator α δ) :
    (hold g).store = g.store :=
  (congrArg Generator.store (h.apart g g.store) :)

/-- To hold an object goes with saving it. -/
def Suits [Scalar α] [Storable α β] (object : β) (hold : Generator α δ → Generator α δ) : Prop :=
  GoesWith hold fun s next => s.save object = .ok next

/-- To hold no object of a name goes with deleting its file. -/
def Rids [Scalar α] (kind : ObjectKind) (name : String)
    (hold : Generator α δ → Generator α δ) : Prop :=
  GoesWith hold fun s next => next = s.without kind name

section Kinds

variable [Scalar α]

theorem block_suits (b : Block α) :
    Suits b fun g : Generator α δ => { g with blocks := g.blocks.insert b.name b } where
  mirrored _ _ next mirrors saved := ⟨next, rfl, mirrors.saveBlock saved⟩
  apart _ _ := rfl

theorem ensemble_suits (e : Ensemble α) :
    Suits e fun g : Generator α δ => { g with ensembles := g.ensembles.insert e.name e } where
  mirrored _ _ next mirrors saved := ⟨next, rfl, mirrors.saveEnsemble saved⟩
  apart _ _ := rfl

theorem sequence_suits (q : Sequence α) :
    Suits q fun g : Generator α δ => { g with sequences := g.sequences.insert q.name q } where
  mirrored _ _ next mirrors saved := ⟨next, rfl, mirrors.saveSequence saved⟩
  apart _ _ := rfl

theorem block_rids (name : String) :
    Rids .block name fun g : Generator α δ => { g with blocks := g.blocks.erase name } where
  mirrored _ _ _ mirrors deleted := ⟨_, rfl, deleted ▸ mirrors.withoutBlock name⟩
  apart _ _ := rfl

theorem ensemble_rids (name : String) :
    Rids .ensemble name fun g : Generator α δ =>
      { g with ensembles := g.ensembles.erase name } where
  mirrored _ _ _ mirrors deleted := ⟨_, rfl, deleted ▸ mirrors.withoutEnsemble name⟩
  apart _ _ := rfl

theorem sequence_rids (name : String) :
    Rids .sequence name fun g : Generator α δ =>
      { g with sequences := g.sequences.erase name } where
  mirrored _ _ _ mirrors deleted := ⟨_, rfl, deleted ▸ mirrors.withoutSequence name⟩
  apart _ _ := rfl

end Kinds

/-! ## 2. One object and its file -/

section Writing

variable [Storable α β] {object : β}

theorem persist_of_saved (stored : g.store = some s) {next : Store α}
    (saved : s.save object = .ok next) :
    persist object g = .ok ⟨⟩ { g with store := some next } := by
  unfold persist
  rw [bind_of_ok (Action.get_apply g), stored]
  dsimp only
  rw [saved]
  rfl

theorem persist_of_refused (stored : g.store = some s) {f : Failure α}
    (refused : s.save object = .error f) : persist object g = .error f g := by
  unfold persist
  rw [bind_of_ok (Action.get_apply g), stored]
  dsimp only
  rw [refused]
  rfl

variable [Scalar α] {hold : Generator α δ → Generator α δ}

/-- An object is written, and then held. If it cannot be written, nothing happened. -/
theorem file_mirrored (suits : Suits object hold) (h : Mirrored g) :
    Mirrored ((do persist object; modify hold : Action α (Generator α δ) Unit).after g) := by
  obtain ⟨s, stored, mirrors⟩ := h
  cases saved : s.save object with
  | ok next =>
    have done := persist_of_saved stored saved
    rw [after_of_ok ((bind_of_ok done).trans (Action.modify_apply _ _))]
    exact suits.mirrored g s next mirrors saved
  | error f =>
    have failed := persist_of_refused stored saved
    rw [after_of_error (bind_of_error failed)]
    exact ⟨s, stored, mirrors⟩

/-- An object whose file can be written may be held first. -/
theorem note_mirrored (suits : Suits object hold)
    (can : CanHold (Storable.kind β) (Storable.name object)) (h : Mirrored g) :
    ∃ next, (do modify hold; persist object : Action α (Generator α δ) Unit) g =
        .ok ⟨⟩ (hold { g with store := some next }) ∧
      Mirrored (hold { g with store := some next }) := by
  obtain ⟨s, stored, mirrors⟩ := h
  obtain ⟨next, saved⟩ := Store.save_of_canHold (s := s) can
  refine ⟨next, ?_, suits.mirrored g s next mirrors saved⟩
  rw [bind_of_ok (Action.modify_apply _ g), suits.apart g (some next)]
  exact persist_of_saved ((suits.store g).trans stored) saved

/-- An object that can be written is written, and then held. -/
theorem file_of_canHold (suits : Suits object hold)
    (can : CanHold (Storable.kind β) (Storable.name object)) (h : Mirrored g) :
    ∃ next, (do persist object; modify hold : Action α (Generator α δ) Unit) g =
        .ok ⟨⟩ (hold { g with store := some next }) ∧
      Mirrored (hold { g with store := some next }) := by
  obtain ⟨s, stored, mirrors⟩ := h
  obtain ⟨next, saved⟩ := Store.save_of_canHold (s := s) can
  exact ⟨next, (bind_of_ok (persist_of_saved stored saved)).trans (Action.modify_apply _ _),
    suits.mirrored g s next mirrors saved⟩

end Writing

section Deleting

theorem unpersist_of_usable (stored : g.store = some s) {name : String}
    (usable : Store.isUsable name = true) (kind : ObjectKind) :
    unpersist kind name g = .ok ⟨⟩ { g with store := some (s.without kind name) } := by
  unfold unpersist
  rw [bind_of_ok (Action.get_apply g), stored]
  dsimp only
  rw [Store.delete_of_usable usable]
  rfl

/-- There is no file of a name that can not be that of one. -/
theorem unpersist_after (stored : g.store = some s) (kind : ObjectKind) (name : String) :
    (unpersist kind name : Action α (Generator α δ) Unit).after g =
      { g with store := some (s.without kind name) } := by
  by_cases usable : Store.isUsable name = true
  · exact after_of_ok (unpersist_of_usable stored usable kind)
  · unfold unpersist
    rw [after, Action.run, bind_of_ok (Action.get_apply g), stored]
    dsimp only
    rw [Store.delete, Store.fileName_of_unusable usable, Store.without, if_neg usable, ← stored]
    rfl

/-- An object is no longer held, and then its file is deleted. -/
theorem drop_mirrored [Scalar α] {hold : Generator α δ → Generator α δ} {kind : ObjectKind}
    {name : String} (rids : Rids kind name hold) (h : Mirrored g) :
    Mirrored ((do modify hold; unpersist kind name : Action α (Generator α δ) Unit).after g) := by
  obtain ⟨s, stored, mirrors⟩ := h
  rw [after, Action.run, bind_of_ok (Action.modify_apply _ g)]
  change Mirrored ((unpersist kind name : Action α (Generator α δ) Unit).after (hold g))
  rw [unpersist_after ((rids.store g).trans stored), ← rids.apart g]
  exact rids.mirrored g s _ mirrors rfl

end Deleting

/-! ## 3. All parts of operations -/

section Held

variable [Scalar α]

/-- What is held is held under its own name, and has a file. -/
theorem Mirrored.block (h : Mirrored g) {n : String} {b : Block α}
    (found : g.blocks.get? n = some b) : b.name = n ∧ CanHold .block n := by
  obtain ⟨s, -, mirrors⟩ := h
  exact ⟨mirrors.blocks.named n b found, mirrors.blocks.canHold n b found⟩

theorem Mirrored.ensemble (h : Mirrored g) {n : String} {e : Ensemble α}
    (found : g.ensembles.get? n = some e) : e.name = n ∧ CanHold .ensemble n := by
  obtain ⟨s, -, mirrors⟩ := h
  exact ⟨mirrors.ensembles.named n e found, mirrors.ensembles.canHold n e found⟩

theorem Mirrored.sequence (h : Mirrored g) {n : String} {q : Sequence α}
    (found : g.sequences.get? n = some q) : q.name = n ∧ CanHold .sequence n := by
  obtain ⟨s, -, mirrors⟩ := h
  exact ⟨mirrors.sequences.named n q found, mirrors.sequences.canHold n q found⟩

end Held

end Parts

/-- All parts of operations change objects and files alike. -/
theorem mirrored_filing [Scalar α] :
    Filing (fun _ _ : δ => True) fun before after : Generator α δ =>
      Mirrored before → Mirrored after where
  refl _ := id
  trans _ _ _ first second h := second (first h)
  change _ _ same := by
    rintro ⟨s, stored, mirrors⟩
    refine ⟨s, same.store.trans stored, ?_⟩
    rw [same.blocks, same.ensembles, same.sequences]
    exact mirrors
  onDevice {_ act} _ g h := by
    rw [onDevice_after]
    exact h
  fileBlock b _ := file_mirrored (block_suits b)
  fileEnsemble e _ := file_mirrored (ensemble_suits e)
  fileSequence q _ := file_mirrored (sequence_suits q)
  noteEnsemble _ b n e record found sofar h := by
    obtain ⟨rfl, can⟩ := h.ensemble found
    obtain ⟨next, done, mirrored⟩ :=
      note_mirrored (ensemble_suits { e with record }) can (sofar h)
    exact (after_of_ok done).symm ▸ mirrored
  noteSequence _ b n q record found sofar h := by
    obtain ⟨rfl, can⟩ := h.sequence found
    obtain ⟨next, done, mirrored⟩ :=
      note_mirrored (sequence_suits { q with record }) can (sofar h)
    exact (after_of_ok done).symm ▸ mirrored
  refileEnsemble _ _ n e record found sofar h := by
    obtain ⟨rfl, -⟩ := h.ensemble found
    exact file_mirrored (ensemble_suits { e with record }) (sofar h)
  refileSequence _ _ n q record found sofar h := by
    obtain ⟨rfl, -⟩ := h.sequence found
    exact file_mirrored (sequence_suits { q with record }) (sofar h)
  dropBlock name _ := drop_mirrored (block_rids name)
  dropEnsemble name _ := drop_mirrored (ensemble_rids name)
  dropSequence name _ := drop_mirrored (sequence_rids name)

end PulseBench.Generator
