import PulseBench.Compile.Program
import PulseBench.Proofs.Outcome

/-!
# The calls that compiling makes

Compiling calls the device for three things: it writes chunks of waveforms, deletes
waveforms that it could not write completely, and writes programs. A relation
between the states of a device that each of these calls keeps (`Writing`) is kept
by every compilation, on whatever device and whatever comes of it.

Results:
1. `Writing.sampleEnsemble`: compiling an ensemble.
2. `Writing.sampleSequence`: compiling a sequence.
-/

namespace PulseBench.Compiler

variable {α δ : Type} [Pulser α δ]

open Action (Moves after after_of_ok after_of_error)

/-- The calls that compiling makes keep a relation. -/
structure Writing (D : δ → δ → Prop) : Prop where
  refl : ∀ d, D d d
  trans : ∀ a b c, D a b → D b c → D a c
  writeWaveform : ∀ name chunk, Moves D (Pulser.writeWaveform name chunk)
  deleteWaveform : ∀ name, Moves D (Pulser.deleteWaveform name : Action α δ (List String))
  writeSequence : ∀ name steps, Moves D (Pulser.writeSequence name steps : Action α δ Nat)

namespace Writing

variable {D : δ → δ → Prop}

theorem orDiscard (h : Writing D) {β : Type} {name : String} {written : Nat}
    {act : Action α δ β} (moves : Moves D act) : Moves D (orDiscard name written act) := by
  have discarding (d : δ) : D d (discard name d) := by
    have moved := h.deleteWaveform name d
    unfold discard
    cases deleted : (Pulser.deleteWaveform name : Action α δ (List String)) d with
    | ok names d' => rwa [after_of_ok deleted] at moved
    | error f d' => rwa [after_of_error deleted] at moved
  intro d
  have moved := moves d
  cases ran : act d with
  | ok b d' =>
    have done : Compiler.orDiscard name written act d = .ok b d' := by
      rw [Compiler.orDiscard, ran]
    rw [after_of_ok ran] at moved
    rw [after_of_ok done]
    exact moved
  | error f d' =>
    have failed : Compiler.orDiscard name written act d =
        .error f (if 0 < written then discard name d' else d') := by
      rw [Compiler.orDiscard, ran]
    rw [after_of_error ran] at moved
    rw [after_of_error failed]
    split
    · exact h.trans _ _ _ moved (discarding d')
    · exact moved

variable [Analytic α] (h : Writing D) (c : Compiler α)
include h

theorem writeGroup (name : String) (a : Analysis α) (written : Nat) (group : List (Piece α)) :
    Moves D (c.writeGroup name a written group : Action α δ Nat) := by
  refine Moves.bind h.trans (Moves.lift h.refl _) fun chunk => ?_
  refine Moves.bind h.trans (h.writeWaveform name chunk) fun reported d => ?_
  split <;> exact h.refl d

theorem writeGroups (name : String) (a : Analysis α) (written : Nat)
    (groups : List (List (Piece α))) :
    Moves D (c.writeGroups name a written groups : Action α δ Unit) := by
  induction groups generalizing written with
  | nil =>
    refine h.orDiscard fun d => ?_
    split <;> exact h.refl d
  | cons group rest ih =>
    exact Moves.bind h.trans (h.orDiscard (h.writeGroup c name a written group))
      fun size => ih (written + size)

theorem sampleEnsemble (e : Ensemble α) (blocks : Roster (Block α)) (name : String)
    (offset : Nat) :
    Moves D (c.sampleEnsemble e blocks name offset : Action α δ (Nat × Record α)) := by
  refine Moves.bind h.trans (Moves.lift h.refl _) fun a => ?_
  refine Moves.bind h.trans (Moves.lift h.refl _) fun _ => ?_
  refine Moves.bind h.trans (Moves.lift h.refl _) fun played => ?_
  exact Moves.bind h.trans (h.writeGroups c _ _ _ _) fun _ => h.refl

theorem addStep (s : Sequence α) (ensembles : Roster (Ensemble α)) (blocks : Roster (Block α))
    (draft : Draft α) (numbered : Step × Nat) :
    Moves D (c.addStep s ensembles blocks draft numbered : Action α δ (Draft α)) := by
  refine Moves.bind h.trans (Moves.lift h.refl _) fun e => ?_
  by_cases there : draft.sampled.contains (waveformName s e numbered.2) = true
  · simp only [there, if_true]
    exact h.refl
  · simp only [there]
    exact Moves.bind h.trans (h.sampleEnsemble c _ _ _ _) fun _ => h.refl

theorem sampleSequence (s : Sequence α) (ensembles : Roster (Ensemble α))
    (blocks : Roster (Block α)) :
    Moves D (c.sampleSequence s ensembles blocks :
      Action α δ (Record α × List (String × Record α))) := by
  refine Moves.bind h.trans (Moves.lift h.refl _) fun _ => ?_
  refine Moves.bind h.trans (Moves.foldlM h.refl h.trans (h.addStep c s ensembles blocks) _ _)
    fun draft => ?_
  exact Moves.bind h.trans (h.writeSequence _ _) fun _ => h.refl

end Writing

end PulseBench.Compiler
