import PulseBench.Proofs.Compile.Calls
import PulseBench.Pulser.Memory

/-!
# What stays loaded while waveforms are written

A pulse generator in memory forgets what it has loaded only when a waveform or a
program of that name is deleted. Writing deletes nothing, and compiling deletes
only waveforms that it could not write completely. So behind a compilation what
was loaded still is, unless the log of the device shows that a waveform of its
name was deleted.

Results:
1. `MemoryPulser.SameLoaded`: calls that leave what is loaded.
2. `MemoryPulser.Follows`: calls that load nothing and delete waveforms at most.
3. `Compiler.sampleEnsemble_follows`, `Compiler.sampleSequence_follows`: compiling.
-/

namespace PulseBench

variable {α : Type}

open PulseBench.Action (Moves after after_of_ok after_of_error)

namespace MemoryPulser

/-! ## 1. Calls that leave what is loaded -/

/-- A step behind which the device has the same asset loaded. -/
def SameLoaded (before after : MemoryPulser α) : Prop := after.loaded = before.loaded

theorem SameLoaded.refl (p : MemoryPulser α) : SameLoaded p p := rfl

theorem SameLoaded.trans (p q r : MemoryPulser α) (first : SameLoaded p q)
    (second : SameLoaded q r) : SameLoaded p r :=
  Eq.trans second first

theorem ensureAccepted_loaded (call : PulserCall) :
    Moves SameLoaded (ensureAccepted call : Action α (MemoryPulser α) Unit) := by
  refine Moves.get_bind fun p => ?_
  split <;> exact SameLoaded.refl p

theorem setActiveChannels_loaded (channels : NameSet) :
    Moves SameLoaded (setActiveChannels channels : Action α (MemoryPulser α) NameSet) := by
  refine Moves.bind SameLoaded.trans (Moves.modify fun p => SameLoaded.refl p) fun _ => ?_
  refine Moves.get_bind fun p => ?_
  split <;> exact SameLoaded.refl p

theorem setRate_loaded [Scalar α] (rate : α) : Moves SameLoaded (setRate rate) := fun _ => rfl

theorem setAmplitudes_loaded (amplitudes : Roster α) :
    Moves SameLoaded (setAmplitudes amplitudes) := fun _ => rfl

theorem setOutput_loaded (on : Bool) :
    Moves SameLoaded (setOutput on : Action α (MemoryPulser α) Bool) := by
  refine Moves.bind SameLoaded.trans (ensureAccepted_loaded _) fun _ => ?_
  exact fun p => SameLoaded.refl p

theorem upload_loaded (name : String) :
    Moves SameLoaded (upload name : Action α (MemoryPulser α) Unit) := by
  refine Moves.get_bind fun p => ?_
  split <;> exact SameLoaded.refl p

theorem load_cases (name : String) (p : MemoryPulser α) :
    (∃ f, load name p = .error f p) ∨ ∃ q, load name p = .ok ⟨⟩ q ∧ q.loaded = some name := by
  unfold load
  rw [Action.bind_of_ok (Action.get_apply p)]
  split
  · exact Or.inr ⟨_, rfl, rfl⟩
  · exact Or.inl ⟨_, rfl⟩

/-! ## 2. Calls that delete waveforms at most -/

/-- Between two states a waveform of this name was deleted, as the log shows. -/
def Deletes (name : String) (before after : MemoryPulser α) : Prop :=
  .deleteWaveform name ∈ after.log.drop before.log.length

/-- Calls that load nothing: what was loaded still is, unless a waveform of its name was deleted. -/
def Follows (before after : MemoryPulser α) : Prop :=
  ∃ calls, after.log = before.log ++ calls ∧
    ∀ name, after.loaded = some name ↔
      before.loaded = some name ∧ .deleteWaveform name ∉ calls

theorem Follows.refl (p : MemoryPulser α) : Follows p p := ⟨[], by simp⟩

theorem Follows.trans (p q r : MemoryPulser α) (first : Follows p q) (second : Follows q r) :
    Follows p r := by
  obtain ⟨calls, log, loaded⟩ := first
  obtain ⟨later, log', loaded'⟩ := second
  refine ⟨calls ++ later, by rw [log', log, List.append_assoc], fun name => ?_⟩
  rw [loaded', loaded, List.mem_append, not_or, and_assoc]

theorem Follows.loaded_iff {p q : MemoryPulser α} (h : Follows p q) {name : String}
    (held : p.loaded = some name) : q.loaded = some name ↔ ¬ Deletes name p q := by
  obtain ⟨calls, log, loaded⟩ := h
  rw [loaded, Deletes, log, List.drop_left]
  exact and_iff_right held

/-- A call that neither loads nor deletes. -/
theorem follows_of_note {before after : MemoryPulser α} {entry : PulserEntry α}
    (log : after.log = before.log ++ [entry]) (loaded : after.loaded = before.loaded)
    (other : ∀ name, entry ≠ .deleteWaveform name) : Follows before after := by
  refine ⟨[entry], log, fun name => ?_⟩
  rw [loaded, List.mem_singleton]
  exact (and_iff_left fun same => other name same.symm).symm

theorem ensureAccepted_follows (call : PulserCall) :
    Moves Follows (ensureAccepted call : Action α (MemoryPulser α) Unit) := by
  refine Moves.get_bind fun p => ?_
  split <;> exact Follows.refl p

theorem writeWaveform_follows (name : String) (chunk : Chunk α) :
    Moves Follows (writeWaveform name chunk) := by
  refine Moves.bind Follows.trans (ensureAccepted_follows _) fun _ => Moves.get_bind fun p => ?_
  split
  · exact Follows.refl p
  · exact follows_of_note rfl rfl (by simp)

theorem writeSequence_follows (name : String) (steps : List ProgramStep) :
    Moves Follows (writeSequence name steps : Action α (MemoryPulser α) Nat) := by
  refine Moves.bind Follows.trans (ensureAccepted_follows _) fun _ => Moves.get_bind fun p => ?_
  split
  · exact Follows.refl p
  · exact follows_of_note rfl rfl (by simp)

theorem deleteWaveform_follows (name : String) :
    Moves Follows (deleteWaveform name : Action α (MemoryPulser α) (List String)) := by
  intro p
  refine ⟨[.deleteWaveform name], rfl, fun other => ?_⟩
  change (if p.loaded == some name then none else p.loaded) = some other ↔ _
  by_cases held : p.loaded = some name
  · simp [held]
    grind
  · simp [held]
    grind

end MemoryPulser

/-! ## 3. Compiling -/

namespace Compiler

open MemoryPulser (Follows)

variable [Analytic α] (c : Compiler α)

omit [Analytic α] in
theorem follows_writing [Scalar α] : Writing (Follows (α := α)) where
  refl := Follows.refl
  trans := Follows.trans
  writeWaveform := MemoryPulser.writeWaveform_follows
  deleteWaveform := MemoryPulser.deleteWaveform_follows
  writeSequence := MemoryPulser.writeSequence_follows

/-- Of what is loaded, compiling an ensemble only takes a waveform that it could not write. -/
theorem sampleEnsemble_follows (e : Ensemble α) (blocks : Roster (Block α)) (name : String)
    (offset : Nat) : Moves Follows
      (c.sampleEnsemble e blocks name offset : Action α (MemoryPulser α) (Nat × Record α)) :=
  follows_writing.sampleEnsemble c e blocks name offset

theorem sampleSequence_follows (s : Sequence α) (ensembles : Roster (Ensemble α))
    (blocks : Roster (Block α)) : Moves Follows
      (c.sampleSequence s ensembles blocks :
        Action α (MemoryPulser α) (Record α × List (String × Record α))) :=
  follows_writing.sampleSequence c s ensembles blocks

end Compiler

end PulseBench
