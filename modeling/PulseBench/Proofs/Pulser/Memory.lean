import PulseBench.Proofs.Outcome
import PulseBench.Proofs.Roster
import PulseBench.Pulser.Memory

/-!
# What the calls of the memory device do

Every call that writes or deletes a waveform leaves the others alone; `Frame`
says so. A device that was not told to refuse anything is accepting.

Results:
1. `extend_empty`, `extend_tabulate`: chunks of the same channels are joined
   channel by channel.
2. `writeWaveform_ok`: an accepting device takes every chunk that starts a
   waveform or continues one that is there.
3. `SameAssets`: the calls that leave waveforms and programs as they are.
4. `deleteWaveform_ok`, `deleteSequence_ok`: deleting never fails.
-/

namespace PulseBench.MemoryPulser

variable {α β : Type}

/-! ## 1. Joining chunks -/

section Joining

/-- One entry of `extend`. -/
def append (r : Roster (List β)) (entry : String × List β) : Roster (List β) :=
  r.insert entry.1 (((r.get? entry.1).getD []) ++ entry.2)

theorem get?_foldl_append (added : List (String × List β)) (r : Roster (List β)) (key : String)
    (nodup : (added.map Prod.fst).Nodup) :
    (added.foldl append r).get? key =
      (added.lookup key).elim (r.get? key) fun values =>
        some ((r.get? key).getD [] ++ values) := by
  induction added generalizing r with
  | nil => rfl
  | cons entry rest ih =>
    obtain ⟨own, values⟩ := entry
    rw [List.map_cons, List.nodup_cons] at nodup
    rw [List.foldl_cons, ih _ nodup.2, Roster.lookup_cons_eq, append, Roster.get?_insert]
    by_cases here : key = own
    · subst here
      rw [if_pos rfl, if_pos rfl, Roster.lookup_of_not_mem nodup.1]
      rfl
    · rw [if_neg here, if_neg here]

theorem names_foldl_append (added : List (String × List β)) (r : Roster (List β))
    (nodup : (added.map Prod.fst).Nodup) :
    (added.foldl append r).names =
      r.names ++ (added.map Prod.fst).filter fun name => decide (name ∉ r.names) := by
  induction added generalizing r with
  | nil => exact (List.append_nil _).symm
  | cons entry rest ih =>
    rw [List.map_cons, List.nodup_cons] at nodup
    have placed : (append r entry).names =
        if entry.1 ∈ r.names then r.names else r.names ++ [entry.1] :=
      Roster.map_fst_put _ _ _
    rw [List.foldl_cons, ih _ nodup.2, placed, List.map_cons, List.filter_cons]
    by_cases known : entry.1 ∈ r.names
    · simp [known]
    · simp only [known, if_false, not_false_eq_true, decide_true, if_true, List.append_assoc,
        List.singleton_append]
      congr 2
      -- The name just added stands nowhere else among those to come.
      refine List.filter_congr fun name member => ?_
      have other : name ≠ entry.1 := fun same => nodup.1 (same ▸ member)
      simp [other]

theorem get?_extend (stored samples : Roster (List β)) (key : String) :
    (extend stored samples).get? key =
      (samples.get? key).elim (stored.get? key) fun values =>
        some ((stored.get? key).getD [] ++ values) :=
  get?_foldl_append samples.entries stored key samples.nodup

theorem names_extend (stored samples : Roster (List β)) :
    (extend stored samples).names =
      stored.names ++ samples.names.filter fun name => decide (name ∉ stored.names) :=
  names_foldl_append samples.entries stored samples.nodup

/-- The first chunk is kept as it is. -/
theorem extend_empty (samples : Roster (List β)) : extend ∅ samples = samples := by
  refine Roster.ext_names ?_ fun key => ?_
  · rw [names_extend]
    simp [Roster.names, EmptyCollection.emptyCollection, Roster.empty]
  · rw [get?_extend, Roster.get?_empty]
    cases samples.get? key with
    | none => rfl
    | some values => rfl

/-- A further chunk of the same channels is joined on every channel. -/
theorem extend_tabulate (names : NameSet) (f g : String → List β) :
    extend (Roster.tabulate names f) (Roster.tabulate names g) =
      Roster.tabulate names fun name => f name ++ g name := by
  refine Roster.ext_names ?_ fun key => ?_
  · rw [names_extend, Roster.names_tabulate, Roster.names_tabulate, Roster.names_tabulate]
    simp
  · rw [get?_extend, Roster.get?_tabulate, Roster.get?_tabulate, Roster.get?_tabulate]
    split <;> rfl

end Joining

/-! ## 2. Calls -/

/-- Nothing but the waveforms of some names changed, as far as waveforms and programs go. -/
structure Frame (touched : String → Prop) (before after : MemoryPulser α) : Prop where
  limits : after.limits = before.limits
  refuseAfter : after.refuseAfter = before.refuseAfter
  programs : after.programs = before.programs
  waveforms : ∀ other, ¬ touched other →
    after.waveforms.get? other = before.waveforms.get? other

namespace Frame

variable {touched more : String → Prop} {a b c : MemoryPulser α}

theorem refl (touched : String → Prop) (a : MemoryPulser α) : Frame touched a a :=
  ⟨rfl, rfl, rfl, fun _ _ => rfl⟩

theorem trans (first : Frame touched a b) (second : Frame touched b c) : Frame touched a c where
  limits := second.limits.trans first.limits
  refuseAfter := second.refuseAfter.trans first.refuseAfter
  programs := second.programs.trans first.programs
  waveforms other different :=
    (second.waveforms other different).trans (first.waveforms other different)

theorem mono (h : Frame touched a b) (wider : ∀ n, touched n → more n) : Frame more a b where
  limits := h.limits
  refuseAfter := h.refuseAfter
  programs := h.programs
  waveforms other untouched := h.waveforms other fun own => untouched (wider other own)

end Frame

/-- The device was not told to refuse anything. -/
def Accepting (p : MemoryPulser α) : Prop := p.refuseAfter = none

theorem Accepting.refuses {p : MemoryPulser α} (h : p.Accepting) : p.refuses = false := by
  rw [MemoryPulser.refuses, h]
  rfl

theorem Accepting.frame {touched : String → Prop} {p q : MemoryPulser α} (h : p.Accepting)
    (f : Frame touched p q) : q.Accepting :=
  f.refuseAfter.trans h

theorem ensureAccepted_ok {p : MemoryPulser α} (h : p.Accepting) (call : PulserCall) :
    ensureAccepted call p = .ok ⟨⟩ p := by
  unfold ensureAccepted
  rw [Action.bind_of_ok (Action.get_apply p), h.refuses]
  rfl

theorem continued?_others {p : MemoryPulser α} {name : String} {chunk : Chunk α}
    {w : Waveform α} {others : Roster (Waveform α)}
    (h : p.continued? name chunk = some (w, others)) {other : String} (different : other ≠ name) :
    others.get? other = p.waveforms.get? other := by
  unfold continued? at h
  split at h
  · cases h
    rfl
  · obtain ⟨held, -, same⟩ := Option.map_eq_some_iff.mp h
    cases same
    rw [Roster.get?_erase, if_neg different]

theorem writeWaveform_ok {p : MemoryPulser α} (accepting : p.Accepting) {name : String}
    {chunk : Chunk α} {w : Waveform α} {others : Roster (Waveform α)}
    (continues : p.continued? name chunk = some (w, others)) :
    ∃ q, writeWaveform name chunk p = .ok chunk.size q ∧
      q.waveforms.get? name = some (grown w chunk) ∧ Frame (· = name) p q := by
  unfold writeWaveform
  rw [Action.bind_of_ok (ensureAccepted_ok accepting _), Action.bind_of_ok (Action.get_apply p),
    continues]
  refine ⟨_, rfl, Roster.get?_insert_self _ _ _, rfl, rfl, rfl, fun other different => ?_⟩
  exact (Roster.get?_insert_of_ne _ _ different).trans (continued?_others continues different)

theorem deleteWaveform_ok (p : MemoryPulser α) (name : String) :
    ∃ q, deleteWaveform name p = .ok (if p.waveforms.contains name then [name] else []) q ∧
      q.waveforms.get? name = none ∧ Frame (· = name) p q := by
  refine ⟨_, rfl, ?_, rfl, rfl, rfl, fun other different => ?_⟩
  · exact (Roster.get?_erase _ _ _).trans (if_pos rfl)
  · exact (Roster.get?_erase _ _ _).trans (if_neg different)

/-! ## 3. Calls that leave the memory alone -/

/-- Waveforms and programs stay as they are. -/
structure SameAssets (before after : MemoryPulser α) : Prop where
  limits : after.limits = before.limits
  refuseAfter : after.refuseAfter = before.refuseAfter
  waveforms : after.waveforms = before.waveforms
  programs : after.programs = before.programs

namespace SameAssets

theorem refl (p : MemoryPulser α) : SameAssets p p := ⟨rfl, rfl, rfl, rfl⟩

theorem trans (p q r : MemoryPulser α) (first : SameAssets p q) (second : SameAssets q r) :
    SameAssets p r where
  limits := second.limits.trans first.limits
  refuseAfter := second.refuseAfter.trans first.refuseAfter
  waveforms := second.waveforms.trans first.waveforms
  programs := second.programs.trans first.programs

end SameAssets

section Calls

open PulseBench.Action (Moves)

theorem setActiveChannels_same (channels : NameSet) :
    Moves SameAssets (setActiveChannels channels : Action α (MemoryPulser α) NameSet) := by
  refine Moves.bind SameAssets.trans (Moves.modify fun p => ⟨rfl, rfl, rfl, rfl⟩) fun _ => ?_
  refine Moves.get_bind fun p => ?_
  split
  · exact SameAssets.refl p
  · exact ⟨rfl, rfl, rfl, rfl⟩

theorem setRate_same [Scalar α] (rate : α) : Moves SameAssets (setRate rate) :=
  fun _ => ⟨rfl, rfl, rfl, rfl⟩

theorem setAmplitudes_same (amplitudes : Roster α) : Moves SameAssets (setAmplitudes amplitudes) :=
  fun _ => ⟨rfl, rfl, rfl, rfl⟩

theorem upload_same (name : String) :
    Moves SameAssets (upload name : Action α (MemoryPulser α) Unit) := by
  refine Moves.get_bind fun p => ?_
  split
  · exact ⟨rfl, rfl, rfl, rfl⟩
  · exact SameAssets.refl p

theorem load_same (name : String) :
    Moves SameAssets (load name : Action α (MemoryPulser α) Unit) := by
  refine Moves.get_bind fun p => ?_
  split
  · exact ⟨rfl, rfl, rfl, rfl⟩
  · exact SameAssets.refl p

theorem setOutput_same (on : Bool) :
    Moves SameAssets (setOutput on : Action α (MemoryPulser α) Bool) := by
  refine Moves.bind SameAssets.trans (Moves.get_bind fun p => ?_) fun _ => ?_
  · split <;> exact SameAssets.refl p
  · exact Moves.bind SameAssets.trans (Moves.modify fun p => ⟨rfl, rfl, rfl, rfl⟩) fun _ =>
      SameAssets.refl

end Calls

/-! ## 4. Deleting and programs -/

theorem deleteSequence_ok (p : MemoryPulser α) (name : String) :
    ∃ q, deleteSequence name p = .ok (if p.programs.contains name then [name] else []) q ∧
      q.limits = p.limits ∧ q.refuseAfter = p.refuseAfter ∧ q.waveforms = p.waveforms ∧
      q.programs = p.programs.erase name :=
  ⟨_, rfl, rfl, rfl, rfl, rfl⟩

/-- A program is written if every waveform of it is there. -/
theorem writeSequence_ok {p : MemoryPulser α} (accepting : p.Accepting) (name : String)
    (steps : List ProgramStep)
    (there : ∀ step ∈ steps, ∀ w ∈ step.waveforms, p.waveforms.contains w = true) :
    ∃ q, writeSequence name steps p = .ok steps.length q ∧
      q.limits = p.limits ∧ q.refuseAfter = p.refuseAfter ∧ q.waveforms = p.waveforms ∧
      q.programs = p.programs.insert name steps := by
  have complete : (steps.flatMap ProgramStep.waveforms).find?
      (fun w => !p.waveforms.contains w) = none := by
    rw [List.find?_eq_none]
    intro w member
    obtain ⟨step, listed, named⟩ := List.mem_flatMap.mp member
    simp [there step listed w named]
  unfold writeSequence
  rw [Action.bind_of_ok (ensureAccepted_ok accepting _), Action.bind_of_ok (Action.get_apply p),
    complete]
  exact ⟨_, rfl, rfl, rfl, rfl, rfl⟩

end PulseBench.MemoryPulser
