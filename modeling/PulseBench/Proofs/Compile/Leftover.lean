import PulseBench.Proofs.Compile.Refinement
import PulseBench.Proofs.Pulser.Faulty

/-!
# What a failed compilation leaves on the device

Here a device keeps waveforms as a `MemoryPulser` does, but any write may fail,
and any write that is kept may be reported with a wrong count (`Stores`). If a
compilation fails, the part already written is deleted. What counts as written
are the chunks that were reported right, so a first chunk that is kept and
miscounted is overlooked. This is the only way to leave something behind.

Results:
1. `MemoryPulser.stores`, `FaultyPulser.stores`: devices that store waveforms.
2. `writeGroup_outcome`, `writeGroups_gone`: one chunk, and all chunks behind one
   that was counted right.
3. `leftover_iff_first_miscounted`: a failed compilation leaves something behind exactly if its
   first chunk was kept and miscounted.
-/

namespace PulseBench

variable {α δ : Type}

/-- Every chunk is kept in memory if it is written at all, whatever is reported then, and deleting
works. Only devices that are `sound` are meant; calls leave them so. -/
structure Stores [Pulser α δ] (held : δ → MemoryPulser α) (sound : δ → Prop) : Prop where
  write : ∀ device, sound device → ∀ name (chunk : Chunk α),
    (∃ f device', (Pulser.writeWaveform name chunk : Action α δ Nat) device = .error f device' ∧
      sound device' ∧ held device' = held device) ∨
    ∃ reported size device',
      (Pulser.writeWaveform name chunk : Action α δ Nat) device = .ok reported device' ∧
      sound device' ∧ MemoryPulser.writeWaveform name chunk (held device) = .ok size (held device')
  delete : ∀ device, sound device → ∀ name, ∃ deleted device',
    (Pulser.deleteWaveform name : Action α δ (List String)) device = .ok deleted device' ∧
      sound device' ∧ MemoryPulser.deleteWaveform name (held device) = .ok deleted (held device')

/-- No chunk was written, and the waveforms are the same. -/
structure Unwritten (before after : MemoryPulser α) : Prop where
  writes : after.writes = before.writes
  waveforms : after.waveforms = before.waveforms

/-! ## 1. Devices that store waveforms -/

namespace MemoryPulser

/-- A chunk is refused without a change, or it is there afterwards. -/
theorem writeWaveform_outcome (p : MemoryPulser α) (name : String) (chunk : Chunk α) :
    (∃ f, writeWaveform name chunk p = .error f p) ∨
    ∃ q w, writeWaveform name chunk p = .ok chunk.size q ∧ q.writes = p.writes + 1 ∧
      q.waveforms.get? name = some w := by
  unfold writeWaveform
  cases refuses : p.refuses with
  | true =>
    have refused : ensureAccepted .writeWaveform p =
        .error (.device (.refused PulserCall.writeWaveform.name)) p := by
      unfold ensureAccepted
      rw [Action.bind_of_ok (Action.get_apply p), refuses]
      rfl
    exact Or.inl ⟨_, Action.bind_of_error refused⟩
  | false =>
    have accepted : ensureAccepted .writeWaveform p = .ok ⟨⟩ p := by
      unfold ensureAccepted
      rw [Action.bind_of_ok (Action.get_apply p), refuses]
      rfl
    rw [Action.bind_of_ok accepted, Action.bind_of_ok (Action.get_apply p)]
    cases p.continued? name chunk with
    | none => exact Or.inl ⟨_, rfl⟩
    | some found => exact Or.inr ⟨_, _, rfl, rfl, Roster.get?_insert_self _ _ _⟩

/-- A device in memory counts right, and refuses only without a change. -/
theorem stores [Scalar α] : Stores (id : MemoryPulser α → MemoryPulser α) fun _ => True := by
  constructor
  · intro p _ name chunk
    rcases writeWaveform_outcome p name chunk with ⟨f, refused⟩ | ⟨q, w, wrote, -, -⟩
    · exact Or.inl ⟨f, p, refused, trivial, rfl⟩
    · exact Or.inr ⟨chunk.size, chunk.size, q, wrote, trivial, wrote⟩
  · exact fun p _ name => ⟨_, _, rfl, trivial, rfl⟩

end MemoryPulser

namespace FaultyPulser

variable [Scalar α]

/-- The plan spares the deletion of waveforms. -/
def Deletes (p : FaultyPulser δ) : Prop := ∀ n, p.plan.fails .deleteWaveform n = false

/-- A device in memory behind such a plan stores waveforms, too. -/
theorem stores : Stores (inner : FaultyPulser (MemoryPulser α) → MemoryPulser α) Deletes := by
  constructor
  · intro p deletes name chunk
    let write : Action α (MemoryPulser α) Nat := MemoryPulser.writeWaveform name chunk
    cases fails : p.plan.fails .writeWaveform (p.calls + 1) with
    | true =>
      exact Or.inl ⟨_, _, Action.bind_of_error (attempt_failed write fails), deletes, rfl⟩
    | false =>
      have called := attempt_passed write fails
      rcases MemoryPulser.writeWaveform_outcome p.inner name chunk with
        ⟨f, refused⟩ | ⟨q, w, wrote, -, -⟩
      · have failed : attempt .writeWaveform write p =
            .error f { counted .writeWaveform p with inner := p.inner } := by
          rw [called]
          unfold reach
          rw [show write (counted .writeWaveform p).inner = .error f p.inner from refused]
        exact Or.inl ⟨f, _, Action.bind_of_error failed, deletes, rfl⟩
      · have done : attempt .writeWaveform write p =
            .ok chunk.size { counted .writeWaveform p with inner := q } := by
          rw [called]
          unfold reach
          rw [show write (counted .writeWaveform p).inner = .ok chunk.size q from wrote]
        exact Or.inr ⟨_, chunk.size, _, Action.bind_of_ok done, deletes, wrote⟩
  · intro p deletes name
    have called := attempt_passed (Pulser.deleteWaveform name : Action α (MemoryPulser α) _)
      (deletes (p.calls + 1))
    exact ⟨_, _, called, deletes, rfl⟩

end FaultyPulser

namespace Compiler

variable [Analytic α] [Pulser α δ] {held : δ → MemoryPulser α} {sound : δ → Prop}

/-! ## 2. Chunk by chunk -/

section Chunks

variable {c : Compiler α} {a : Analysis α} {name : String} {written : Nat}
  {group : List (Piece α)} {groups : List (List (Piece α))} {device behind : δ} {f : Failure α}

/-- A chunk is written, but not as many samples of it are reported as it has. -/
def Miscounted (c : Compiler α) (name : String) (a : Analysis α) (written : Nat)
    (group : List (Piece α)) (device : δ) : Prop :=
  ∃ chunk reported device', c.chunkOf a written group = .ok chunk ∧
    (Pulser.writeWaveform name chunk : Action α δ Nat) device = .ok reported device' ∧
    reported ≠ groupSize group

/-- A chunk is not written, or it is written and miscounted, or all is well. -/
theorem writeGroup_outcome (s : Stores held sound) (isSound : sound device) (c : Compiler α)
    (name : String) (a : Analysis α) (written : Nat) (group : List (Piece α)) :
    (∃ f device', c.writeGroup name a written group device = .error f device' ∧ sound device' ∧
      ¬ c.Miscounted name a written group device ∧ held device' = held device) ∨
    (∃ f device' w, c.writeGroup name a written group device = .error f device' ∧ sound device' ∧
      c.Miscounted name a written group device ∧
      (held device').writes = (held device).writes + 1 ∧
      (held device').waveforms.get? name = some w) ∨
    ∃ device', c.writeGroup name a written group device = .ok (groupSize group) device' ∧
      sound device' ∧ ¬ c.Miscounted name a written group device := by
  unfold writeGroup
  cases made : c.chunkOf a written group with
  | error f =>
    refine Or.inl ⟨f, device, Action.bind_of_error (Action.lift_error _ _), isSound, ?_, rfl⟩
    rintro ⟨chunk, -, -, evaluated, -⟩
    rw [made] at evaluated
    cases evaluated
  | ok chunk =>
    rw [Action.bind_of_ok (Action.lift_ok _ _)]
    rcases s.write device isSound name chunk with
      ⟨f, device', refused, sound', same⟩ | ⟨reported, size, device', wrote, sound', kept⟩
    · refine Or.inl ⟨f, device', Action.bind_of_error refused, sound', ?_, same⟩
      rintro ⟨other, reported, device'', evaluated, wrote, -⟩
      rw [made] at evaluated
      cases evaluated
      rw [refused] at wrote
      cases wrote
    · right
      rw [Action.bind_of_ok wrote]
      by_cases miscounted : reported ≠ groupSize group
      · left
        rcases MemoryPulser.writeWaveform_outcome (held device) name chunk with
          ⟨f, refused⟩ | ⟨q, w, there, writes, listed⟩
        · rw [refused] at kept
          cases kept
        · rw [there] at kept
          cases kept
          refine ⟨.device (.shortWrite name reported (groupSize group)), device', w, ?_, sound',
            ⟨chunk, reported, device', made, wrote, miscounted⟩, writes, listed⟩
          rw [if_pos miscounted]
          rfl
      · right
        refine ⟨device', ?_, sound', ?_⟩
        · rw [if_neg miscounted]
          rfl
        · rintro ⟨other, counted, device'', evaluated, wrote', wrong⟩
          rw [made] at evaluated
          cases evaluated
          rw [wrote] at wrote'
          cases wrote'
          exact miscounted wrong

omit [Analytic α] in
theorem discard_gone [Scalar α] (s : Stores held sound) (isSound : sound device) (name : String) :
    (held (discard name device)).waveforms.get? name = none := by
  obtain ⟨deleted, device', called, -, kept⟩ := s.delete device isSound name
  obtain ⟨q, gone, absent, -⟩ := MemoryPulser.deleteWaveform_ok (held device) name
  rw [gone] at kept
  cases kept
  rw [discard, called]
  exact absent

omit [Analytic α] in
/-- What fails also fails when what was written before is deleted. -/
theorem orDiscard_eq_error [Scalar α] {β : Type} {act : Action α δ β}
    (h : orDiscard name written act device = .error f behind) :
    ∃ device', act device = .error f device' ∧
      behind = if 0 < written then discard name device' else device' := by
  unfold orDiscard at h
  cases done : act device with
  | ok b device' => rw [done] at h; cases h
  | error e device' =>
    rw [done] at h
    cases h
    exact ⟨device', rfl, rfl⟩

/-- Behind the last chunk only the total is checked, and that leaves the device alone. -/
theorem writeGroups_nil_error (failed : c.writeGroups name a written [] device = .error f behind) :
    behind = if 0 < written then discard name device else device := by
  obtain ⟨device', wrong, same⟩ := orDiscard_eq_error failed
  by_cases total : written ≠ a.samples
  · rw [if_pos total] at wrong
    cases wrong
    exact same
  · rw [if_neg total] at wrong
    cases wrong

/-- A chunk that fails leaves the device to the deletion of what was written before. -/
theorem writeGroups_cons_error {g : Failure α} {device' : δ}
    (first : c.writeGroup name a written group device = .error g device') :
    c.writeGroups name a written (group :: groups) device =
      .error g (if 0 < written then discard name device' else device') := by
  have discarded : orDiscard name written (c.writeGroup name a written group) device =
      .error g (if 0 < written then discard name device' else device') := by
    rw [orDiscard, first]
  rw [writeGroups, Action.bind_of_error discarded]

/-- Behind a chunk that was counted right, a failure deletes the waveform. -/
theorem writeGroups_gone (s : Stores held sound) (isSound : sound device) (begun : 0 < written)
    (failed : c.writeGroups name a written groups device = .error f behind) :
    (held behind).waveforms.get? name = none := by
  induction groups generalizing written device with
  | nil =>
    rw [writeGroups_nil_error failed, if_pos begun]
    exact discard_gone s isSound name
  | cons group rest ih =>
    have fails {g : Failure α} {device' : δ} (sound' : sound device')
        (first : c.writeGroup name a written group device = .error g device') :
        (held behind).waveforms.get? name = none := by
      rw [writeGroups_cons_error first, if_pos begun] at failed
      cases failed
      exact discard_gone s sound' name
    rcases writeGroup_outcome s isSound c name a written group with
      ⟨g, device', first, sound', -⟩ | ⟨g, device', w, first, sound', -⟩ |
        ⟨device', first, sound', -⟩
    · exact fails sound' first
    · exact fails sound' first
    · rw [writeGroups, Action.bind_of_ok (orDiscard_ok first _)] at failed
      exact ih sound' (Nat.add_pos_left begun _) failed

end Chunks

/-! ## 3. A whole compilation -/

section Compilation

variable {c : Compiler α} {e : Ensemble α} {blocks : Roster (Block α)} {name : String}
  {offset : Nat} {device behind : δ} {f : Failure α}

/-- The first chunk of a compilation is kept on the device, but miscounted. -/
def FirstMiscounted (c : Compiler α) (e : Ensemble α) (blocks : Roster (Block α)) (name : String)
    (offset : Nat) (device : δ) : Prop :=
  ∃ a played group rest, e.analyse blocks c.settings.rate = .ok a ∧
    c.validate e.name a = .ok () ∧ e.played blocks = .ok played ∧
    c.chunks e offset a played = group :: rest ∧ c.Miscounted name a 0 group device

theorem firstMiscounted_iff {a : Analysis α} {played : List (Played α)}
    (analysed : e.analyse blocks c.settings.rate = .ok a) (valid : c.validate e.name a = .ok ())
    (plays : e.played blocks = .ok played) :
    c.FirstMiscounted e blocks name offset device ↔
      ∃ group rest, c.chunks e offset a played = group :: rest ∧
        c.Miscounted name a 0 group device := by
  constructor
  · rintro ⟨a', played', group, rest, analysed', -, plays', first, miscounted⟩
    rw [analysed] at analysed'
    cases analysed'
    rw [plays] at plays'
    cases plays'
    exact ⟨group, rest, first, miscounted⟩
  · rintro ⟨group, rest, first, miscounted⟩
    exact ⟨a, played, group, rest, analysed, valid, plays, first, miscounted⟩

/-- Writing all chunks leaves something behind exactly if the first one was miscounted. -/
theorem writeGroups_leftover_iff (s : Stores held sound) (isSound : sound device)
    {a : Analysis α} {groups : List (List (Piece α))}
    (nonempty : ∀ group ∈ groups, ∀ p ∈ group, 0 < p.size) (filled : ∀ group ∈ groups, group ≠ [])
    (failed : c.writeGroups name a 0 groups device = .error f behind) :
    (Unwritten (held device) (held behind) ∨ (held behind).waveforms.get? name = none) ↔
      ¬ ∃ group rest, groups = group :: rest ∧ c.Miscounted name a 0 group device := by
  have untouched : Unwritten (held device) (held device) := ⟨rfl, rfl⟩
  cases groups with
  | nil =>
    rw [writeGroups_nil_error failed]
    refine iff_of_true (Or.inl untouched) ?_
    rintro ⟨group, rest, none, -⟩
    cases none
  | cons group rest =>
    have only : (∃ g others, group :: rest = g :: others ∧ c.Miscounted name a 0 g device) ↔
        c.Miscounted name a 0 group device := by
      constructor
      · rintro ⟨g, others, same, miscounted⟩
        cases same
        exact miscounted
      · exact fun miscounted => ⟨group, rest, rfl, miscounted⟩
    rw [only]
    rcases writeGroup_outcome s isSound c name a 0 group with
      ⟨g, device', first, -, counted, same⟩ | ⟨g, device', w, first, -, miscounted, writes, there⟩ |
        ⟨device', first, sound', counted⟩
    · rw [writeGroups_cons_error first] at failed
      cases failed
      refine iff_of_true (Or.inl ?_) counted
      rw [if_neg (Nat.lt_irrefl 0), same]
      exact untouched
    · -- Nothing counts as written yet, so what was kept stays.
      rw [writeGroups_cons_error first, if_neg (Nat.lt_irrefl 0)] at failed
      cases failed
      refine iff_of_false ?_ (not_not_intro miscounted)
      rintro (unwritten | gone)
      · exact absurd (writes.symm.trans unwritten.writes) (Nat.succ_ne_self _)
      · rw [there] at gone
        cases gone
    · rw [writeGroups, Action.bind_of_ok (orDiscard_ok first _)] at failed
      have begun := groupSize_pos (nonempty group List.mem_cons_self)
        (filled group List.mem_cons_self)
      exact iff_of_true (Or.inr (writeGroups_gone s sound' (Nat.add_pos_right 0 begun) failed))
        counted

/-- A compilation that fails leaves nothing behind: either no chunk of it was written, or its
waveform is gone. The one exception is a first chunk that the device keeps and miscounts. -/
theorem leftover_iff_first_miscounted (s : Stores held sound) (isSound : sound device)
    (failed : c.sampleEnsemble e blocks name offset device = .error f behind) :
    (Unwritten (held device) (held behind) ∨ (held behind).waveforms.get? name = none) ↔
      ¬ c.FirstMiscounted e blocks name offset device := by
  have untouched : Unwritten (held device) (held device) := ⟨rfl, rfl⟩
  unfold sampleEnsemble at failed
  cases analysed : e.analyse blocks c.settings.rate with
  | error g =>
    rw [analysed] at failed
    cases failed
    refine iff_of_true (Or.inl untouched) ?_
    rintro ⟨a, -, -, -, passed, -⟩
    rw [analysed] at passed
    cases passed
  | ok a =>
    rw [analysed, Action.bind_of_ok (Action.lift_ok _ _)] at failed
    cases valid : c.validate e.name a with
    | error g =>
      rw [valid] at failed
      cases failed
      refine iff_of_true (Or.inl untouched) ?_
      rintro ⟨a', -, -, -, same, passed, -⟩
      rw [analysed] at same
      cases same
      rw [valid] at passed
      cases passed
    | ok _ =>
      obtain ⟨played, known⟩ := Ensemble.analyse_eq_ok analysed
      rw [valid, Action.bind_of_ok (Action.lift_ok _ _), known.plays,
        Action.bind_of_ok (Action.lift_ok _ _)] at failed
      have wrote : c.writeGroups name a 0 (c.chunks e offset a played) device =
          .error f behind := by
        change (c.writeGroups name a 0 (c.chunks e offset a played) >>= _) device = _ at failed
        cases done : c.writeGroups name a 0 (c.chunks e offset a played) device with
        | ok _ device' => rw [Action.bind_of_ok done] at failed; cases failed
        | error g device' =>
          rw [Action.bind_of_error done] at failed
          cases failed
          rfl
      rw [firstMiscounted_iff analysed valid known.plays]
      exact writeGroups_leftover_iff s isSound (c.chunks_pieces_pos e offset a played)
        (c.chunks_ne_nil e offset a played) wrote

end Compilation

/-! Five samples in three chunks, one of which is reported with one sample less. -/

/-- Every call succeeds, but one chunk is reported with one sample less. -/
def shortChunk (n : Nat) : FaultPlan := ⟨fun _ _ => false, (· == n), none⟩

def shortDevice (n : Nat) : FaultyPulser (MemoryPulser ℚ) :=
  .under (shortChunk n) (.fresh steadyCompiler.limits)

/-- With the second chunk two of them were kept, and both are gone. -/
theorem leftover_iff_first_miscounted_second_chunk :
    Stores (α := ℚ) (FaultyPulser.inner (δ := MemoryPulser ℚ)) FaultyPulser.Deletes ∧
    (shortDevice 2).Deletes ∧
    ∃ f behind, steadyCompiler.sampleEnsemble steadyEnsemble steadyBlocks "steady" 0
        (shortDevice 2) = .error f behind ∧
      behind.inner.writes = 2 ∧ behind.inner.waveforms.get? "steady" = none ∧
      ¬ steadyCompiler.FirstMiscounted steadyEnsemble steadyBlocks "steady" 0 (shortDevice 2) := by
  have stores : Stores (α := ℚ) (FaultyPulser.inner (δ := MemoryPulser ℚ)) FaultyPulser.Deletes :=
    FaultyPulser.stores
  have deletes : (shortDevice 2).Deletes := fun _ => rfl
  refine ⟨stores, deletes, ?_⟩
  have ran : (match steadyCompiler.sampleEnsemble steadyEnsemble steadyBlocks "steady" 0
      (shortDevice 2) with
    | .ok _ _ => none
    | .error _ behind =>
      some (behind.inner.writes, (behind.inner.waveforms.get? "steady").isNone)) =
      some (2, true) := by decide +kernel
  cases failed : steadyCompiler.sampleEnsemble steadyEnsemble steadyBlocks "steady" 0
      (shortDevice 2) with
  | ok _ _ => rw [failed] at ran; cases ran
  | error f behind =>
    rw [failed] at ran
    obtain ⟨writes, gone⟩ := Prod.mk.inj (Option.some.inj ran)
    rw [Option.isNone_iff_eq_none] at gone
    exact ⟨f, behind, rfl, writes, gone,
      (leftover_iff_first_miscounted stores deletes failed).mp (Or.inr gone)⟩

/-- The first chunk stays, although the compilation failed. -/
theorem not_gone_of_short_first_chunk :
    Stores (α := ℚ) (FaultyPulser.inner (δ := MemoryPulser ℚ)) FaultyPulser.Deletes ∧
    (shortDevice 1).Deletes ∧
    ∃ f behind, steadyCompiler.sampleEnsemble steadyEnsemble steadyBlocks "steady" 0
        (shortDevice 1) = .error f behind ∧
      ¬ (Unwritten (shortDevice 1).inner behind.inner ∨
        behind.inner.waveforms.get? "steady" = none) := by
  refine ⟨FaultyPulser.stores, fun _ => rfl, ?_⟩
  have ran : (match steadyCompiler.sampleEnsemble steadyEnsemble steadyBlocks "steady" 0
      (shortDevice 1) with
    | .ok _ _ => none
    | .error _ behind =>
      some (behind.inner.writes, (behind.inner.waveforms.get? "steady").isSome)) =
      some (1, true) := by decide +kernel
  cases failed : steadyCompiler.sampleEnsemble steadyEnsemble steadyBlocks "steady" 0
      (shortDevice 1) with
  | ok _ _ => rw [failed] at ran; cases ran
  | error f behind =>
    rw [failed] at ran
    obtain ⟨writes, there⟩ := Prod.mk.inj (Option.some.inj ran)
    refine ⟨f, behind, rfl, ?_⟩
    rintro (unwritten | gone)
    · have none : (shortDevice 1).inner.writes = 0 := rfl
      rw [← unwritten.writes, writes] at none
      cases none
    · rw [gone] at there
      cases there

end Compiler

end PulseBench
