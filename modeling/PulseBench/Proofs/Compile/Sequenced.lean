import PulseBench.Proofs.Compile.Program

/-!
# The program of a compiled sequence

Whoever compiles a sequence wants to find it on the device: every step in its
place, with a waveform that is the ensemble of the step in the frame of the
sequence. In a rotating frame the phase has to run on, so every step has a
waveform of its own, compiled from the bin behind all earlier steps. Otherwise
steps with the same ensemble share a waveform, and all of them start at bin zero.

`Sequenced` is what holds between two steps. It lists the waveforms of the steps
so far, so that the offset of the next step is the sum of their sizes.

Results:
1. `waveformName_number`: in a rotating frame no two steps share a waveform.
2. `compiledFrom?_of_compiles`: compiling on a fresh device stands for compiling
   on any other.
3. `Sequenced.step`, `Sequenced.run`: one step, and all of them.
4. `sampleSequence_programmed`: the program and the record of a sequence.
-/

namespace PulseBench.Compiler

open MemoryPulser (Frame Accepting)

variable {α : Type}

/-! ## 1. Numbered names -/

/-- A number can be read off the end of a name, behind the last underscore. -/
theorem number_of_numbered {a b : String} {j k : Nat} (same : s!"{a}_{j}" = s!"{b}_{k}") :
    j = k := by
  have noUnderscore (n : Nat) : '_' ∉ (toString n).toList.reverse := by
    rw [List.mem_reverse, Nat.toString_eq_repr, Nat.toList_repr]
    exact Nat.underscore_not_in_toDigits
  have reversed (name : String) (n : Nat) : (s!"{name}_{n}").toList.reverse =
      (toString n).toList.reverse ++ '_' :: name.toList.reverse := by
    simp [String.toList_append, toString]
  -- Read backwards, both names start with their digits, and the underscore ends these.
  have digits (n : Nat) (rest : List Char) :
      ((toString n).toList.reverse ++ '_' :: rest).takeWhile (· != '_') =
        (toString n).toList.reverse := by
    rw [List.takeWhile_append_of_pos fun c member => by
      simpa using fun (own : c = '_') => noUnderscore n (own ▸ member)]
    simp
  have backwards := congrArg (fun name => name.toList.reverse.takeWhile (· != '_')) same
  simp only [reversed, digits, List.reverse_inj, String.toList_inj] at backwards
  rw [Nat.toString_eq_repr, Nat.toString_eq_repr] at backwards
  have parsed := congrArg (fun digits => Nat.ofDigitChars 10 digits.toList 0) backwards
  simpa using parsed

/-- In a rotating frame no two steps share a waveform. -/
theorem waveformName_number {s : Sequence α} (rotating : s.rotating = true) {e e' : Ensemble α}
    {j k : Nat} (same : waveformName s e j = waveformName s e' k) : j = k := by
  rw [waveformName, waveformName, rotating] at same
  exact number_of_numbered same

/-- Otherwise the waveform carries the name of the ensemble. -/
theorem waveformName_plain {s : Sequence α} (plain : s.rotating = false) (e : Ensemble α)
    (k : Nat) : waveformName s e k = e.name := by
  rw [waveformName, plain]
  rfl

/-! ## 2. Compiling on a fresh device -/

variable [Analytic α]

/-- The waveform that an ensemble is compiled to from bin `offset`, on a fresh device. -/
def compiledFrom? (c : Compiler α) (e : Ensemble α) (blocks : Roster (Block α)) (offset : Nat) :
    Option (Waveform α) :=
  match c.sampleEnsemble e blocks e.name offset (MemoryPulser.fresh c.limits) with
  | .ok _ device => device.waveforms.get? e.name
  | .error _ _ => none

section Fresh

variable {c : Compiler α} {e : Ensemble α} {blocks : Roster (Block α)} {offset : Nat}

theorem compiledFrom?_of_compiles (least : 1 ≤ c.limits.samples.least) {a : Analysis α}
    {played : List (Played α)} (h : c.Compiles e blocks offset a played) :
    c.compiledFrom? e blocks offset = some (c.reference e offset a played) := by
  have accepting : (MemoryPulser.fresh c.limits).Accepting := rfl
  obtain ⟨device, done, held, -⟩ := sampleEnsemble_ok h accepting e.name
  rw [compiledFrom?, done]
  exact held (Nat.lt_of_lt_of_le least (fits_of_validate h.valid).atLeast)

/-- What a successful compilation leaves on a device is what it leaves on a fresh one. -/
theorem sampleEnsemble_done (least : 1 ≤ c.limits.samples.least) {device device' : MemoryPulser α}
    (accepting : device.Accepting) {name : String} {behind : Nat} {r : Record α}
    (done : c.sampleEnsemble e blocks name offset device = .ok (behind, r) device') :
    ∃ w, c.compiledFrom? e blocks offset = some w ∧ device'.waveforms.get? name = some w ∧
      w.complete = true ∧ r.samples = w.size ∧ r.waveforms = [name] ∧
      behind = (if e.rotating then offset + w.size else offset) ∧
      Frame (· = name) device device' := by
  obtain ⟨a, played, compiles⟩ := (succeeds_iff_compiles accepting name).mp ⟨_, _, done⟩
  obtain ⟨own, same, held, frame⟩ := sampleEnsemble_ok compiles accepting name
  rw [same] at done
  cases done
  have filled := Nat.lt_of_lt_of_le least (fits_of_validate compiles.valid).atLeast
  have size := compiles.size_reference filled
  exact ⟨_, compiledFrom?_of_compiles least compiles, held filled, rfl, size.symm, rfl,
    by rw [size], frame⟩

end Fresh

/-! ## 3. Step by step -/

omit [Analytic α] in
/-- The bin at which a sequence goes on behind the given waveforms. -/
def behind (s : Sequence α) (waves : List (Waveform α)) : Nat :=
  if s.rotating then (waves.map Waveform.size).sum else 0

omit [Analytic α] in
theorem behind_append_singleton (s : Sequence α) (waves : List (Waveform α)) (w : Waveform α) :
    behind s (waves ++ [w]) =
      if s.rotating then behind s waves + w.size else behind s waves := by
  rw [behind, behind, List.map_append, List.sum_append, List.map_singleton, List.sum_singleton]
  split <;> rfl

/-- A step of the program: it carries the step of the sequence, and plays one waveform, which is
complete and is the ensemble of the step in the frame of the sequence from bin `offset`. -/
def Plays (c : Compiler α) (s : Sequence α) (ensembles : Roster (Ensemble α))
    (blocks : Roster (Block α)) (device : MemoryPulser α) (k offset : Nat) (w : Waveform α)
    (entry : ProgramStep) : Prop :=
  ∃ step e, s.steps[k]? = some step ∧ ensembles.get? step.ensemble = some e ∧
    entry = ⟨[waveformName s e k], step⟩ ∧
    device.waveforms.get? (waveformName s e k) = some w ∧ w.complete = true ∧
    c.compiledFrom? (framed s e) blocks offset = some w

/-- Between two steps, the waveforms of the steps so far being `waves`. -/
structure Sequenced (c : Compiler α) (s : Sequence α) (ensembles : Roster (Ensemble α))
    (blocks : Roster (Block α)) (before : MemoryPulser α) (waves : List (Waveform α))
    (draft : Draft α) (device : MemoryPulser α) : Prop where
  frame : Frame (fun n => draft.sampled.contains n = true) before device
  length : draft.steps.length = waves.length
  offset : draft.offset = behind s waves
  plays : ∀ k entry w, draft.steps[k]? = some entry → waves[k]? = some w →
    c.Plays s ensembles blocks device k (behind s (waves.take k)) w entry
  records : ∀ n r, draft.sampled.get? n = some r → r.waveforms = [n] ∧
    ∃ w, device.waveforms.get? n = some w ∧ r.samples = w.size
  written : ∀ n, draft.sampled.contains n = true ↔ ∃ entry ∈ draft.steps, n ∈ entry.waveforms

section Steps

variable {c : Compiler α} {s : Sequence α} {ensembles : Roster (Ensemble α)}
  {blocks : Roster (Block α)} {before device device' : MemoryPulser α} {draft draft' : Draft α}
  {waves : List (Waveform α)}

theorem Sequenced.start (before : MemoryPulser α) :
    Sequenced c s ensembles blocks before [] ⟨∅, 0, []⟩ before where
  frame := Frame.refl _ _
  length := rfl
  offset := by rw [behind]; split <;> rfl
  plays _ _ _ listed := by cases listed
  records _ _ found := by cases found
  written n := iff_of_false (by simp [Roster.contains]) fun ⟨_, listed, _⟩ => by cases listed

/-- Other waveforms do not matter to a step of the program. -/
theorem Plays.frame {k offset : Nat} {w : Waveform α} {entry : ProgramStep}
    (h : c.Plays s ensembles blocks device k offset w entry) {touched : String → Prop}
    (f : Frame touched device device') (other : ∀ n ∈ entry.waveforms, ¬ touched n) :
    c.Plays s ensembles blocks device' k offset w entry := by
  obtain ⟨step, e, listed, found, rfl, held, rest⟩ := h
  exact ⟨step, e, listed, found, rfl,
    (f.waveforms _ (other _ (List.mem_singleton_self _))).trans held, rest⟩

/-- A waveform that is there already was compiled for a step without a frame, from the ensemble of
the same name. -/
theorem Sequenced.again (h : Sequenced c s ensembles blocks before waves draft device)
    (keyed : ∀ n e, ensembles.get? n = some e → e.name = n) {step : Step} {e : Ensemble α}
    (listed : s.steps[waves.length]? = some step) (found : ensembles.get? step.ensemble = some e)
    (there : draft.sampled.contains (waveformName s e waves.length) = true) :
    s.rotating = false ∧ ∃ w, c.Plays s ensembles blocks device waves.length 0 w
      ⟨[waveformName s e waves.length], step⟩ := by
  obtain ⟨entry, member, named⟩ := (h.written _).mp there
  obtain ⟨j, before, rfl⟩ := List.mem_iff_getElem.mp member
  have placed : draft.steps[j]? = some draft.steps[j] := List.getElem?_eq_getElem before
  have inside : j < waves.length := h.length ▸ before
  obtain ⟨own, e', ownListed, ownFound, entryEq, held, complete, compiled⟩ :=
    h.plays j _ _ placed (List.getElem?_eq_getElem inside)
  rw [entryEq, List.mem_singleton] at named
  cases rotating : s.rotating with
  | true => exact absurd (waveformName_number rotating named).symm (Nat.ne_of_lt inside)
  | false =>
    -- Both ensembles are kept under the name of the one waveform.
    rw [waveformName_plain rotating, waveformName_plain rotating, keyed _ _ found,
      keyed _ _ ownFound] at named
    rw [named] at found
    cases Option.some.inj (found.symm.trans ownFound)
    rw [waveformName_plain rotating] at held
    rw [behind, rotating] at compiled
    refine ⟨rfl, waves[j], step, e, listed, named ▸ found, rfl, ?_, complete, compiled⟩
    rw [waveformName_plain rotating]
    exact held

/-- One more entry of the program. -/
theorem plays_append {c : Compiler α} {steps : List ProgramStep} {entry : ProgramStep}
    {w : Waveform α} (length : steps.length = waves.length)
    (old : ∀ k own v, steps[k]? = some own → waves[k]? = some v →
      c.Plays s ensembles blocks device k (behind s (waves.take k)) v own)
    (new : c.Plays s ensembles blocks device waves.length (behind s waves) w entry) :
    ∀ k own v, (steps ++ [entry])[k]? = some own → (waves ++ [w])[k]? = some v →
      c.Plays s ensembles blocks device k (behind s ((waves ++ [w]).take k)) v own := by
  intro k own v listed wave
  rcases Nat.lt_trichotomy k waves.length with inside | rfl | outside
  · rw [List.getElem?_append_left (length ▸ inside)] at listed
    rw [List.getElem?_append_left inside] at wave
    rw [List.take_append_of_le_length (Nat.le_of_lt inside)]
    exact old k own v listed wave
  · rw [← length, List.getElem?_concat_length] at listed
    rw [List.getElem?_concat_length] at wave
    cases listed
    cases wave
    rw [List.take_left]
    exact new
  · rw [List.getElem?_eq_none (by rw [List.length_append]; exact outside)] at wave
    cases wave

omit [Analytic α] in
theorem exists_mem_append_entry {steps : List ProgramStep} {name n : String} {step : Step} :
    (∃ entry ∈ steps ++ [⟨[name], step⟩], n ∈ entry.waveforms) ↔
      (∃ entry ∈ steps, n ∈ entry.waveforms) ∨ n = name := by
  simp only [List.mem_append, List.mem_singleton, or_and_right, exists_or, exists_eq_left]

/-- One step: either its waveform is there, or it is compiled behind the earlier ones. -/
theorem Sequenced.step (least : 1 ≤ c.limits.samples.least) (accepting : before.Accepting)
    (keyed : ∀ n e, ensembles.get? n = some e → e.name = n)
    (h : Sequenced c s ensembles blocks before waves draft device) {step : Step}
    (listed : s.steps[waves.length]? = some step)
    (done : c.addStep s ensembles blocks draft (step, waves.length) device = .ok draft' device') :
    ∃ w, Sequenced c s ensembles blocks before (waves ++ [w]) draft' device' := by
  obtain ⟨e, found, ⟨there, rfl, rfl⟩ | ⟨fresh, next, r, sampled, rfl⟩⟩ := addStep_ok done
  · -- The waveform of an earlier step is played once more.
    obtain ⟨plain, w, plays⟩ := h.again keyed listed found there
    have zero (all : List (Waveform α)) : behind s all = 0 := by rw [behind, plain]; rfl
    refine ⟨w, h.frame, by simp [h.length], ?_, plays_append h.length h.plays ?_, h.records,
      fun n => ?_⟩
    · rw [h.offset, zero, zero]
    · rw [zero]
      exact plays
    · rw [exists_mem_append_entry, ← h.written]
      exact ⟨Or.inl, fun known => known.elim id fun own => own ▸ there⟩
  · obtain ⟨w, compiled, held, complete, samples, named, moved, frame⟩ :=
      sampleEnsemble_done least (accepting.frame h.frame) sampled
    have apart : ∀ n, draft.sampled.contains n = true → n ≠ waveformName s e waves.length :=
      fun n known own => Bool.eq_false_iff.mp fresh (own ▸ known)
    rw [h.offset] at compiled moved
    refine ⟨w, ?_, by simp [h.length], ?_, plays_append h.length ?_ ?_, ?_, fun n => ?_⟩
    · exact (h.frame.mono fun n known => Roster.contains_insert_iff.mpr (Or.inr known)).trans
        (frame.mono fun n own => Roster.contains_insert_iff.mpr (Or.inl own))
    · rw [behind_append_singleton]
      exact moved
    · intro k entry v placed wave
      refine (h.plays k entry v placed wave).frame frame fun n member => apart n ?_
      exact (h.written n).mpr ⟨entry, List.mem_of_getElem? placed, member⟩
    · exact ⟨step, e, listed, found, rfl, held, complete, compiled⟩
    · intro n own drafted
      rw [Roster.get?_insert] at drafted
      split at drafted
      · rename_i same
        cases drafted
        exact ⟨same ▸ named, w, same ▸ held, samples⟩
      · rename_i other
        obtain ⟨alone, v, there, size⟩ := h.records n own drafted
        exact ⟨alone, v, (frame.waveforms n other).trans there, size⟩
    · rw [Roster.contains_insert_iff, h.written, exists_mem_append_entry, or_comm]

/-- All steps, by induction on those that are left. -/
theorem Sequenced.run (least : 1 ≤ c.limits.samples.least) (accepting : before.Accepting)
    (keyed : ∀ n e, ensembles.get? n = some e → e.name = n)
    (h : Sequenced c s ensembles blocks before waves draft device) {left : List Step}
    (remaining : s.steps.drop waves.length = left)
    (done : (left.zipIdx waves.length).foldlM (c.addStep s ensembles blocks) draft device =
      .ok draft' device') :
    ∃ all, all.length = waves.length + left.length ∧
      Sequenced c s ensembles blocks before all draft' device' := by
  induction left generalizing waves draft device with
  | nil =>
    cases done
    exact ⟨waves, rfl, h⟩
  | cons step rest ih =>
    rw [List.zipIdx_cons, List.foldlM_cons] at done
    obtain ⟨between, middle, first, others⟩ := Action.bind_ok_iff.mp done
    have listed : s.steps[waves.length]? = some step := by
      rw [← List.head?_drop, remaining]
      rfl
    obtain ⟨w, next⟩ := h.step least accepting keyed listed first
    have length : (waves ++ [w]).length = waves.length + 1 := by simp
    have rests : s.steps.drop (waves ++ [w]).length = rest := by
      rw [length, ← List.tail_drop, remaining]
      rfl
    obtain ⟨all, counted, whole⟩ := ih next rests (by rw [length]; exact others)
    exact ⟨all, by rw [counted, length, List.length_cons]; omega, whole⟩

/-- Every record drafted is that of one waveform, and as long as this. -/
theorem Sequenced.joined (h : Sequenced c s ensembles blocks before waves draft device)
    (settings : PulserSettings α) :
    (joinRecords settings draft.sampled.values).waveforms = draft.sampled.names ∧
      (joinRecords settings draft.sampled.values).samples =
        (draft.sampled.names.map fun n =>
          ((device.waveforms.get? n).map Waveform.size).getD 0).sum := by
  obtain ⟨samples, waveforms⟩ := joinRecords_eq settings draft.sampled.values
  have entries : ∀ entry ∈ draft.sampled.entries, entry.2.waveforms = [entry.1] ∧
      entry.2.samples = ((device.waveforms.get? entry.1).map Waveform.size).getD 0 := by
    rintro ⟨n, r⟩ member
    obtain ⟨alone, w, held, size⟩ := h.records n r (Roster.mem_entries_iff.mp member)
    exact ⟨alone, by rw [held]; exact size⟩
  rw [samples, waveforms, Roster.values, Roster.names, List.flatMap_map, List.map_map,
    List.map_map]
  constructor
  · rw [List.map_eq_flatMap]
    exact List.flatMap_congr fun entry member => (entries entry member).1
  · exact congrArg List.sum (List.map_congr_left fun entry member => (entries entry member).2)

end Steps

/-! ## 4. The whole sequence -/

/-- If a sequence is compiled on a device that refuses nothing, its program has one entry for every
step, in order, which carries the step and plays one waveform. This waveform is on the device, is
complete, and is what the ensemble of the step compiles to in the frame of the sequence: from bin
zero without a rotating frame, otherwise from the bin behind the waveforms of all earlier steps.
The record names every waveform of the program once, adds up their sizes, and no other waveform was
written. -/
theorem sampleSequence_programmed (c : Compiler α) (s : Sequence α)
    (ensembles : Roster (Ensemble α)) (blocks : Roster (Block α)) (device device' : MemoryPulser α)
    (record : Record α) (records : List (String × Record α))
    (least : 1 ≤ c.limits.samples.least)
    (keyed : ∀ n e, ensembles.get? n = some e → e.name = n) (accepting : device.Accepting)
    (done : c.sampleSequence s ensembles blocks device = .ok (record, records) device') :
    ∃ (program : List ProgramStep) (waves : List (Waveform α)),
      device'.programs.get? s.name = some program ∧
      program.map ProgramStep.step = s.steps ∧ waves.length = s.steps.length ∧
      (∀ k step, s.steps[k]? = some step → ∃ e name w, ensembles.get? step.ensemble = some e ∧
        program[k]? = some ⟨[name], step⟩ ∧ waves[k]? = some w ∧
        device'.waveforms.get? name = some w ∧ w.complete = true ∧
        c.compiledFrom? { e with rotating := s.rotating } blocks
          (if s.rotating then ((waves.take k).map Waveform.size).sum else 0) = some w) ∧
      record.waveforms.Nodup ∧
      (∀ n, n ∈ record.waveforms ↔ ∃ entry ∈ program, n ∈ entry.waveforms) ∧
      record.samples = (record.waveforms.map fun n =>
        ((device'.waveforms.get? n).map Waveform.size).getD 0).sum ∧
      ∀ n, n ∉ record.waveforms → device'.waveforms.get? n = device.waveforms.get? n := by
  obtain ⟨draft, drafted, steps, -, added, wrote, rfl, -⟩ := sampleSequence_ok done
  have start : Sequenced c s ensembles blocks device [] ⟨∅, 0, []⟩ device := .start device
  obtain ⟨waves, length, h⟩ := start.run least accepting keyed rfl added
  rw [List.length_nil, Nat.zero_add] at length
  have there : ∀ entry ∈ draft.steps, ∀ n ∈ entry.waveforms,
      drafted.waveforms.contains n = true := by
    intro entry member n named
    obtain ⟨r, found⟩ := Roster.contains_iff.mp ((h.written n).mpr ⟨entry, member, named⟩)
    obtain ⟨-, w, held, -⟩ := h.records n r found
    exact Roster.contains_iff.mpr ⟨w, held⟩
  obtain ⟨own, same, -, -, waveforms, programs⟩ :=
    MemoryPulser.writeSequence_ok (accepting.frame h.frame) s.name draft.steps there
  obtain rfl : own = device' := by
    cases same.symm.trans wrote
    rfl
  obtain ⟨names, samples⟩ := h.joined c.settings
  have count : draft.steps.length = s.steps.length := h.length.trans length
  refine ⟨draft.steps, waves, ?_, ?_, length, fun k step listed => ?_, ?_, fun n => ?_, ?_,
    fun n unwritten => ?_⟩
  · rw [programs]
    exact Roster.get?_insert_self _ _ _
  · refine List.ext_getElem? fun k => ?_
    rw [List.getElem?_map]
    by_cases inside : k < draft.steps.length
    · have placed := List.getElem?_eq_getElem inside
      obtain ⟨step, e, listed, -, entry, -⟩ :=
        h.plays k _ _ placed (List.getElem?_eq_getElem (h.length ▸ inside))
      rw [placed, listed, Option.map_some, entry]
    · rw [List.getElem?_eq_none (Nat.le_of_not_lt inside),
        List.getElem?_eq_none (count ▸ Nat.le_of_not_lt inside)]
      rfl
  · have inside : k < s.steps.length := (List.getElem?_eq_some_iff.mp listed).1
    have placed := List.getElem?_eq_getElem (count ▸ inside : k < draft.steps.length)
    have wave := List.getElem?_eq_getElem (length ▸ inside : k < waves.length)
    obtain ⟨own, e, sameStep, found, entry, held, complete, compiled⟩ :=
      h.plays k _ _ placed wave
    cases Option.some.inj (listed.symm.trans sameStep)
    exact ⟨e, _, _, found, placed.trans (congrArg some entry), wave, by rw [waveforms]; exact held,
      complete, compiled⟩
  · rw [names]
    exact draft.sampled.nodup
  · rw [names, Roster.mem_names_iff, ← Roster.contains_iff, h.written]
  · rw [samples, names, waveforms]
  · rw [waveforms]
    refine h.frame.waveforms n fun known => unwritten ?_
    rw [names, Roster.mem_names_iff]
    exact Roster.contains_iff.mp known

/-! The same ensemble twice in a rotating frame. -/

def steadyEnsembles : Roster (Ensemble ℚ) := Roster.ofList [("steady", steadyEnsemble)]

def steadyTwice : Sequence ℚ :=
  ⟨"twice", [.plain "steady" (.finite 1), .plain "steady" (.finite 3)], true, none, none⟩

/-- The second step goes on behind the five bins of the first. -/
theorem sampleSequence_programmed_twice :
    1 ≤ steadyCompiler.limits.samples.least ∧
    (∀ n e, steadyEnsembles.get? n = some e → e.name = n) ∧
    (MemoryPulser.fresh steadyCompiler.limits).Accepting ∧
    ∃ record records device', steadyCompiler.sampleSequence steadyTwice steadyEnsembles
        steadyBlocks (MemoryPulser.fresh steadyCompiler.limits) = .ok (record, records) device' ∧
      record.samples = 10 ∧ record.waveforms.Nodup ∧
      ∃ program, device'.programs.get? "twice" = some program ∧
        program.map ProgramStep.step = steadyTwice.steps ∧
        ∃ name w, program[1]? = some ⟨[name], .plain "steady" (.finite 3)⟩ ∧
          device'.waveforms.get? name = some w ∧
          steadyCompiler.compiledFrom? steadyEnsemble steadyBlocks 5 = some w := by
  have least : 1 ≤ steadyCompiler.limits.samples.least := by decide
  have keyed : ∀ n e, steadyEnsembles.get? n = some e → e.name = n := by
    intro n e found
    have listed : (n, e) ∈ [("steady", steadyEnsemble)] := Roster.mem_entries_iff.mpr found
    cases List.mem_singleton.mp listed
    rfl
  have accepting : (MemoryPulser.fresh steadyCompiler.limits).Accepting := rfl
  have ran : (match steadyCompiler.sampleSequence steadyTwice steadyEnsembles steadyBlocks
      (MemoryPulser.fresh steadyCompiler.limits) with
    | .ok (record, _) device =>
        some (record.samples, (device.waveforms.get? "steady_0").map Waveform.size,
          (device.programs.get? "twice").map fun program =>
            program.map ProgramStep.waveforms)
    | .error _ _ => none) = some (10, some 5, some [["steady_0"], ["steady_1"]]) := by
    decide +kernel
  refine ⟨least, keyed, accepting, ?_⟩
  cases done : steadyCompiler.sampleSequence steadyTwice steadyEnsembles steadyBlocks
      (MemoryPulser.fresh steadyCompiler.limits) with
  | error f device' => rw [done] at ran; cases ran
  | ok result device' =>
    obtain ⟨record, records⟩ := result
    rw [done] at ran
    simp only [Option.some.injEq, Prod.mk.injEq, Option.map_eq_some_iff] at ran
    obtain ⟨samples, ⟨first, held, five⟩, own, programmed, names⟩ := ran
    obtain ⟨program, waves, found, steps, length, each, nodup, -⟩ :=
      sampleSequence_programmed _ _ _ _ _ _ _ _ least keyed accepting done
    cases Option.some.inj (programmed.symm.trans found)
    obtain ⟨_, name₀, w₀, -, entry₀, wave₀, held₀, -⟩ := each 0 _ rfl
    obtain ⟨e, name, w, known, entry, -, there, -, compiled⟩ := each 1 _ rfl
    have size : ((waves.take 1).map Waveform.size).sum = 5 := by
      have zeroth : (own.map ProgramStep.waveforms)[0]? = some [name₀] := by
        rw [List.getElem?_map, entry₀]
        rfl
      rw [names] at zeroth
      cases zeroth
      cases Option.some.inj (held.symm.trans held₀)
      rw [List.take_one, List.head?_eq_getElem?, wave₀]
      exact five
    have ensemble : e = steadyEnsemble := by
      cases known
      rfl
    rw [size, ensemble] at compiled
    exact ⟨record, records, device', rfl, samples, nodup, own, found, steps, name, w, entry, there,
      compiled⟩

end PulseBench.Compiler
