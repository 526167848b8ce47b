import PulseBench.Compile.Program
import PulseBench.Proofs.Compile.Refinement

/-!
# Compiling a sequence step by step

Step by step, a sequence gets its waveforms. `Drafted` is what holds between two
steps: every record drafted so far describes a waveform that the device holds,
namely the reference waveform of the step's ensemble in the frame of the
sequence, and no other waveform changed. If a step fails, at most waveforms of
the sequence's steps changed.

Results:
1. `joinRecords_eq`: the joined record adds up those of the steps.
2. `addStep_outcome`: one step.
3. `sampleSequence_outcome`: the whole sequence.
4. `sampleSequence_names`: which records are handed back, whatever the device does.
-/

namespace PulseBench.Compiler

variable {α : Type}

open MemoryPulser (Frame Accepting)

/-! ## 1. Joined records -/

theorem joinRecords_eq (settings : PulserSettings α) (records : List (Record α)) :
    (joinRecords settings records).samples = (records.map Record.samples).sum ∧
      (joinRecords settings records).waveforms = records.flatMap Record.waveforms := by
  have joined (start : Record α) :
      let total := records.foldl (fun total r =>
        { total with
          samples := total.samples + r.samples
          elements := total.elements + r.elements
          analog := total.analog.union r.analog
          digital := total.digital.union r.digital
          waveforms := total.waveforms ++ r.waveforms }) start
      total.samples = start.samples + (records.map Record.samples).sum ∧
        total.waveforms = start.waveforms ++ records.flatMap Record.waveforms := by
    induction records generalizing start with
    | nil => simp
    | cons r rest ih =>
      rw [List.foldl_cons, List.map_cons, List.sum_cons, List.flatMap_cons]
      obtain ⟨samples, waveforms⟩ := ih _
      exact ⟨samples.trans (Nat.add_assoc _ _ _), waveforms.trans (List.append_assoc _ _ _)⟩
  obtain ⟨samples, waveforms⟩ := joined (Record.blank settings)
  exact ⟨samples.trans (Nat.zero_add _), waveforms.trans (List.nil_append _)⟩

/-! ## 2. One step -/

theorem mem_ensembleNames_iff {s : Sequence α} {n : String} :
    n ∈ s.ensembleNames ↔ ∃ step ∈ s.steps, step.ensemble = n := by
  have listed (steps : List Step) (names : List String) :
      n ∈ steps.foldl (fun names step =>
        if names.contains step.ensemble then names else names ++ [step.ensemble]) names ↔
      n ∈ names ∨ ∃ step ∈ steps, step.ensemble = n := by
    induction steps generalizing names with
    | nil => simp
    | cons step rest ih =>
      rw [List.foldl_cons, ih]
      by_cases known : step.ensemble ∈ names
      · simp only [List.contains_eq_mem, known, decide_true, if_true, List.exists_mem_cons_iff]
        grind
      · simp only [List.contains_eq_mem, known, decide_false, Bool.false_eq_true, if_false,
          List.mem_append, List.mem_singleton, List.exists_mem_cons_iff, or_assoc, eq_comm]
  rw [Sequence.ensembleNames, listed]
  simp

/-- The waveforms that the steps of a sequence are compiled into. -/
def StepWaveform (s : Sequence α) (ensembles : Roster (Ensemble α)) (n : String) : Prop :=
  ∃ step number e, (step, number) ∈ s.steps.zipIdx ∧
    ensembles.get? step.ensemble = some e ∧ n = waveformName s e number

/-- An ensemble in the frame of a sequence. -/
def framed (s : Sequence α) (e : Ensemble α) : Ensemble α := { e with rotating := s.rotating }

variable [Analytic α]

/-- A record of a step, with the reference waveform of its ensemble on the device. -/
def StepCompiled (c : Compiler α) (s : Sequence α) (ensembles : Roster (Ensemble α))
    (blocks : Roster (Block α)) (device : MemoryPulser α) (n : String) (r : Record α) : Prop :=
  ∃ step number e offset a played, (step, number) ∈ s.steps.zipIdx ∧
    ensembles.get? step.ensemble = some e ∧ n = waveformName s e number ∧
    c.Compiles (framed s e) blocks offset a played ∧ r = c.recordOf a n ∧
    device.waveforms.get? n = some (c.reference (framed s e) offset a played)

/-- Between two steps of a sequence. -/
structure Drafted (c : Compiler α) (s : Sequence α) (ensembles : Roster (Ensemble α))
    (blocks : Roster (Block α)) (before : MemoryPulser α) (draft : Draft α)
    (device : MemoryPulser α) : Prop where
  frame : Frame (fun n => draft.sampled.contains n = true) before device
  compiled : ∀ n r, draft.sampled.get? n = some r → StepCompiled c s ensembles blocks device n r
  written : ∀ step ∈ draft.steps, ∀ w ∈ step.waveforms, draft.sampled.contains w = true

section Steps

variable {c : Compiler α} {s : Sequence α} {ensembles : Roster (Ensemble α)}
  {blocks : Roster (Block α)} {before device : MemoryPulser α} {draft : Draft α}

theorem StepCompiled.stepWaveform {n : String} {r : Record α}
    (h : StepCompiled c s ensembles blocks device n r) : StepWaveform s ensembles n := by
  obtain ⟨step, number, e, offset, a, played, listed, found, name, -⟩ := h
  exact ⟨step, number, e, listed, found, name⟩

/-- The waveform of a step is complete and as long as its record says. -/
theorem StepCompiled.held (least : 1 ≤ c.limits.samples.least) {n : String} {r : Record α}
    (h : StepCompiled c s ensembles blocks device n r) :
    ∃ w, device.waveforms.get? n = some w ∧ w.complete = true ∧ w.size = r.samples := by
  obtain ⟨step, number, e, offset, a, played, listed, found, name, compiles, rfl, held⟩ := h
  have filled := Nat.lt_of_lt_of_le least (fits_of_validate compiles.valid).atLeast
  exact ⟨_, held, rfl, compiles.size_reference filled⟩

/-- What was drafted stays drafted while other waveforms are written. -/
theorem StepCompiled.frame {touched : String → Prop} {after : MemoryPulser α} {n : String}
    {r : Record α} (h : StepCompiled c s ensembles blocks device n r)
    (f : Frame touched device after) (other : ¬ touched n) :
    StepCompiled c s ensembles blocks after n r := by
  obtain ⟨step, number, e, offset, a, played, listed, found, name, compiles, record, held⟩ := h
  exact ⟨step, number, e, offset, a, played, listed, found, name, compiles, record,
    (f.waveforms n other).trans held⟩

/-- So far, only waveforms of steps changed. -/
theorem Drafted.stepFrame (h : Drafted c s ensembles blocks before draft device) :
    Frame (StepWaveform s ensembles) before device := by
  refine h.frame.mono fun n there => ?_
  obtain ⟨r, found⟩ := Roster.contains_iff.mp there
  exact (h.compiled n r found).stepWaveform

theorem addStep_outcome (least : 1 ≤ c.limits.samples.least) (accepting : before.Accepting)
    (h : Drafted c s ensembles blocks before draft device) {numbered : Step × Nat}
    (listed : numbered ∈ s.steps.zipIdx) :
    (∃ draft' device', c.addStep s ensembles blocks draft numbered device = .ok draft' device' ∧
      Drafted c s ensembles blocks before draft' device') ∨
    ∃ f device', c.addStep s ensembles blocks draft numbered device = .error f device' ∧
      Frame (StepWaveform s ensembles) before device' := by
  obtain ⟨step, number⟩ := numbered
  unfold addStep
  cases found : ensembles.get? step.ensemble with
  | none =>
    have unknown : (Action.lift (findEnsemble ensembles step.ensemble) :
        Action α (MemoryPulser α) (Ensemble α)) device =
        .error (.unknown ObjectKind.ensemble.collection step.ensemble) device := by
      rw [findEnsemble, found]
      rfl
    exact Or.inr ⟨_, device, Action.bind_of_error unknown, h.stepFrame⟩
  | some e =>
    have known : (Action.lift (findEnsemble ensembles step.ensemble) :
        Action α (MemoryPulser α) (Ensemble α)) device = .ok e device := by
      rw [findEnsemble, found]
      rfl
    simp only []
    rw [Action.bind_of_ok known]
    by_cases there : draft.sampled.contains (waveformName s e number) = true
    · -- The waveform is there already, so the step only plays it once more.
      simp only [there, if_true]
      refine Or.inl ⟨_, device, rfl, h.frame, h.compiled, fun played member w named => ?_⟩
      rcases List.mem_append.mp member with earlier | last
      · exact h.written played earlier w named
      · rw [List.mem_singleton.mp last] at named
        rw [List.mem_singleton.mp named]
        exact there
    · simp only [there]
      by_cases compiles : ∃ a played, c.Compiles (framed s e) blocks draft.offset a played
      · obtain ⟨a, played, compiles⟩ := compiles
        obtain ⟨device', done, held, frame⟩ := sampleEnsemble_ok compiles
          (accepting.frame h.frame) (waveformName s e number)
        have filled : 0 < a.samples :=
          Nat.lt_of_lt_of_le least (fits_of_validate compiles.valid).atLeast
        left
        refine ⟨_, device', Action.bind_of_ok done, ?_, fun n r drafted => ?_,
          fun played member w named => ?_⟩
        · exact (h.frame.mono fun n there => Roster.contains_insert_iff.mpr (Or.inr there)).trans
            (frame.mono fun n own => Roster.contains_insert_iff.mpr (Or.inl own))
        · rw [Roster.get?_insert] at drafted
          split at drafted
          · rename_i own
            subst own
            cases drafted
            exact ⟨step, number, e, draft.offset, a, _, listed, found, rfl, compiles, rfl,
              held filled⟩
          · rename_i other
            exact (h.compiled n r drafted).frame frame other
        · rw [Roster.contains_insert_iff]
          rcases List.mem_append.mp member with earlier | last
          · exact Or.inr (h.written played earlier w named)
          · rw [List.mem_singleton.mp last] at named
            exact Or.inl (List.mem_singleton.mp named)
      · obtain ⟨f, device', failed, frame⟩ := sampleEnsemble_error compiles
          (accepting.frame h.frame) (waveformName s e number)
        refine Or.inr ⟨f, device', Action.bind_of_error failed, h.stepFrame.trans ?_⟩
        refine frame.mono fun n own => ⟨step, number, e, listed, found, own⟩

/-! ## 3. All steps -/

/-- A sequence is compiled as a whole, with its program written last, or at most waveforms of its
steps changed. -/
theorem sampleSequence_outcome (s : Sequence α) (ensembles : Roster (Ensemble α))
    (blocks : Roster (Block α)) (least : 1 ≤ c.limits.samples.least)
    (accepting : device.Accepting) :
    (∃ draft drafted device',
      c.sampleSequence s ensembles blocks device =
        .ok (joinRecords c.settings draft.sampled.values,
          draft.sampled.entries.filter fun (name, _) => ensembles.contains name) device' ∧
      Drafted c s ensembles blocks device draft drafted ∧
      device'.limits = drafted.limits ∧ device'.refuseAfter = drafted.refuseAfter ∧
      device'.waveforms = drafted.waveforms ∧
      device'.programs = drafted.programs.insert s.name draft.steps) ∨
    ∃ f device', c.sampleSequence s ensembles blocks device = .error f device' ∧
      Frame (StepWaveform s ensembles) device device' := by
  unfold sampleSequence
  cases checked : c.checkSequence s ensembles blocks with
  | error f => exact Or.inr ⟨f, device, Action.bind_of_error (Action.lift_error f device),
      Frame.refl _ _⟩
  | ok _ =>
    have start : Drafted c s ensembles blocks device ⟨∅, 0, []⟩ device :=
      ⟨Frame.refl _ _, fun n r found => (by cases found), fun _ member =>
        absurd member List.not_mem_nil⟩
    have steps := Action.foldlM_outcome (c.addStep s ensembles blocks)
      (fun numbered listed draft middle h => addStep_outcome least accepting h listed) start
    rw [Action.bind_of_ok (Action.lift_ok _ device)]
    rcases steps with ⟨draft, drafted, done, h⟩ | ⟨f, device', failed, frame⟩
    · left
      obtain ⟨device', wrote, limits, refuseAfter, waveforms, programs⟩ :=
        MemoryPulser.writeSequence_ok (accepting.frame h.frame) s.name draft.steps
          fun step member w named => by
            obtain ⟨r, found⟩ := Roster.contains_iff.mp (h.written step member w named)
            obtain ⟨waveform, held, -⟩ := (h.compiled w r found).held least
            exact Roster.contains_iff.mpr ⟨waveform, held⟩
      refine ⟨draft, drafted, device', ?_, h, limits, refuseAfter, waveforms, programs⟩
      rw [Action.bind_of_ok done]
      exact Action.bind_of_ok wrote
    · exact Or.inr ⟨f, device', Action.bind_of_error failed, frame⟩

end Steps

/-! ## 4. Names of records -/

section Names

variable {δ : Type} [Pulser α δ] {c : Compiler α} {s : Sequence α}
  {ensembles : Roster (Ensemble α)} {blocks : Roster (Block α)} {device device' : δ}

/-- What a step does: it plays its waveform, which is there already or is compiled now. -/
theorem addStep_ok {draft draft' : Draft α} {step : Step} {number : Nat}
    (done : c.addStep s ensembles blocks draft (step, number) device = .ok draft' device') :
    ∃ e, ensembles.get? step.ensemble = some e ∧
      let name := waveformName s e number
      (draft.sampled.contains name = true ∧ device' = device ∧
        draft' = ⟨draft.sampled, draft.offset, draft.steps ++ [⟨[name], step⟩]⟩) ∨
      (draft.sampled.contains name = false ∧ ∃ offset r,
        c.sampleEnsemble (framed s e) blocks name draft.offset device =
          .ok (offset, r) device' ∧
        draft' = ⟨draft.sampled.insert name r, offset, draft.steps ++ [⟨[name], step⟩]⟩) := by
  unfold addStep at done
  obtain ⟨e, looked, added⟩ := Action.lift_bind_ok_iff.mp done
  have found : ensembles.get? step.ensemble = some e := elim_eq_ok.mp looked
  refine ⟨e, found, ?_⟩
  by_cases there : draft.sampled.contains (waveformName s e number) = true
  · simp only [there, if_true] at added
    cases added
    exact Or.inl ⟨there, rfl, rfl⟩
  · simp only [there] at added
    obtain ⟨⟨offset, r⟩, behind, compiled, same⟩ := Action.bind_ok_iff.mp added
    cases same
    exact Or.inr ⟨Bool.eq_false_iff.mpr there, offset, r, compiled, rfl⟩

/-- A step drafts a record for its own waveform, if there is none yet. -/
theorem addStep_names {draft draft' : Draft α} {numbered : Step × Nat}
    (done : c.addStep s ensembles blocks draft numbered device = .ok draft' device') (n : String) :
    draft'.sampled.contains n = true ↔ draft.sampled.contains n = true ∨
      ∃ e, ensembles.get? numbered.1.ensemble = some e ∧ n = waveformName s e numbered.2 := by
  obtain ⟨step, number⟩ := numbered
  obtain ⟨e, known, ⟨there, -, rfl⟩ | ⟨-, offset, r, -, rfl⟩⟩ := addStep_ok done
  · simp only [known, Option.some.injEq, exists_eq_left']
    exact ⟨Or.inl, fun h => h.elim id fun same => same ▸ there⟩
  · simp only [known, Option.some.injEq, exists_eq_left']
    rw [Roster.contains_insert_iff, or_comm]

theorem foldlM_addStep_names {items : List (Step × Nat)} {draft draft' : Draft α}
    (done : items.foldlM (c.addStep s ensembles blocks) draft device = .ok draft' device')
    (n : String) :
    draft'.sampled.contains n = true ↔ draft.sampled.contains n = true ∨
      ∃ numbered ∈ items, ∃ e, ensembles.get? numbered.1.ensemble = some e ∧
        n = waveformName s e numbered.2 := by
  induction items generalizing draft device with
  | nil =>
    cases done
    simp
  | cons numbered rest ih =>
    rw [List.foldlM_cons] at done
    obtain ⟨between, middle, first, others⟩ := Action.bind_ok_iff.mp done
    rw [ih others, addStep_names first, List.exists_mem_cons_iff, or_assoc]

/-- What it takes to compile a sequence. -/
theorem sampleSequence_ok {record : Record α} {records : List (String × Record α)}
    (done : c.sampleSequence s ensembles blocks device = .ok (record, records) device') :
    ∃ draft drafted steps, c.checkSequence s ensembles blocks = .ok ⟨⟩ ∧
      s.steps.zipIdx.foldlM (c.addStep s ensembles blocks) ⟨∅, 0, []⟩ device =
        .ok draft drafted ∧
      (Pulser.writeSequence s.name draft.steps : Action α δ Nat) drafted = .ok steps device' ∧
      record = joinRecords c.settings draft.sampled.values ∧
      records = (draft.sampled.filter fun n _ => ensembles.contains n).entries := by
  obtain ⟨_, checked, compiled⟩ := Action.lift_bind_ok_iff.mp done
  obtain ⟨draft, drafted, added, rest⟩ := Action.bind_ok_iff.mp compiled
  obtain ⟨steps, written, wrote, same⟩ := Action.bind_ok_iff.mp rest
  cases same
  exact ⟨draft, drafted, steps, checked, added, wrote, rfl, rfl⟩

/-- The records that are handed back carry the names of waveforms of steps. -/
theorem sampleSequence_names {result : Record α × List (String × Record α)}
    (done : c.sampleSequence s ensembles blocks device = .ok result device') :
    ∃ sampled : Roster (Record α),
      result.2 = (sampled.filter fun n _ => ensembles.contains n).entries ∧
      ∀ n, sampled.contains n = true ↔ StepWaveform s ensembles n := by
  obtain ⟨draft, _, _, _, drafted, _, _, handed⟩ := sampleSequence_ok done
  refine ⟨draft.sampled, handed, fun n => ?_⟩
  rw [foldlM_addStep_names drafted]
  constructor
  · rintro (none | ⟨⟨step, number⟩, listed, e, found, named⟩)
    · cases none
    · exact ⟨step, number, e, listed, found, named⟩
  · rintro ⟨step, number, e, listed, found, named⟩
    exact Or.inr ⟨(step, number), listed, e, found, named⟩

end Names

end PulseBench.Compiler
