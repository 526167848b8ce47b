import PulseBench.Proofs.Compile.Calls
import PulseBench.Proofs.Compile.Leftover
import PulseBench.Proofs.Compile.Sequenced

/-!
# Checked before writing

A sequence is checked in several loops before its first waveform is written, and
much of that is checked again while every single ensemble is compiled. `Flaw`
lists what the first checks look for, at whatever step it stands. A flaw is found
without a call of the device. Without one the later checks pass, too, although
they are made of a copy of the ensemble in the frame of the sequence; what is
left to go wrong is a `Setback`: the device fails or miscounts, or a shape can
not be evaluated.

Results:
1. `checkSequence_eq_ok`: the checks pass exactly if there is no flaw.
2. `chunkOf_eq_error`: a chunk that can not be made has a bin with a `ShapeFault`.
3. `sampleEnsemble_eq_error`: an accepted ensemble fails with a `WriteFault`.
4. `sampleSequence_checked_first`: both cases for a whole sequence.
-/

namespace PulseBench.Compiler

variable {α δ : Type}

open Action (Moves after_of_ok)

/-! ## 1. What is checked -/

/-- A reason to refuse a sequence, found in any of its steps. -/
inductive Flaw [Scalar α] (c : Compiler α) (s : Sequence α) (ensembles : Roster (Ensemble α))
    (blocks : Roster (Block α)) : Prop
  | noSequencer (absent : c.limits.sequencer = .absent)
  | tooManySteps (long : c.limits.maxSteps < s.steps.length)
  | option {step : Step} {option : String} (listed : step ∈ s.steps)
      (used : option ∈ step.usedOptions)
      (unsupported : c.limits.stepOptions.contains option = false)
  | jump {step : Step} {target : Nat} (listed : step ∈ s.steps)
      (jumps : step.goTo = some target ∨ step.eventJumpTo = some target)
      (outside : s.steps.length ≤ target)
  | unknown {step : Step} (listed : step ∈ s.steps)
      (missing : ensembles.get? step.ensemble = none)
  | analysis {step : Step} {e : Ensemble α} {f : Failure α} (listed : step ∈ s.steps)
      (found : ensembles.get? step.ensemble = some e)
      (refused : e.analyse blocks c.settings.rate = .error f)
  | validation {step : Step} {e : Ensemble α} {a : Analysis α} {f : Failure α}
      (listed : step ∈ s.steps) (found : ensembles.get? step.ensemble = some e)
      (analysed : e.analyse blocks c.settings.rate = .ok a)
      (refused : c.validate step.ensemble a = .error f)

theorem mem_jumps_iff {step : Step} {target : Nat} :
    target ∈ step.jumps ↔ step.goTo = some target ∨ step.eventJumpTo = some target := by
  rw [Step.jumps, List.mem_append, Option.mem_toList, Option.mem_toList]

/-- The steps of a sequence fit the sequencer. -/
theorem checkSteps_eq_ok {c : Compiler α} {s : Sequence α} :
    c.checkSteps s = .ok ⟨⟩ ↔
      c.limits.sequencer ≠ .absent ∧ s.steps.length ≤ c.limits.maxSteps ∧
        ∀ step ∈ s.steps,
          (∀ option ∈ step.usedOptions, c.limits.stepOptions.contains option = true) ∧
            ∀ target ∈ step.jumps, target < s.steps.length := by
  unfold checkSteps
  by_cases absent : c.limits.sequencer = .absent
  · rw [if_pos absent]
    exact iff_of_false nofun fun fine => fine.1 absent
  by_cases long : c.limits.maxSteps < s.steps.length
  · rw [if_neg absent, if_pos long]
    exact iff_of_false nofun fun fine => Nat.not_lt.mpr fine.2.1 long
  rw [if_neg absent, if_neg long]
  change (s.steps.forM _ : Except (Failure α) Unit) = .ok ⟨⟩ ↔ _
  rw [forM_eq_ok]
  simp only [ne_eq, absent, not_false_eq_true, Nat.le_of_not_lt long, true_and]
  refine forall₂_congr fun step _ => ?_
  cases options : step.usedOptions.find? fun option => !c.limits.stepOptions.contains option with
  | some option =>
    refine iff_of_false nofun fun fine => ?_
    have unsupported := List.find?_some options
    rw [fine.1 option (List.mem_of_find?_eq_some options)] at unsupported
    cases unsupported
  | none =>
    have supported : ∀ option ∈ step.usedOptions, c.limits.stepOptions.contains option = true := by
      simpa using List.find?_eq_none.mp options
    cases jumps : step.jumps.find? fun target => decide (s.steps.length ≤ target) with
    | some target =>
      refine iff_of_false nofun fun fine => ?_
      have outside : s.steps.length ≤ target := by simpa using List.find?_some jumps
      exact Nat.not_lt.mpr outside (fine.2 target (List.mem_of_find?_eq_some jumps))
    | none =>
      have inside : ∀ target ∈ step.jumps, target < s.steps.length := by
        simpa using List.find?_eq_none.mp jumps
      exact iff_of_true rfl ⟨supported, inside⟩

section Checks

variable [Scalar α] {c : Compiler α} {s : Sequence α} {ensembles : Roster (Ensemble α)}
  {blocks : Roster (Block α)}

/-- The ensemble of a step is known, and it is accepted by analysis and validation. -/
def Accepts (c : Compiler α) (ensembles : Roster (Ensemble α)) (blocks : Roster (Block α))
    (name : String) : Prop :=
  ∃ e a, ensembles.get? name = some e ∧ e.analyse blocks c.settings.rate = .ok a ∧
    c.validate name a = .ok ⟨⟩

theorem checkEnsemble_eq_ok {name : String} :
    (do
      let e ← findEnsemble ensembles name
      let a ← e.analyse blocks c.settings.rate
      c.validate name a : Except (Failure α) Unit) = .ok ⟨⟩ ↔
      c.Accepts ensembles blocks name := by
  simp only [bind_eq_ok, findEnsemble, elim_eq_ok, Accepts]
  constructor
  · rintro ⟨e, found, a, rest⟩
    exact ⟨e, a, found, rest⟩
  · rintro ⟨e, a, found, rest⟩
    exact ⟨e, found, a, rest⟩

theorem Accepts.of_flawless (flawless : ¬ c.Flaw s ensembles blocks) {step : Step}
    (listed : step ∈ s.steps) : c.Accepts ensembles blocks step.ensemble := by
  cases found : ensembles.get? step.ensemble with
  | none => exact absurd (.unknown listed found) flawless
  | some e =>
    cases analysed : e.analyse blocks c.settings.rate with
    | error f => exact absurd (.analysis listed found analysed) flawless
    | ok a =>
      cases valid : c.validate step.ensemble a with
      | error f => exact absurd (.validation listed found analysed valid) flawless
      | ok _ => exact ⟨e, a, found, analysed, valid⟩

/-- The checks hold the steps against the sequencer, and then every ensemble against the rest. -/
theorem checkSequence_iff_accepts :
    c.checkSequence s ensembles blocks = .ok ⟨⟩ ↔
      c.checkSteps s = .ok ⟨⟩ ∧ ∀ step ∈ s.steps, c.Accepts ensembles blocks step.ensemble := by
  unfold checkSequence
  rw [bind_eq_ok, forM_eq_ok]
  simp only [checkEnsemble_eq_ok, mem_ensembleNames_iff]
  constructor
  · rintro ⟨_, steps, each⟩
    exact ⟨steps, fun step listed => each _ ⟨step, listed, rfl⟩⟩
  · rintro ⟨steps, each⟩
    refine ⟨⟨⟩, steps, ?_⟩
    rintro _ ⟨step, listed, rfl⟩
    exact each step listed

/-- The checks look for all flaws and for nothing else. -/
theorem checkSequence_eq_ok :
    c.checkSequence s ensembles blocks = .ok ⟨⟩ ↔ ¬ c.Flaw s ensembles blocks := by
  rw [checkSequence_iff_accepts, checkSteps_eq_ok]
  constructor
  · rintro ⟨⟨present, short, steps⟩, accepted⟩ flaw
    cases flaw with
    | noSequencer absent => exact present absent
    | tooManySteps long => exact Nat.not_lt.mpr short long
    | option listed used unsupported =>
      rw [(steps _ listed).1 _ used] at unsupported
      cases unsupported
    | jump listed jumps outside =>
      exact Nat.not_lt.mpr outside ((steps _ listed).2 _ (mem_jumps_iff.mpr jumps))
    | unknown listed missing =>
      obtain ⟨e, a, found, -⟩ := accepted _ listed
      rw [missing] at found
      cases found
    | analysis listed found refused =>
      obtain ⟨e, a, known, analysed, -⟩ := accepted _ listed
      cases found.symm.trans known
      rw [refused] at analysed
      cases analysed
    | validation listed found analysed refused =>
      obtain ⟨e, a, known, own, valid⟩ := accepted _ listed
      cases found.symm.trans known
      cases analysed.symm.trans own
      rw [refused] at valid
      cases valid
  · intro flawless
    refine ⟨⟨fun absent => flawless (.noSequencer absent),
      Nat.le_of_not_lt fun long => flawless (.tooManySteps long), fun step listed =>
        ⟨fun option used => ?_, fun target jumps => ?_⟩⟩,
      fun step listed => .of_flawless flawless listed⟩
    · by_contra unsupported
      exact flawless (.option listed used (Bool.eq_false_iff.mpr unsupported))
    · by_contra outside
      exact flawless (.jump listed (mem_jumps_iff.mp jumps) (Nat.le_of_not_lt outside))

/-- Who asks only matters to the texts of failures. -/
theorem validate_congr {user : String} {a : Analysis α} (h : c.validate user a = .ok ⟨⟩)
    (other : String) : c.validate other a = .ok ⟨⟩ := by
  unfold validate at h ⊢
  simp only [bind, Except.bind, pure, Except.pure, throw, throwThe, MonadExceptOf.throw] at h ⊢
  split at h
  · split at h
    · cases h
    · split at h
      · split at h
        · cases h
        · split at h
          · cases h
          · split at h
            · cases h
            · -- All checks passed, and they are the same for the other user.
              simp [*]
      · cases h
  · cases h

end Checks

/-! ## 2. What a shape can do wrong -/

section Shapes

variable [Analytic α]

/-- Why a bin has no sample on an analog channel: there is no shape or one of an unknown kind, its
parameters do not fit their declaration or its rule, or its voltage is beyond the amplitude. -/
inductive ShapeFault (c : Compiler α) (b : Bin α) (channel : String) : Failure α → Prop
  | missing (none : b.element.shapes.get? channel = none) :
      ShapeFault c b channel (.program (.noShape channel))
  | unknown {shape : Shape α} (shaped : b.element.shapes.get? channel = some shape)
      (unregistered : c.functions.methods.get? shape.kind = none) :
      ShapeFault c b channel (.unknown c.functions.kind shape.kind)
  | parameter {shape : Shape α} {m : Method α (ShapeRule α)} {f : Failure α}
      (shaped : b.element.shapes.get? channel = some shape)
      (registered : c.functions.methods.get? shape.kind = some m)
      (refused : m.schema.resolve shape.params = .error f) : ShapeFault c b channel f
  | rule {shape : Shape α} {m : Method α (ShapeRule α)} {params : ParamSet α} {f : Failure α}
      (shaped : b.element.shapes.get? channel = some shape)
      (registered : c.functions.methods.get? shape.kind = some m)
      (resolved : m.schema.resolve shape.params = .ok params)
      (refused : m.rule params b.span = .error f) : ShapeFault c b channel f
  | overdriven {shape : Shape α} {voltage : α → α} {amplitude : α}
      (shaped : b.element.shapes.get? channel = some shape)
      (evaluated : shape.voltage c.functions b.span = .ok voltage)
      (set : amplitude = (c.settings.amplitudes.get? channel).getD 1.0)
      (beyond : fullScale < Scalar.abs (voltage b.time / amplitude) ∨
        Scalar.isFinite (voltage b.time / amplitude) = false) :
      ShapeFault c b channel (.program (.overdriven shape channel (voltage b.time) amplitude))

variable {c : Compiler α} {a : Analysis α} {written : Nat} {group : List (Piece α)}
  {f : Failure α}

theorem normalise_eq_error {shape : Shape α} {channel : String} {amplitude voltage : α}
    (h : normalise shape channel amplitude voltage = .error f) :
    (fullScale < Scalar.abs (voltage / amplitude) ∨
      Scalar.isFinite (voltage / amplitude) = false) ∧
    f = .program (.overdriven shape channel voltage amplitude) := by
  simp only [normalise] at h
  split at h
  · rename_i beyond
    cases h
    exact ⟨by simpa using beyond, rfl⟩
  · cases h

/-- A bin has no sample for one of the reasons that are known. -/
theorem ShapeFault.of_analogAt {b : Bin α} {channel : String}
    (h : c.analogAt channel b = .error f) : c.ShapeFault b channel f := by
  unfold analogAt at h
  cases shaped : b.element.shapes.get? channel with
  | none =>
    rw [shaped] at h
    cases h
    exact .missing shaped
  | some shape =>
    rw [shaped] at h
    change (shape.voltage c.functions b.span >>= _) = _ at h
    rcases bind_eq_error.mp h with refused | ⟨voltage, evaluated, level⟩
    · unfold Shape.voltage Registry.find at refused
      cases registered : c.functions.methods.get? shape.kind with
      | none =>
        rw [registered] at refused
        cases refused
        exact .unknown shaped registered
      | some m =>
        rw [registered] at refused
        change (m.schema.resolve shape.params >>= _) = _ at refused
        rcases bind_eq_error.mp refused with bad | ⟨params, resolved, bad⟩
        · exact .parameter shaped registered bad
        · exact .rule shaped registered resolved bad
    · obtain ⟨beyond, rfl⟩ := normalise_eq_error level
      exact .overdriven shaped evaluated rfl beyond

/-- A chunk that can not be made has a bin without a sample. -/
theorem chunkOf_eq_error (nonempty : ∀ p ∈ group, 0 < p.size)
    (h : c.chunkOf a written group = .error f) :
    ∃ b ∈ c.groupBins group, ∃ channel ∈ a.analog.names, c.ShapeFault b channel f := by
  rcases bind_eq_error.mp h with failed | ⟨parts, -, made⟩
  · obtain ⟨p, member, part⟩ := mapM_eq_error failed
    obtain ⟨channel, inUse, entry⟩ := mapM_eq_error part
    rcases bind_eq_error.mp entry with samples | ⟨values, -, made⟩
    · rw [analogSamples_eq c (nonempty p member)] at samples
      obtain ⟨b, inPiece, refused⟩ := mapM_eq_error samples
      exact ⟨b, List.mem_flatMap.mpr ⟨p, member, inPiece⟩, channel, inUse,
        ShapeFault.of_analogAt refused⟩
    · cases made
  · cases made

end Shapes

/-! ## 3. What a device can do wrong -/

/-- The states that a device can be in, from `first` on, while waveforms and programs are
written. -/
inductive Reaches (α : Type) {δ : Type} [Pulser α δ] (first : δ) : δ → Prop
  | start : Reaches α first first
  | wrote {device : δ} (before : Reaches α first device) (name : String) (chunk : Chunk α) :
      Reaches α first ((Pulser.writeWaveform name chunk : Action α δ Nat).after device)
  | deleted {device : δ} (before : Reaches α first device) (name : String) :
      Reaches α first ((Pulser.deleteWaveform name : Action α δ (List String)).after device)
  | programmed {device : δ} (before : Reaches α first device) (name : String)
      (steps : List ProgramStep) :
      Reaches α first ((Pulser.writeSequence name steps : Action α δ Nat).after device)

variable [Pulser α δ]

theorem Reaches.trans {first middle last : δ} (h : Reaches α first middle)
    (next : Reaches α middle last) : Reaches α first last := by
  induction next with
  | start => exact h
  | wrote _ name chunk ih => exact ih.wrote name chunk
  | deleted _ name ih => exact ih.deleted name
  | programmed _ name steps ih => exact ih.programmed name steps

/-- Compiling stays within the states that it reaches by its calls. -/
theorem Writing.reaches : Writing (α := α) (Reaches α (δ := δ)) where
  refl _ := .start
  trans _ _ _ := .trans
  writeWaveform name chunk _ := .wrote .start name chunk
  deleteWaveform name _ := .deleted .start name
  writeSequence name steps _ := .programmed .start name steps

variable [Analytic α]

/-- What can go wrong while a waveform is written: the device fails or miscounts a chunk, or there
is no sample for one of the bins. -/
inductive WriteFault (c : Compiler α) (a : Analysis α) (name : String) (bins : List (Bin α))
    (first : δ) : Failure α → Prop
  | refused {device behind : δ} {chunk : Chunk α} {written : Nat} {group : List (Piece α)}
      {f : Failure α} (reached : Reaches α first device)
      (part : ∀ b ∈ c.groupBins group, b ∈ bins) (made : c.chunkOf a written group = .ok chunk)
      (failed : (Pulser.writeWaveform name chunk : Action α δ Nat) device = .error f behind) :
      WriteFault c a name bins first f
  | miscounted {device behind : δ} {chunk : Chunk α} {written reported : Nat}
      {group : List (Piece α)} (reached : Reaches α first device)
      (part : ∀ b ∈ c.groupBins group, b ∈ bins) (made : c.chunkOf a written group = .ok chunk)
      (wrote : (Pulser.writeWaveform name chunk : Action α δ Nat) device = .ok reported behind)
      (wrong : reported ≠ groupSize group) :
      WriteFault c a name bins first (.device (.shortWrite name reported (groupSize group)))
  | unevaluated {b : Bin α} {channel : String} {f : Failure α} (listed : b ∈ bins)
      (inUse : channel ∈ a.analog.names) (fault : c.ShapeFault b channel f) :
      WriteFault c a name bins first f

section Chunks

variable {c : Compiler α} {a : Analysis α} {name : String} {written : Nat} {f : Failure α}
  {group : List (Piece α)} {groups : List (List (Piece α))} {bins : List (Bin α)}
  {first middle device behind : δ}

/-- What goes wrong later goes wrong in the whole. -/
theorem WriteFault.mono {rest : List (Bin α)} (h : c.WriteFault a name rest middle f)
    (reached : Reaches α first middle) (part : ∀ b ∈ rest, b ∈ bins) :
    c.WriteFault a name bins first f := by
  cases h with
  | refused later own made failed =>
    exact .refused (reached.trans later) (fun b listed => part b (own b listed)) made failed
  | miscounted later own made wrote wrong =>
    exact .miscounted (reached.trans later) (fun b listed => part b (own b listed)) made wrote wrong
  | unevaluated listed inUse fault => exact .unevaluated (part _ listed) inUse fault

theorem writeGroup_eq_error (nonempty : ∀ p ∈ group, 0 < p.size)
    (failed : c.writeGroup name a written group device = .error f behind) :
    c.WriteFault a name (c.groupBins group) device f := by
  unfold writeGroup at failed
  cases made : c.chunkOf a written group with
  | error g =>
    rw [made] at failed
    cases failed
    obtain ⟨b, listed, channel, inUse, fault⟩ := chunkOf_eq_error nonempty made
    exact .unevaluated listed inUse fault
  | ok chunk =>
    rw [made, Action.bind_of_ok (Action.lift_ok _ _)] at failed
    rcases Action.bind_error_iff.mp failed with refused | ⟨reported, after, wrote, wrong⟩
    · exact .refused .start (fun _ listed => listed) made refused
    · by_cases miscounted : reported ≠ groupSize group
      · rw [if_pos miscounted] at wrong
        cases wrong
        exact .miscounted .start (fun _ listed => listed) made wrote miscounted
      · rw [if_neg miscounted] at wrong
        cases wrong

theorem orDiscard_writeGroup_size {size : Nat}
    (done : orDiscard name written (c.writeGroup name a written group) device = .ok size behind) :
    size = groupSize group :=
  (writeGroup_eq_ok (orDiscard_eq_ok.mp done)).1

/-- If the chunks make up the samples then only a chunk can fail, never the total behind them. -/
theorem writeGroups_eq_error (nonempty : ∀ group ∈ groups, ∀ p ∈ group, 0 < p.size)
    (total : written + (groups.flatMap c.groupBins).length = a.samples)
    (failed : c.writeGroups name a written groups device = .error f behind) :
    c.WriteFault a name (groups.flatMap c.groupBins) device f := by
  induction groups generalizing written device with
  | nil =>
    obtain ⟨after, wrong, -⟩ := orDiscard_eq_error failed
    rw [if_neg (not_not_intro (by simpa using total))] at wrong
    cases wrong
  | cons group rest ih =>
    rw [List.flatMap_cons, List.length_append, length_groupBins, ← Nat.add_assoc] at total
    rw [List.flatMap_cons]
    rcases Action.bind_error_iff.mp failed with stopped | ⟨size, middle, done, later⟩
    · obtain ⟨after, refused, -⟩ := orDiscard_eq_error stopped
      refine (writeGroup_eq_error (nonempty group List.mem_cons_self) refused).mono .start ?_
      exact fun b listed => List.mem_append_left _ listed
    · have moves : Moves (Reaches α)
          (orDiscard name written (c.writeGroup name a written group) : Action α δ Nat) :=
        Writing.reaches.orDiscard (Writing.reaches.writeGroup c name a written group)
      have moved := moves device
      rw [after_of_ok done] at moved
      rw [orDiscard_writeGroup_size done] at later
      refine (ih (fun other member => nonempty other (List.mem_cons_of_mem _ member)) total
        later).mono moved ?_
      exact fun b listed => List.mem_append_right _ listed

/-- An accepted ensemble can only fail while it is written. -/
theorem sampleEnsemble_eq_error {e : Ensemble α} {blocks : Roster (Block α)}
    {played : List (Played α)} {offset : Nat} (analysed : e.analyse blocks c.settings.rate = .ok a)
    (valid : c.validate e.name a = .ok ⟨⟩) (plays : e.played blocks = .ok played)
    (failed : c.sampleEnsemble e blocks name offset device = .error f behind) :
    c.WriteFault a name (c.referenceBins e.rotating offset played a.bins) device f := by
  unfold sampleEnsemble at failed
  rw [analysed, Action.bind_of_ok (Action.lift_ok _ _), valid,
    Action.bind_of_ok (Action.lift_ok _ _), plays, Action.bind_of_ok (Action.lift_ok _ _)] at failed
  have total : 0 + ((c.chunks e offset a played).flatMap c.groupBins).length = a.samples := by
    rw [Nat.zero_add, chunks_bins, length_reference offset analysed plays]
  rw [← chunks_bins]
  rcases Action.bind_error_iff.mp failed with stopped | ⟨_, _, _, none⟩
  · exact writeGroups_eq_error (c.chunks_pieces_pos e offset a played) total stopped
  · cases none

end Chunks

/-! ## 4. A whole sequence -/

/-- What can go wrong behind the checks of a sequence: a waveform of one of its steps can not be
written, or the device fails to take the program. -/
inductive Setback (c : Compiler α) (s : Sequence α) (ensembles : Roster (Ensemble α))
    (blocks : Roster (Block α)) (first : δ) : Failure α → Prop
  | waveform {step : Step} {number offset : Nat} {e : Ensemble α} {a : Analysis α}
      {played : List (Played α)} {f : Failure α} (listed : (step, number) ∈ s.steps.zipIdx)
      (found : ensembles.get? step.ensemble = some e)
      (analysed : e.analyse blocks c.settings.rate = .ok a) (plays : e.played blocks = .ok played)
      (fault : c.WriteFault a (waveformName s e number)
        (c.referenceBins s.rotating offset played a.bins) first f) :
      Setback c s ensembles blocks first f
  | program {device behind : δ} {steps : List ProgramStep} {f : Failure α}
      (reached : Reaches α first device)
      (failed : (Pulser.writeSequence s.name steps : Action α δ Nat) device = .error f behind) :
      Setback c s ensembles blocks first f

section Compilation

variable {c : Compiler α} {s : Sequence α} {ensembles : Roster (Ensemble α)}
  {blocks : Roster (Block α)} {first device behind : δ} {f : Failure α}

theorem Setback.earlier (h : c.Setback s ensembles blocks device f)
    (reached : Reaches α first device) : c.Setback s ensembles blocks first f := by
  cases h with
  | waveform listed found analysed plays fault =>
    exact .waveform listed found analysed plays (fault.mono reached fun _ member => member)
  | program later failed => exact .program (reached.trans later) failed

/-- Without a flaw, a step can only fail while its waveform is written. The ensemble is compiled in
the frame of the sequence, which none of the checks looks at. -/
theorem addStep_eq_error (flawless : ¬ c.Flaw s ensembles blocks) {draft : Draft α}
    {numbered : Step × Nat} (listed : numbered ∈ s.steps.zipIdx)
    (failed : c.addStep s ensembles blocks draft numbered device = .error f behind) :
    c.Setback s ensembles blocks device f := by
  obtain ⟨step, number⟩ := numbered
  have member : step ∈ s.steps := List.fst_mem_of_mem_zipIdx listed
  obtain ⟨e, a, found, analysed, valid⟩ := Accepts.of_flawless flawless member
  obtain ⟨played, known⟩ := Ensemble.analyse_eq_ok analysed
  have looked : findEnsemble ensembles step.ensemble = .ok e := elim_eq_ok.mpr found
  unfold addStep at failed
  simp only [looked] at failed
  rw [Action.bind_of_ok (Action.lift_ok _ _)] at failed
  by_cases there : draft.sampled.contains (waveformName s e number) = true
  · simp only [there, if_true] at failed
    cases failed
  · simp only [there] at failed
    rcases Action.bind_error_iff.mp failed with stopped | ⟨_, _, _, none⟩
    · have framedValid : c.validate (framed s e).name a = .ok ⟨⟩ := validate_congr valid _
      have framedAnalysed : (framed s e).analyse blocks c.settings.rate = .ok a := analysed
      have framedPlays : (framed s e).played blocks = .ok played := known.plays
      exact .waveform listed found analysed known.plays
        (sampleEnsemble_eq_error framedAnalysed framedValid framedPlays stopped)
    · cases none

theorem sampleSequence_eq_error (flawless : ¬ c.Flaw s ensembles blocks)
    (failed : c.sampleSequence s ensembles blocks device = .error f behind) :
    c.Setback s ensembles blocks device f := by
  unfold sampleSequence at failed
  rw [checkSequence_eq_ok.mpr flawless, Action.bind_of_ok (Action.lift_ok _ _)] at failed
  have steps (draft : Draft α) (numbered : Step × Nat) :=
    Writing.reaches (α := α) (δ := δ) |>.addStep c s ensembles blocks draft numbered
  rcases Action.bind_error_iff.mp failed with stopped | ⟨draft, drafted, done, rest⟩
  · obtain ⟨numbered, listed, draft, middle, reached, refused⟩ :=
      Action.foldlM_eq_error Writing.reaches.refl Writing.reaches.trans steps stopped
    exact (addStep_eq_error flawless listed refused).earlier reached
  · have reached := Moves.foldlM Writing.reaches.refl Writing.reaches.trans steps s.steps.zipIdx
      ⟨∅, 0, []⟩ device
    rw [after_of_ok done] at reached
    rcases Action.bind_error_iff.mp rest with refused | ⟨_, _, _, none⟩
    · exact .program reached refused
    · cases none

end Compilation

omit [Pulser α δ] in
/-- A sequence is checked completely before the device is touched. If any of its steps has a flaw
then compiling it fails, in the same way on every device, and makes no call: whatever a device is,
and be it one that records all of its calls, its state is the one before. Otherwise compiling can
only fail because the device does, because it miscounts a chunk, or because a shape can not be
evaluated. -/
theorem sampleSequence_checked_first (c : Compiler α) (s : Sequence α)
    (ensembles : Roster (Ensemble α)) (blocks : Roster (Block α)) :
    (c.Flaw s ensembles blocks →
      ∃ f, ∀ (δ : Type) [Pulser α δ] (device : δ),
        c.sampleSequence s ensembles blocks device = .error f device) ∧
    (¬ c.Flaw s ensembles blocks →
      ∀ (δ : Type) [Pulser α δ] (device behind : δ) (f : Failure α),
        c.sampleSequence s ensembles blocks device = .error f behind →
        c.Setback s ensembles blocks device f) := by
  constructor
  · intro flaw
    cases checked : c.checkSequence s ensembles blocks with
    | ok _ => exact absurd flaw (checkSequence_eq_ok.mp checked)
    | error f =>
      refine ⟨f, fun δ _ device => ?_⟩
      unfold sampleSequence
      rw [checked]
      exact Action.bind_of_error (Action.lift_error f device)
  · exact fun flawless δ _ device behind f failed => sampleSequence_eq_error flawless failed

/-! A sequence whose last step plays an unknown ensemble, and one that a device miscounts. -/

def steadyLost : Sequence ℚ :=
  ⟨"lost", [.plain "steady" (.finite 1), .plain "lost" (.finite 1)], true, none, none⟩

/-- The first is refused on every device; the second is written until its second chunk. -/
theorem sampleSequence_checked_first_steady :
    steadyCompiler.Flaw steadyLost steadyEnsembles steadyBlocks ∧
    (∃ f, ∀ (δ : Type) [Pulser ℚ δ] (device : δ),
      steadyCompiler.sampleSequence steadyLost steadyEnsembles steadyBlocks device =
        .error f device) ∧
    ¬ steadyCompiler.Flaw steadyTwice steadyEnsembles steadyBlocks ∧
    ∃ f behind, steadyCompiler.sampleSequence steadyTwice steadyEnsembles steadyBlocks
        (shortDevice 2) = .error f behind ∧ behind.inner.writes = 2 ∧
      steadyCompiler.Setback steadyTwice steadyEnsembles steadyBlocks (shortDevice 2) f := by
  have lost : steadyCompiler.Flaw steadyLost steadyEnsembles steadyBlocks :=
    .unknown (List.mem_cons_of_mem _ List.mem_cons_self) rfl
  have flawless : ¬ steadyCompiler.Flaw steadyTwice steadyEnsembles steadyBlocks := by
    rw [← checkSequence_eq_ok]
    have passed : (match steadyCompiler.checkSequence steadyTwice steadyEnsembles steadyBlocks with
      | .ok _ => true
      | .error _ => false) = true := by decide +kernel
    cases checked : steadyCompiler.checkSequence steadyTwice steadyEnsembles steadyBlocks with
    | ok _ => rfl
    | error f => rw [checked] at passed; cases passed
  have ran : (match steadyCompiler.sampleSequence steadyTwice steadyEnsembles steadyBlocks
      (shortDevice 2) with
    | .ok _ _ => none
    | .error _ behind => some behind.inner.writes) = some 2 := by decide +kernel
  refine ⟨lost, (sampleSequence_checked_first _ _ _ _).1 lost, flawless, ?_⟩
  cases failed : steadyCompiler.sampleSequence steadyTwice steadyEnsembles steadyBlocks
      (shortDevice 2) with
  | ok _ _ => rw [failed] at ran; cases ran
  | error f behind =>
    rw [failed] at ran
    exact ⟨f, behind, rfl, Option.some.inj ran,
      (sampleSequence_checked_first _ _ _ _).2 flawless _ _ _ _ failed⟩

end PulseBench.Compiler
