import PulseBench.Proofs.Compile.Sequenced
import PulseBench.Proofs.Generator.Run

/-!
# Whether waveforms are compiled from the present versions

The waveform of a sampled ensemble should be what the present version of the
ensemble compiles to, in its own frame and from bin zero (`Faithful`). Compiling
an ensemble makes it so, and what is harmless keeps it so. Compiling a sequence
compiles its ensembles in the frame of the sequence instead, and hands records
back by the names of waveforms. The two agree exactly if every ensemble with the
name of such a waveform, and with a record, is faithful afterwards; which is the
case for ensembles and sequences without a rotating frame, and where no ensemble
is named like a numbered waveform.

Results:
1. `Compiler.compiled?_congr`: what an ensemble compiles to depends on its own
   blocks only.
2. `sampleEnsemble_faithful`: compiling an ensemble makes it faithful.
3. `RecordsFaithful.after_iff`: one operation.
4. `agrees_of_plain`, `agrees_of_apart`: sequences that do no harm.
5. `recordsFaithful_iff_agrees`: a run, from the start.
6. `not_recordsFaithful_of_numbered_name`: a run that mixes two ensembles up.
-/

namespace PulseBench

variable {α : Type} [Analytic α]

/-! ## 1. Compiling on its own -/

namespace Compiler

/-- The waveform that an ensemble is compiled to from bin zero, on a fresh device. -/
def compiled? (c : Compiler α) (e : Ensemble α) (blocks : Roster (Block α)) :
    Option (Waveform α) :=
  match c.sampleEnsemble e blocks e.name 0 (MemoryPulser.fresh c.limits) with
  | .ok _ device => device.waveforms.get? e.name
  | .error _ _ => none

variable {c c' : Compiler α} {e : Ensemble α} {blocks other : Roster (Block α)}

theorem compiled?_of_compiles (least : 1 ≤ c.limits.samples.least) {a : Analysis α}
    {played : List (Played α)} (h : c.Compiles e blocks 0 a played) :
    c.compiled? e blocks = some (c.reference e 0 a played) :=
  compiledFrom?_of_compiles least h

/-- Compiling gives the reference waveform, whatever the size of a chunk. -/
theorem compiled?_eq_some_iff (least : 1 ≤ c.limits.samples.least) {w : Waveform α} :
    c.compiled? e blocks = some w ↔
      ∃ a played, c.Compiles e blocks 0 a played ∧ c.reference e 0 a played = w := by
  constructor
  · intro compiled
    by_cases compiles : ∃ a played, c.Compiles e blocks 0 a played
    · obtain ⟨a, played, h⟩ := compiles
      rw [compiled?_of_compiles least h] at compiled
      exact ⟨a, played, h, Option.some.inj compiled⟩
    · have accepting : (MemoryPulser.fresh c.limits).Accepting := rfl
      obtain ⟨f, device, failed, -⟩ := sampleEnsemble_error compiles accepting e.name
      rw [compiled?, failed] at compiled
      cases compiled
  · rintro ⟨a, played, h, rfl⟩
    exact compiled?_of_compiles least h

theorem Compiles.congr {offset : Nat} {a : Analysis α} {played : List (Played α)}
    (functions : c'.functions = c.functions) (settings : c'.settings = c.settings)
    (limits : c'.limits = c.limits)
    (same : ∀ play ∈ e.plays, other.get? play.1 = blocks.get? play.1)
    (h : c.Compiles e blocks offset a played) :
    c'.Compiles e other offset a played ∧
      c'.reference e offset a played = c.reference e offset a played := by
  obtain ⟨_, _, _, chunk⟩ := c'
  cases functions
  cases settings
  cases limits
  refine ⟨⟨?_, h.valid, ?_, h.evaluates, h.channels⟩, rfl⟩
  · rw [Ensemble.analyse_congr same]
    exact h.analysed
  · rw [Ensemble.played_congr same]
    exact h.plays

/-- What an ensemble compiles to depends on its own blocks only, and not on the chunks. -/
theorem compiled?_congr (functions : c'.functions = c.functions)
    (settings : c'.settings = c.settings) (limits : c'.limits = c.limits)
    (same : ∀ play ∈ e.plays, other.get? play.1 = blocks.get? play.1)
    (least : 1 ≤ c.limits.samples.least) {w : Waveform α}
    (h : c.compiled? e blocks = some w) : c'.compiled? e other = some w := by
  obtain ⟨a, played, compiles, rfl⟩ := (compiled?_eq_some_iff least).mp h
  obtain ⟨again, reference⟩ := compiles.congr functions settings limits same
  rw [← reference]
  exact compiled?_of_compiles (by rw [limits]; exact least) again

/-- Without a rotating frame it does not matter where a program starts. -/
theorem Compiles.of_plain (plain : e.rotating = false) {offset : Nat} {a : Analysis α}
    {played : List (Played α)} (h : c.Compiles e blocks offset a played) :
    c.Compiles e blocks 0 a played ∧
      c.reference e 0 a played = c.reference e offset a played := by
  have bins : c.referenceBins e.rotating 0 played a.bins =
      c.referenceBins e.rotating offset played a.bins := by
    rw [plain]
    rfl
  constructor
  · exact ⟨h.analysed, h.valid, h.plays, by rw [bins]; exact h.evaluates, h.channels⟩
  · rw [reference, reference, bins]

end Compiler

namespace Generator

/-! ## 2. Faithful waveforms -/

/-- The blocks of an ensemble are known. -/
def Knows {δ : Type} (g : Generator α δ) (e : Ensemble α) : Prop :=
  ∀ play ∈ e.plays, g.blocks.contains play.1 = true

/-- The compiler for the settings of a record. -/
def compilerFor {δ : Type} (g : Generator α δ) (r : Record α) : Compiler α :=
  { g.compiler with settings := r.settings }

/-- The device holds what a recorded ensemble compiles to, in its own frame, from bin zero, with
the present blocks, and under the recorded settings. -/
def Faithful (g : Generator α (MemoryPulser α)) (e : Ensemble α) (r : Record α) : Prop :=
  ∃ w, g.device.waveforms.get? e.name = some w ∧
    (g.compilerFor r).compiled? e g.blocks = some w

/-- Every recorded ensemble is faithful, as far as its blocks are known. -/
def RecordsFaithful (g : Generator α (MemoryPulser α)) : Prop :=
  ∀ n e r, g.ensembles.get? n = some e → e.record = some r → g.Knows e → g.Faithful e r

theorem recordsFaithful_of_empty {g : Generator α (MemoryPulser α)}
    (ensembles : g.ensembles = ∅) : g.RecordsFaithful := by
  intro n e r found
  rw [ensembles] at found
  cases found

/-- What is harmless also keeps waveforms faithful: blocks are the same, or not known any more. -/
theorem RecordsFaithful.keeps {a b : Generator α (MemoryPulser α)} (h : a.RecordsFaithful)
    (memory : a.InMemory) (keeps : Keeps a b) : b.RecordsFaithful := by
  intro n e r found carried knows
  obtain ⟨original, waveforms, blocks⟩ := keeps.ensemble n e r found carried
  have same : ∀ play ∈ e.plays, b.blocks.get? play.1 = a.blocks.get? play.1 := by
    intro play member
    -- A block that is known afterwards is not gone.
    rcases blocks play member with same | gone
    · exact same
    · have there := knows play member
      rw [Roster.contains, gone] at there
      cases there
  have known : a.Knows e := by
    intro play member
    rw [Roster.contains, ← same play member]
    exact knows play member
  obtain ⟨w, there, compiled⟩ := h n e r original carried known
  have settings : (b.compilerFor r).settings = (a.compilerFor r).settings := rfl
  have again : (b.compilerFor r).compiled? e b.blocks = some w :=
    Compiler.compiled?_congr keeps.functions settings keeps.limits same memory.least compiled
  refine ⟨w, ?_, again⟩
  rw [← there]
  refine waveforms e.name ?_
  rw [memory.ensemble_waveform n e r original carried, memory.ensemble_named n e original]
  exact List.mem_singleton_self n

/-- Besides what is written, everything stays faithful. -/
theorem RecordsFaithful.of_rewrites {written : String → Prop}
    {a b : Generator α (MemoryPulser α)} (h : a.RecordsFaithful) (memory : a.InMemory)
    (rewrites : Rewrites written a b)
    (agrees : ∀ n e r, written n → b.ensembles.get? n = some e → e.record = some r →
      b.Knows e → b.Faithful e r) : b.RecordsFaithful := by
  intro n e r found carried knows
  by_cases touched : written n
  · exact agrees n e r touched found carried knows
  · rcases rewrites.ensemble n e r found carried with old | ⟨fresh, -, -⟩
    · have blocks : b.blocks = a.blocks := by rw [rewrites.rest]
      have compiler : b.compilerFor r = a.compilerFor r := by
        rw [rewrites.rest]
        rfl
      obtain ⟨w, there, compiled⟩ := h n e r old carried fun play member => by
        rw [← blocks]
        exact knows play member
      refine ⟨w, ?_, by rw [compiler, blocks]; exact compiled⟩
      rw [← there, memory.ensemble_named n e old]
      exact rewrites.waveforms n touched
    · exact absurd fresh touched

variable {g : Generator α (MemoryPulser α)}

/-- An ensemble that was just compiled is faithful. -/
theorem sampleEnsemble_faithful (memory : g.InMemory) {name : String} {e : Ensemble α}
    {r : Record α}
    (found : ((Operation.sampleEnsemble name).after g).ensembles.get? name = some e)
    (carried : e.record = some r) : ((Operation.sampleEnsemble name).after g).Faithful e r := by
  rcases sampleEnsemble_outcome memory name with
    ⟨unknown, f, failed⟩ | ⟨own, cleared, listed, forgets, ⟨f, device, failed, frame⟩ |
      ⟨a, played, device, compiles, done, -, -, held, -, -⟩⟩
  · have same : (Operation.sampleEnsemble name).after g = g :=
      Action.after_of_error (Action.bind_of_error failed)
    rw [same, unknown] at found
    cases found
  · have behind : (Operation.sampleEnsemble name).after g = { cleared with device } :=
      Action.after_of_error (Action.bind_of_error failed)
    rw [behind] at found
    exact absurd rfl (forgets.ensemble_of_record found carried).1
  · have behind : (Operation.sampleEnsemble name).after g = { cleared with
        device
        ensembles := cleared.ensembles.insert name
          (own.carrying (g.compiler.recordOf a name)) } :=
      Action.after_of_ok (Action.bind_of_ok done)
    rw [behind] at found ⊢
    change (cleared.ensembles.insert name _).get? name = some e at found
    rw [Roster.get?_insert_self] at found
    cases found
    cases carried
    have named : own.name = name := memory.ensemble_named name own listed
    refine ⟨g.compiler.reference own 0 a played, ?_, ?_⟩
    · change device.waveforms.get? own.name = _
      rw [named]
      exact held
    · have recompiled := Compiler.compiled?_of_compiles memory.least compiles
      change ({ cleared.compiler with settings := g.settings } : Compiler α).compiled?
        (own.carrying _) cleared.blocks = _
      rw [forgets.compiler, forgets.blocks]
      exact recompiled

/-! ## 3. Sequences -/

/-- Behind the compilation of a sequence, every recorded ensemble that is called like the waveform
of one of its steps is faithful, as far as its blocks are known. -/
def StepsAgree (g : Generator α (MemoryPulser α)) (name : String) : Prop :=
  ∀ n e r, (Operation.sampleSequence name).Writes g n →
    ((Operation.sampleSequence name).after g).ensembles.get? n = some e → e.record = some r →
    ((Operation.sampleSequence name).after g).Knows e →
    ((Operation.sampleSequence name).after g).Faithful e r

/-- Where no ensemble is called like the waveform of a step, nothing is mixed up. This is how a
sequence in a rotating frame should be. -/
theorem stepsAgree_of_apart (memory : g.InMemory) {name : String}
    (apart : ∀ n, (Operation.sampleSequence name).Writes g n → g.ensembles.get? n = none) :
    g.StepsAgree name := by
  intro n e r writes found
  obtain ⟨own, listed, -⟩ := (sampleSequence_rewrites memory name).ensemble_forget n e found
  rw [apart n writes] at listed
  cases listed

omit [Analytic α] in
/-- Without a rotating frame the steps are compiled into the waveforms of their ensembles. -/
theorem waveformName_of_plain {s : Sequence α} {ensembles : Roster (Ensemble α)}
    (named : ∀ n e, ensembles.get? n = some e → e.name = n) (plain : s.rotating = false)
    {n : String} {e : Ensemble α} (found : ensembles.get? n = some e) (number : Nat) :
    Compiler.waveformName s e number = n := by
  rw [Compiler.waveformName, plain, named n e found]
  rfl

omit [Analytic α] in
theorem stepWaveform_of_plain {s : Sequence α} {ensembles : Roster (Ensemble α)}
    (named : ∀ n e, ensembles.get? n = some e → e.name = n) (plain : s.rotating = false)
    {n : String} (h : Compiler.StepWaveform s ensembles n) : n ∈ s.ensembleNames := by
  obtain ⟨step, number, e, listed, found, rfl⟩ := h
  rw [waveformName_of_plain named plain found, Compiler.mem_ensembleNames_iff]
  exact ⟨step, List.mem_of_getElem? (List.mk_mem_zipIdx_iff_getElem?.mp listed), rfl⟩

/-- A step without a rotating frame holds what its ensemble compiles to, if that has none
either. -/
theorem compiled?_of_plain_step {c : Compiler α} {s : Sequence α}
    {ensembles : Roster (Ensemble α)} {blocks : Roster (Block α)} {device : MemoryPulser α}
    {n : String} {e : Ensemble α} {r : Record α}
    (h : Compiler.StepCompiled c s ensembles blocks device n r)
    (least : 1 ≤ c.limits.samples.least)
    (named : ∀ n e, ensembles.get? n = some e → e.name = n) (plain : s.rotating = false)
    (found : ensembles.get? n = some e) (own : e.rotating = false) :
    r.settings = c.settings ∧
      ∃ w, device.waveforms.get? n = some w ∧ c.compiled? e blocks = some w := by
  obtain ⟨step, number, played, offset, a, elements, -, known, name, compiles, rfl, held⟩ := h
  -- The waveform of the step is called like its ensemble, and the frames are the same.
  rw [waveformName_of_plain named plain known] at name
  rw [← name, found] at known
  cases known
  have unframed : Compiler.framed s e = e := by
    rw [Compiler.framed, plain, ← own]
  rw [unframed] at compiles held
  obtain ⟨fromZero, reference⟩ := compiles.of_plain own
  exact ⟨rfl, _, held, by rw [← reference]; exact Compiler.compiled?_of_compiles least fromZero⟩

/-- A sequence without a rotating frame leaves faithful ensembles behind, if they have none
either. -/
theorem stepsAgree_of_plain (memory : g.InMemory) {name : String} {s : Sequence α}
    (found : g.sequences.get? name = some s) (plain : s.rotating = false)
    (ensembles : ∀ n ∈ s.ensembleNames, ∀ e, g.ensembles.get? n = some e → e.rotating = false) :
    g.StepsAgree name := by
  intro n e r writes listed carried _
  obtain ⟨own, same, step⟩ := writes
  rw [found] at same
  cases same
  have played := stepWaveform_of_plain memory.ensemble_named plain step
  rcases sampleSequence_outcome memory name with
    ⟨unknown, -⟩ | ⟨own, cleared, same, forgets, ⟨f, device, failed, -⟩ |
      ⟨draft, after, done, h⟩⟩
  · rw [found] at unknown
    cases unknown
  · -- The ensembles that are played have lost their records.
    have behind : (Operation.sampleSequence name).after g = { cleared with device } :=
      Action.after_of_error (Action.bind_of_error failed)
    rw [found] at same
    cases same
    rw [behind] at listed
    exact absurd played (forgets.ensemble_of_record listed carried).1
  · have behind : (Operation.sampleSequence name).after g = after :=
      Action.after_of_ok (Action.bind_of_ok done)
    rw [found] at same
    cases same
    rw [behind] at listed ⊢
    rw [h.ensembles] at listed
    obtain ⟨drafted, drawn, waveforms⟩ := h.compiled
    cases sampled : draft.sampled.get? n with
    | none =>
      rw [sampled] at listed
      exact absurd played (forgets.ensemble_of_record listed carried).1
    | some recorded =>
      rw [sampled] at listed
      obtain ⟨bare, there, rfl⟩ := Option.map_eq_some_iff.mp listed
      cases carried
      have sameName := (memory.forgets forgets).ensemble_named
      have still : bare.rotating = false := by
        obtain ⟨before, original, same⟩ := forgets.ensemble_forget there
        have frame : before.forget.rotating = bare.forget.rotating := by rw [same]
        exact frame.symm.trans (ensembles n played before original)
      obtain ⟨settings, w, held, compiled⟩ := compiled?_of_plain_step
        (drawn.compiled n r sampled) memory.least sameName plain there still
      have compiler : after.compilerFor r = g.compiler := by
        rw [h.rest]
        change ({ cleared.compiler with settings := r.settings } : Compiler α) = _
        rw [forgets.compiler, settings]
      have blocks : after.blocks = g.blocks := by rw [h.rest, forgets.blocks]
      refine ⟨w, ?_, ?_⟩
      · rw [waveforms, show (bare.carrying r).name = n from sameName n bare there]
        exact held
      · rw [compiler, blocks]
        exact compiled

/-! ## 4. Runs -/

/-- Faithful ensembles stay faithful exactly if those that are called like a waveform of a compiled
sequence do. -/
theorem RecordsFaithful.after_iff (op : Operation α) (memory : g.InMemory)
    (h : g.RecordsFaithful) :
    (op.after g).RecordsFaithful ↔ ∀ name, op = .sampleSequence name → g.StepsAgree name := by
  constructor
  · rintro behind name rfl n e r - found carried knows
    exact behind n e r found carried knows
  · intro agree
    by_cases compiles : op.Compiles
    · refine h.of_rewrites memory (Operation.rewrites memory compiles) ?_
      intro n e r writes found carried knows
      cases op with
      | sampleEnsemble name =>
        cases writes
        exact sampleEnsemble_faithful memory found carried
      | sampleSequence name => exact agree name rfl n e r writes found carried knows
      | _ => exact compiles.elim
    · exact h.keeps memory (op.harmless compiles g memory).2

/-- Which runs keep all waveforms faithful. From the start of a generator without storage, on a
device that refuses nothing and takes no empty waveform, every recorded ensemble whose blocks are
known is faithful throughout a run exactly if the steps of every sequence agree with the ensembles
that are called like their waveforms, whenever the sequence is compiled. -/
theorem recordsFaithful_iff_stepsAgree {options : GeneratorOptions α} {device : MemoryPulser α}
    (memory : options.store = none) (accepting : device.Accepting)
    (least : 1 ≤ device.limits.samples.least) (started : start options device = .ok g)
    (ops : List (Operation α)) :
    (∀ k, (afterAll (ops.take k) g).RecordsFaithful) ↔
      ∀ (k : Nat) (name : String), ops[k]? = some (.sampleSequence name) →
        (afterAll (ops.take k) g).StepsAgree name := by
  obtain ⟨inMemory, ensembles, -⟩ := start_ok memory accepting least started
  rw [throughout_iff (fun op _ memory faithful => faithful.after_iff op memory) inMemory
    (recordsFaithful_of_empty ensembles)]
  constructor
  · intro agree k name next
    exact agree k _ next name rfl
  · rintro agree k op next name rfl
    exact agree k name next

/-- The sequence and the ensembles it plays have no rotating frame, or no ensemble is called like
the waveform of a step. -/
def Unmixed (g : Generator α (MemoryPulser α)) (name : String) : Prop :=
  (∃ s, g.sequences.get? name = some s ∧ s.rotating = false ∧
    ∀ n ∈ s.ensembleNames, ∀ e, g.ensembles.get? n = some e → e.rotating = false) ∨
  ∀ n, (Operation.sampleSequence name).Writes g n → g.ensembles.get? n = none

theorem Unmixed.stepsAgree (memory : g.InMemory) {name : String} (h : g.Unmixed name) :
    g.StepsAgree name := by
  rcases h with ⟨s, found, plain, ensembles⟩ | apart
  · exact stepsAgree_of_plain memory found plain ensembles
  · exact stepsAgree_of_apart memory apart

/-- If frames are not mixed and names are kept apart then all waveforms stay faithful. -/
theorem recordsFaithful_of_unmixed (memory : g.InMemory) (start : g.RecordsFaithful)
    (ops : List (Operation α))
    (unmixed : ∀ (k : Nat) (name : String), ops[k]? = some (.sampleSequence name) →
      (afterAll (ops.take k) g).Unmixed name) (k : Nat) :
    (afterAll (ops.take k) g).RecordsFaithful := by
  refine (throughout_iff (fun op _ memory faithful => faithful.after_iff op memory) memory start
    ops).mpr ?_ k
  rintro k op next name rfl
  exact (unmixed k name next).stepsAgree (afterAll_inMemory memory _)

/-! An ensemble that is called like the first waveform of another one. -/

/-- Two ensembles at different voltages, and a sequence in a rotating frame that plays the first.
Its waveform is called like the second. -/
def mixed : List (Operation ℚ) :=
  [.saveBlock (level "low" (1 / 4)), .saveBlock (level "high" (1 / 2)),
    .saveEnsemble (playing "x" "low"), .saveEnsemble (playing "x_0" "high"),
    .saveSequence (stepping "turning" "x" true), .sampleSequence "turning"]

/-- The voltage with which a waveform begins. -/
def firstVoltage (w : Waveform ℚ) : Option ℚ := (w.analog.get? "a_ch1").bind List.head?

/-- A sequence without a rotating frame. -/
theorem recordsFaithful_of_first_sequence :
    (MemoryPulser.fresh benchLimits).Accepting ∧ 1 ≤ benchLimits.samples.least ∧
    ∃ g, start .default (MemoryPulser.fresh benchLimits) = .ok g ∧
      (∀ k, (afterAll (sharedOnce.take k) g).RecordsFaithful) ∧
      ((afterAll sharedOnce g).ensembles.get? "pulse").any Ensemble.isSampled = true := by
  have accepting : (MemoryPulser.fresh benchLimits).Accepting := rfl
  have least : 1 ≤ benchLimits.samples.least := Nat.le_refl 1
  refine ⟨accepting, least, ?_⟩
  have ran : (match start .default (MemoryPulser.fresh benchLimits) with
    | .ok g =>
      (((afterAll shared g).sequences.get? "first").map (·.rotating),
        (afterAll shared g).ensembles.values.all (fun e => !e.rotating),
        ((afterAll sharedOnce g).ensembles.get? "pulse").any Ensemble.isSampled)
    | .error _ => (none, false, false)) = (some false, true, true) := by decide +kernel
  cases started : start .default (MemoryPulser.fresh benchLimits) with
  | error f => rw [started] at ran; cases ran
  | ok g =>
    rw [started] at ran
    simp only [Prod.mk.injEq] at ran
    obtain ⟨sequence, ensembles, sampled⟩ := ran
    obtain ⟨s, found, plain⟩ := Option.map_eq_some_iff.mp sequence
    rw [List.all_eq_true] at ensembles
    refine ⟨g, rfl, (recordsFaithful_iff_stepsAgree rfl accepting least started _).mpr ?_, sampled⟩
    intro k name next
    rcases k with _ | _ | _ | _ | _ | k
    · cases next
    · cases next
    · cases next
    · cases next
    · cases next
      refine stepsAgree_of_plain (afterAll_inMemory (start_ok rfl accepting least started).1 _)
        found plain fun n _ e listed => ?_
      simpa using ensembles e (Roster.mem_values_iff.mpr ⟨n, listed⟩)
    · cases next

/-- Compiling the sequence gives the second ensemble the record of the first one's waveform. -/
theorem not_recordsFaithful_of_numbered_name :
    (MemoryPulser.fresh benchLimits).Accepting ∧ 1 ≤ benchLimits.samples.least ∧
    ∃ g, start .default (MemoryPulser.fresh benchLimits) = .ok g ∧
      ¬ (afterAll mixed g).RecordsFaithful := by
  refine ⟨rfl, Nat.le_refl 1, ?_⟩
  have ran : (match start .default (MemoryPulser.fresh benchLimits) with
    | .ok g =>
      let behind := afterAll mixed g
      (behind.ensembles.get? "x_0").bind fun e => e.record.map fun r =>
        (e.plays.all fun play => behind.blocks.contains play.1,
          (behind.device.waveforms.get? e.name).bind firstVoltage,
          ((behind.compilerFor r).compiled? e behind.blocks).bind firstVoltage)
    | .error _ => none) = some (true, some (1 / 4), some (1 / 2)) := by decide +kernel
  cases started : start .default (MemoryPulser.fresh benchLimits) with
  | error f => rw [started] at ran; cases ran
  | ok g =>
    rw [started] at ran
    refine ⟨g, rfl, fun faithful => ?_⟩
    obtain ⟨e, found, recorded⟩ := Option.bind_eq_some_iff.mp ran
    obtain ⟨r, carried, facts⟩ := Option.map_eq_some_iff.mp recorded
    simp only [Prod.mk.injEq, List.all_eq_true] at facts
    obtain ⟨knows, onDevice, compiled⟩ := facts
    obtain ⟨w, held, same⟩ := faithful "x_0" e r found carried fun play member =>
      knows play member
    rw [held] at onDevice
    rw [same, onDevice] at compiled
    exact absurd (Option.some.inj compiled) (by norm_num)

end Generator

end PulseBench
