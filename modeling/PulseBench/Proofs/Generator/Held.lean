import PulseBench.Proofs.Generator.Run

/-!
# Whether records describe what the device holds

A record should describe the waveforms and the program on the device
(`RecordsHeld`). Programs are never lost (`ProgramsHeld`), and waveforms stay as
recorded under all operations but one kind: compiling drops the record of the
compiled object and those of the objects it goes by name for, but other objects
may have been compiled into the same waveforms. Two sequences that play one
ensemble share its waveform, and a sequence in a rotating frame numbers its
waveforms, so that an ensemble of such a name shares one with it.

An operation `Spares` the records if those that stay although one of their
waveforms is written are still right. That is exactly what it takes.

Results:
1. `ProgramsHeld.after`, `RecordsHeld.after_iff`: one operation.
2. `Operation.spares_of_apart`: nothing is at risk where no waveform is shared.
3. `recordsHeld_iff_spares`: a run, from the start.
4. `not_recordsHeld_of_shared_waveform`: a run that leaves a wrong record behind.
-/

namespace PulseBench.Generator

variable {α : Type}

/-! ## 1. One operation -/

/-- The program of every sampled sequence is on the device. -/
def ProgramsHeld (g : Generator α (MemoryPulser α)) : Prop :=
  ∀ n s r, g.sequences.get? n = some s → s.record = some r →
    g.device.programs.contains n = true

/-- Every record describes what the device holds. -/
structure RecordsHeld (g : Generator α (MemoryPulser α)) : Prop where
  ensemble : ∀ n e r, g.ensembles.get? n = some e → e.record = some r → g.device.Holds r
  sequence : ∀ n s r, g.sequences.get? n = some s → s.record = some r → g.device.Holds r
  program : g.ProgramsHeld

/-- Where there are no objects there is nothing to describe. -/
theorem recordsHeld_of_empty {g : Generator α (MemoryPulser α)} (ensembles : g.ensembles = ∅)
    (sequences : g.sequences = ∅) : g.RecordsHeld where
  ensemble n e r found _ := by
    rw [ensembles] at found
    cases found
  sequence n s r found _ := by
    rw [sequences] at found
    cases found
  program n s r found _ := by
    rw [sequences] at found
    cases found

theorem RecordsHeld.keeps {a b : Generator α (MemoryPulser α)} (h : a.RecordsHeld)
    (keeps : Keeps a b) (program : b.ProgramsHeld) : b.RecordsHeld where
  ensemble n e r found carried := by
    obtain ⟨original, waveforms, -⟩ := keeps.ensemble n e r found carried
    exact (h.ensemble n e r original carried).congr waveforms
  sequence n s r found carried := by
    obtain ⟨original, waveforms, -⟩ := keeps.sequence n s r found carried
    exact (h.sequence n s r original carried).congr waveforms
  program := program

variable [Analytic α] {g : Generator α (MemoryPulser α)}

/-- No operation loses the program of a sequence without its record. -/
theorem ProgramsHeld.after (op : Operation α) (memory : g.InMemory) (h : g.ProgramsHeld) :
    (op.after g).ProgramsHeld := by
  intro n s r found carried
  by_cases compiles : op.Compiles
  · have rewrites := Operation.rewrites memory compiles
    rcases rewrites.sequence n s r found carried with old | ⟨-, there⟩
    · exact rewrites.programs n (h n s r old carried)
    · exact there
  · obtain ⟨original, -, program⟩ :=
      (op.harmless compiles g memory).2.sequence n s r found carried
    rw [Roster.contains, program]
    exact h n s r original carried

/-- A record that stays although the operation writes one of its waveforms is still right. -/
structure Operation.Spares (op : Operation α) (g : Generator α (MemoryPulser α)) : Prop where
  ensemble : ∀ n e r, g.ensembles.get? n = some e → (op.after g).ensembles.get? n = some e →
    e.record = some r → (∃ w ∈ r.waveforms, op.Writes g w) → (op.after g).device.Holds r
  sequence : ∀ n s r, g.sequences.get? n = some s → (op.after g).sequences.get? n = some s →
    s.record = some r → (∃ w ∈ r.waveforms, op.Writes g w) → (op.after g).device.Holds r

theorem RecordsHeld.of_spares (h : g.RecordsHeld) {op : Operation α}
    (rewrites : Rewrites (op.Writes g) g (op.after g)) (spares : op.Spares g)
    (program : (op.after g).ProgramsHeld) : (op.after g).RecordsHeld where
  ensemble n e r found carried := by
    rcases rewrites.ensemble n e r found carried with old | ⟨-, -, right⟩
    · -- The record stayed, so it was right before.
      exact (h.ensemble n e r old carried).of_spared rewrites.waveforms
        (spares.ensemble n e r old found carried)
    · exact right
  sequence n s r found carried := by
    rcases rewrites.sequence n s r found carried with old | ⟨right, -⟩
    · exact (h.sequence n s r old carried).of_spared rewrites.waveforms
        (spares.sequence n s r old found carried)
    · exact right
  program := program

/-- Right records stay right exactly if those that share a waveform with what is compiled do. -/
theorem RecordsHeld.after_iff (op : Operation α) (memory : g.InMemory) (h : g.RecordsHeld) :
    (op.after g).RecordsHeld ↔ op.Spares g := by
  constructor
  · intro behind
    exact ⟨fun n e r _ found carried _ => behind.ensemble n e r found carried,
      fun n s r _ found carried _ => behind.sequence n s r found carried⟩
  · intro spares
    have program := h.program.after op memory
    by_cases compiles : op.Compiles
    · exact h.of_spares (Operation.rewrites memory compiles) spares program
    · exact h.keeps (op.harmless compiles g memory).2 program

/-- Where no other object was compiled into a waveform that is written, all is well. -/
theorem Operation.spares_of_apart {op : Operation α}
    (ensembles : ∀ n e r, g.ensembles.get? n = some e →
      (op.after g).ensembles.get? n = some e → e.record = some r → ∀ w ∈ r.waveforms,
        ¬ op.Writes g w)
    (sequences : ∀ n s r, g.sequences.get? n = some s →
      (op.after g).sequences.get? n = some s → s.record = some r → ∀ w ∈ r.waveforms,
        ¬ op.Writes g w) : op.Spares g :=
  ⟨fun n e r old found carried ⟨w, named, writes⟩ =>
      absurd writes (ensembles n e r old found carried w named),
    fun n s r old found carried ⟨w, named, writes⟩ =>
      absurd writes (sequences n s r old found carried w named)⟩

/-- Only operations that compile write waveforms. -/
theorem Operation.spares_of_not_compiles {op : Operation α} (compilesNot : ¬ op.Compiles)
    (g : Generator α (MemoryPulser α)) : op.Spares g := by
  have idle (w : String) : ¬ op.Writes g w := by
    intro writes
    cases op with
    | sampleEnsemble name => exact compilesNot trivial
    | sampleSequence name => exact compilesNot trivial
    | _ => exact writes
  exact Operation.spares_of_apart (fun _ _ _ _ _ _ w _ => idle w) fun _ _ _ _ _ _ w _ => idle w

/-! ## 2. Runs -/

/-- Which runs keep all records right. From the start of a generator without storage, on a device
that refuses nothing and takes no empty waveform, the program of every sampled sequence is on the
device throughout every run. Every record describes what the device holds throughout a run exactly
if every operation of the run spares the records that share a waveform with what it compiles. -/
theorem recordsHeld_iff_spares {options : GeneratorOptions α} {device : MemoryPulser α}
    (memory : options.store = none) (accepting : device.Accepting)
    (least : 1 ≤ device.limits.samples.least) (started : start options device = .ok g)
    (ops : List (Operation α)) :
    (∀ k, (afterAll (ops.take k) g).ProgramsHeld) ∧
    ((∀ k, (afterAll (ops.take k) g).RecordsHeld) ↔
      ∀ (k : Nat) (op : Operation α), ops[k]? = some op →
        op.Spares (afterAll (ops.take k) g)) := by
  obtain ⟨inMemory, ensembles, sequences⟩ := start_ok memory accepting least started
  have empty := recordsHeld_of_empty ensembles sequences
  constructor
  · exact throughout_of_each (fun op _ memory held => held.after op memory) inMemory
      empty.program ops
  · exact throughout_iff (fun op _ memory held => held.after_iff op memory) inMemory empty ops

/-- Where nothing was compiled yet there is nothing to spare. -/
theorem Operation.spares_of_unsampled {op : Operation α}
    (ensembles : ∀ e ∈ g.ensembles.values, e.record = none)
    (sequences : ∀ s ∈ g.sequences.values, s.record = none) : op.Spares g where
  ensemble n e r found _ carried := by
    rw [ensembles e (Roster.mem_values_iff.mpr ⟨n, found⟩)] at carried
    cases carried
  sequence n s r found _ carried := by
    rw [sequences s (Roster.mem_values_iff.mpr ⟨n, found⟩)] at carried
    cases carried

/-! Two sequences play one ensemble. -/

/-- The second sequence is compiled at five samples per second. -/
def sharedAtTwoRates : List (Operation ℚ) :=
  sharedOnce ++ [.setSettings ⟨none, some 5, none⟩, .sampleSequence "second"]

/-- While only one of the sequences is compiled, all records are right. -/
theorem recordsHeld_of_first_sequence :
    (MemoryPulser.fresh benchLimits).Accepting ∧ 1 ≤ benchLimits.samples.least ∧
    ∃ g, start .default (MemoryPulser.fresh benchLimits) = .ok g ∧
      (∀ k, (afterAll (sharedOnce.take k) g).RecordsHeld) ∧
      ((afterAll sharedOnce g).sequences.get? "first").any Sequence.isSampled = true := by
  have accepting : (MemoryPulser.fresh benchLimits).Accepting := rfl
  have least : 1 ≤ benchLimits.samples.least := Nat.le_refl 1
  refine ⟨accepting, least, ?_⟩
  have ran : (match start .default (MemoryPulser.fresh benchLimits) with
    | .ok g =>
      ((afterAll shared g).ensembles.values.all (fun e => !e.isSampled) &&
        (afterAll shared g).sequences.values.all fun s => !s.isSampled) &&
        ((afterAll sharedOnce g).sequences.get? "first").any Sequence.isSampled
    | .error _ => false) = true := by decide +kernel
  cases started : start .default (MemoryPulser.fresh benchLimits) with
  | error f => rw [started] at ran; cases ran
  | ok g =>
    rw [started] at ran
    obtain ⟨unsampled, sampled⟩ := Bool.and_eq_true_iff.mp ran
    obtain ⟨ensembles, sequences⟩ := Bool.and_eq_true_iff.mp unsampled
    rw [List.all_eq_true] at ensembles sequences
    refine ⟨g, rfl, (recordsHeld_iff_spares rfl accepting least started _).2.mpr ?_, sampled⟩
    intro k op next
    rcases k with _ | _ | _ | _ | _ | k
    · cases next
      exact Operation.spares_of_not_compiles id _
    · cases next
      exact Operation.spares_of_not_compiles id _
    · cases next
      exact Operation.spares_of_not_compiles id _
    · cases next
      exact Operation.spares_of_not_compiles id _
    · cases next
      refine Operation.spares_of_unsampled (fun e member => ?_) fun s member => ?_
      · simpa [Ensemble.isSampled] using ensembles e member
      · simpa [Sequence.isSampled] using sequences s member
    · cases next

/-- Compiling the second one shortens the waveform of the first, whose record says that it still
has ten samples. -/
theorem not_recordsHeld_of_shared_waveform :
    (MemoryPulser.fresh benchLimits).Accepting ∧ 1 ≤ benchLimits.samples.least ∧
    ∃ g, start .default (MemoryPulser.fresh benchLimits) = .ok g ∧
      ¬ (afterAll sharedAtTwoRates g).RecordsHeld := by
  refine ⟨rfl, Nat.le_refl 1, ?_⟩
  have ran : (match start .default (MemoryPulser.fresh benchLimits) with
    | .ok g =>
      let behind := afterAll sharedAtTwoRates g
      (behind.sequences.get? "first").bind fun s => s.record.map fun r =>
        ((r.waveforms.map behind.device.samplesOf).sum, r.samples)
    | .error _ => none) = some (5, 10) := by decide +kernel
  cases started : start .default (MemoryPulser.fresh benchLimits) with
  | error f => rw [started] at ran; cases ran
  | ok g =>
    rw [started] at ran
    refine ⟨g, rfl, fun held => ?_⟩
    obtain ⟨s, found, recorded⟩ := Option.bind_eq_some_iff.mp ran
    obtain ⟨r, carried, counted⟩ := Option.map_eq_some_iff.mp recorded
    obtain ⟨samples, own⟩ := Prod.mk.inj counted
    have right := (held.sequence "first" s r found carried).samples
    rw [samples, own] at right
    exact absurd right (by decide)

end PulseBench.Generator
