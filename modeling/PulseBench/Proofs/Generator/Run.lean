import PulseBench.Proofs.Generator.Sampling

/-!
# Runs of a generator

A run is a list of operations, each of which may fail. Those that do not compile
are harmless; those that do write waveforms, and `Rewrites` says what is left of
the records then: one that is still there is the one from before, or it was just
attached and describes what was just written. Nothing is said about a record
that stayed although one of its waveforms was written.

Results:
1. `start_ok`: a generator that was just started is in memory, without objects.
2. `joinRecords_holds`: a joined record is right if its parts are.
3. `Operation.rewrites`, `Operation.inMemory`: one operation.
4. `throughout_iff_of`, `throughout_iff`: from one operation to a run.
-/

namespace PulseBench

variable {α : Type}

namespace Generator

/-! ## 1. The start -/

/-- Without storage a generator starts without objects. -/
theorem start_ok [Analytic α] {options : GeneratorOptions α} {device : MemoryPulser α}
    {g : Generator α (MemoryPulser α)} (memory : options.store = none)
    (accepting : device.Accepting) (least : 1 ≤ device.limits.samples.least)
    (started : start options device = .ok g) :
    g.InMemory ∧ g.ensembles = ∅ ∧ g.sequences = ∅ := by
  obtain ⟨recipes, -, dropped⟩ := start_ok_iff.mp started
  rw [opened, memory] at dropped
  -- There is no object whose record could be dropped.
  cases dropped
  refine ⟨⟨rfl, accepting, least, fun n e found => ?_, fun n s found => ?_,
    fun n e r found _ => ?_⟩, rfl, rfl⟩
  · cases found
  · cases found
  · cases found

end Generator

/-! ## 2. What a record says about the device -/

namespace MemoryPulser

/-- How long the waveform of a name is. -/
def samplesOf (p : MemoryPulser α) (name : String) : Nat :=
  ((p.waveforms.get? name).map Waveform.size).getD 0

/-- The waveforms that a record names are there and complete, and together they are as long as it
says. -/
structure Holds (p : MemoryPulser α) (r : Record α) : Prop where
  complete : ∀ n ∈ r.waveforms, ∃ w, p.waveforms.get? n = some w ∧ w.complete = true
  samples : (r.waveforms.map p.samplesOf).sum = r.samples

variable {p q : MemoryPulser α}

/-- Only the waveforms of the record matter. -/
theorem Holds.congr {r : Record α} (h : p.Holds r)
    (same : ∀ n ∈ r.waveforms, q.waveforms.get? n = p.waveforms.get? n) : q.Holds r where
  complete n named := by
    rw [same n named]
    exact h.complete n named
  samples := by
    rw [← h.samples]
    refine congrArg List.sum (List.map_congr_left fun n named => ?_)
    rw [samplesOf, samplesOf, same n named]

/-- Where waveforms were written, only the records that name one of them are at risk. -/
theorem Holds.of_spared {written : String → Prop} {r : Record α} (h : p.Holds r)
    (others : ∀ n, ¬ written n → q.waveforms.get? n = p.waveforms.get? n)
    (spared : (∃ n ∈ r.waveforms, written n) → q.Holds r) : q.Holds r := by
  by_cases shared : ∃ n ∈ r.waveforms, written n
  · exact spared shared
  · exact h.congr fun n named => others n fun writes => shared ⟨n, named, writes⟩

/-- A record of a single waveform. -/
theorem holds_of_single {r : Record α} {n : String} (named : r.waveforms = [n]) {w : Waveform α}
    (there : p.waveforms.get? n = some w) (complete : w.complete = true)
    (size : w.size = r.samples) : p.Holds r where
  complete other member := by
    rw [named] at member
    rw [List.mem_singleton.mp member]
    exact ⟨w, there, complete⟩
  samples := by
    rw [named, List.map_singleton, List.sum_singleton, samplesOf, there]
    exact size

/-- A joined record is right if every part of it is. -/
theorem joinRecords_holds (settings : PulserSettings α) {records : List (Record α)}
    (each : ∀ r ∈ records, p.Holds r) : p.Holds (Compiler.joinRecords settings records) := by
  obtain ⟨samples, waveforms⟩ := Compiler.joinRecords_eq settings records
  constructor
  · intro n named
    rw [waveforms] at named
    obtain ⟨r, member, own⟩ := List.mem_flatMap.mp named
    exact (each r member).complete n own
  · rw [waveforms, samples]
    clear samples waveforms
    induction records with
    | nil => rfl
    | cons r rest ih =>
      rw [List.flatMap_cons, List.map_append, List.sum_append, List.map_cons, List.sum_cons,
        (each r List.mem_cons_self).samples,
        ih fun other member => each other (List.mem_cons_of_mem _ member)]

end MemoryPulser

namespace Generator

/-! ## 3. Operations that compile -/

/-- Waveforms of some names were written. A record that is there afterwards was there before, or
it describes what was written. -/
structure Rewrites (written : String → Prop) (before after : Generator α (MemoryPulser α)) :
    Prop where
  rest : after = { before with
    device := after.device
    ensembles := after.ensembles
    sequences := after.sequences
    loaded := after.loaded }
  refuseAfter : after.device.refuseAfter = before.device.refuseAfter
  waveforms : ∀ n, ¬ written n →
    after.device.waveforms.get? n = before.device.waveforms.get? n
  programs : ∀ n, before.device.programs.contains n = true →
    after.device.programs.contains n = true
  ensemble_forget : ∀ n e, after.ensembles.get? n = some e →
    ∃ own, before.ensembles.get? n = some own ∧ own.forget = e.forget
  sequence_forget : ∀ n s, after.sequences.get? n = some s →
    ∃ own, before.sequences.get? n = some own ∧ own.forget = s.forget
  ensemble : ∀ n e r, after.ensembles.get? n = some e → e.record = some r →
    before.ensembles.get? n = some e ∨
      written n ∧ r.waveforms = [n] ∧ after.device.Holds r
  sequence : ∀ n s r, after.sequences.get? n = some s → s.record = some r →
    before.sequences.get? n = some s ∨
      after.device.Holds r ∧ after.device.programs.contains n = true

namespace Rewrites

variable {written : String → Prop} {a b : Generator α (MemoryPulser α)}

theorem inMemory (h : Rewrites written a b) (memory : a.InMemory) : b.InMemory where
  store := by
    rw [h.rest]
    exact memory.store
  accepting := h.refuseAfter.trans memory.accepting
  least := by
    rw [h.rest]
    exact memory.least
  ensemble_named n e found := by
    obtain ⟨own, listed, same⟩ := h.ensemble_forget n e found
    exact (congrArg Ensemble.name same).symm.trans (memory.ensemble_named n own listed)
  sequence_named n s found := by
    obtain ⟨own, listed, same⟩ := h.sequence_forget n s found
    exact (congrArg Sequence.name same).symm.trans (memory.sequence_named n own listed)
  ensemble_waveform n e r found carried := by
    rcases h.ensemble n e r found carried with old | ⟨-, named, -⟩
    · exact memory.ensemble_waveform n e r old carried
    · exact named

theorem refl (written : String → Prop) (g : Generator α (MemoryPulser α)) :
    Rewrites written g g where
  rest := rfl
  refuseAfter := rfl
  waveforms _ _ := rfl
  programs _ there := there
  ensemble_forget _ e found := ⟨e, found, rfl⟩
  sequence_forget _ s found := ⟨s, found, rfl⟩
  ensemble _ _ _ found _ := Or.inl found
  sequence _ _ _ found _ := Or.inl found

/-- Compiling failed behind the dropping of records. -/
theorem of_frame {es ss : String → Prop} {g cleared : Generator α (MemoryPulser α)}
    (forgets : Forgets es ss g cleared) {device : MemoryPulser α}
    (frame : MemoryPulser.Frame written g.device device) :
    Rewrites written g { cleared with device } where
  rest := by rw [forgets.rest]
  refuseAfter := frame.refuseAfter
  waveforms := frame.waveforms
  programs n there := by
    rw [frame.programs]
    exact there
  ensemble_forget n e found := forgets.ensemble_forget found
  sequence_forget n s found := forgets.sequence_forget found
  ensemble n e r found carried := Or.inl (forgets.ensemble_of_record found carried).2
  sequence n s r found carried := Or.inl (forgets.sequence_of_record found carried).2

end Rewrites

variable [Analytic α] {g : Generator α (MemoryPulser α)}

theorem sampleEnsemble_rewrites (memory : g.InMemory) (name : String) :
    Rewrites (· = name) g ((Operation.sampleEnsemble name).after g) := by
  rcases sampleEnsemble_outcome memory name with
    ⟨-, f, failed⟩ | ⟨e, cleared, found, forgets, ⟨f, device, failed, frame⟩ |
      ⟨a, played, device, compiles, done, -, refuseAfter, held, others, programs⟩⟩
  · have same : (Operation.sampleEnsemble name).after g = g :=
      Action.after_of_error (Action.bind_of_error failed)
    rw [same]
    exact Rewrites.refl _ g
  · have behind : (Operation.sampleEnsemble name).after g = { cleared with device } :=
      Action.after_of_error (Action.bind_of_error failed)
    rw [behind]
    exact Rewrites.of_frame forgets frame
  · have behind : (Operation.sampleEnsemble name).after g = { cleared with
        device
        ensembles := cleared.ensembles.insert name
          (e.carrying (g.compiler.recordOf a name)) } :=
      Action.after_of_ok (Action.bind_of_ok done)
    rw [behind]
    have filled : 0 < a.samples :=
      Nat.lt_of_lt_of_le memory.least (Compiler.fits_of_validate compiles.valid).atLeast
    refine ⟨by rw [forgets.rest], refuseAfter, others, fun n there => ?_, fun n own listed => ?_,
      fun n s listed => forgets.sequence_forget listed, fun n own r listed carried => ?_,
      fun n s r listed carried => Or.inl (forgets.sequence_of_record listed carried).2⟩
    · change device.programs.contains n = true
      rcases programs with same | inserted
      · rw [same]
        exact there
      · rw [inserted, Roster.contains_insert_iff]
        exact Or.inr there
    · change (cleared.ensembles.insert name _).get? n = some own at listed
      rw [Roster.get?_insert] at listed
      split at listed
      · rename_i here
        cases listed
        exact ⟨e, here ▸ found, rfl⟩
      · exact forgets.ensemble_forget listed
    · change (cleared.ensembles.insert name _).get? n = some own at listed
      rw [Roster.get?_insert] at listed
      split at listed
      · rename_i here
        cases listed
        cases carried
        subst here
        exact Or.inr ⟨rfl, rfl, MemoryPulser.holds_of_single rfl held rfl
          (compiles.size_reference filled)⟩
      · exact Or.inl (forgets.ensemble_of_record listed carried).2

omit [Analytic α] in
/-- Dropping records does not change what the steps of a sequence are compiled into. -/
theorem Forgets.stepWaveform_iff {δ : Type} {es ss : String → Prop} {a b : Generator α δ}
    (h : Forgets es ss a b) {s : Sequence α} {n : String} :
    Compiler.StepWaveform s b.ensembles n ↔ Compiler.StepWaveform s a.ensembles n := by
  constructor
  · rintro ⟨step, number, e, listed, found, named⟩
    obtain ⟨own, before, same⟩ := h.ensemble_forget found
    have sameName : own.forget.name = e.forget.name := congrArg Ensemble.name same
    refine ⟨step, number, own, listed, before, ?_⟩
    rw [named, Compiler.waveformName, Compiler.waveformName,
      show own.name = e.name from sameName]
  · rintro ⟨step, number, e, listed, found, named⟩
    by_cases dropped : es step.ensemble
    · exact ⟨step, number, e.forget, listed,
        by rw [h.dropped_ensemble _ dropped, found]; rfl, named⟩
    · exact ⟨step, number, e, listed, (h.kept_ensemble _ dropped).trans found, named⟩

/-- The waveforms that an operation may write. -/
def Operation.Writes {δ : Type} (op : Operation α) (g : Generator α δ) (n : String) : Prop :=
  match op with
  | .sampleEnsemble name => n = name
  | .sampleSequence name =>
    ∃ s, g.sequences.get? name = some s ∧ Compiler.StepWaveform s g.ensembles n
  | _ => False

section Program

variable {s : Sequence α} {name : String} {draft : Compiler.Draft α}
  {cleared after : Generator α (MemoryPulser α)}

/-- Every drafted record is right. -/
theorem Sequenced.holds (h : Sequenced s name draft g cleared after) (memory : g.InMemory)
    {n : String} {r : Record α} (own : draft.sampled.get? n = some r) :
    Compiler.StepWaveform s cleared.ensembles n ∧ r.waveforms = [n] ∧ after.device.Holds r := by
  obtain ⟨drafted, drawn, waveforms⟩ := h.compiled
  have compiled := drawn.compiled n r own
  obtain ⟨w, there, complete, size⟩ := compiled.held memory.least
  have named : r.waveforms = [n] := by
    obtain ⟨-, -, -, -, -, -, -, -, -, -, rfl, -⟩ := compiled
    rfl
  rw [← waveforms] at there
  exact ⟨compiled.stepWaveform, named,
    MemoryPulser.holds_of_single named there complete size⟩

/-- So is the record of the sequence, to which they are joined. -/
theorem Sequenced.joined_holds (h : Sequenced s name draft g cleared after)
    (memory : g.InMemory) : after.device.Holds (g.joined draft) := by
  refine MemoryPulser.joinRecords_holds _ fun r member => ?_
  obtain ⟨n, own⟩ := Roster.mem_values_iff.mp member
  exact (h.holds memory own).2.2

theorem Sequenced.rewrites (h : Sequenced s name draft g cleared after) (memory : g.InMemory)
    (found : g.sequences.get? name = some s)
    (forgets : Forgets (· ∈ s.ensembleNames) (· = name) g cleared) :
    Rewrites ((Operation.sampleSequence name).Writes g) g after := by
  obtain ⟨drafted, drawn, waveforms⟩ := h.compiled
  constructor
  · rw [h.rest, forgets.rest]
  · exact h.refuseAfter
  · intro n untouched
    rw [waveforms]
    exact drawn.stepFrame.waveforms n fun step =>
      untouched ⟨s, found, forgets.stepWaveform_iff.mp step⟩
  · intro n there
    rw [h.programs, Roster.contains_insert_iff]
    exact Or.inr there
  · intro n e listed
    rw [h.ensembles] at listed
    cases own : draft.sampled.get? n with
    | none =>
      rw [own] at listed
      exact forgets.ensemble_forget listed
    | some r =>
      rw [own] at listed
      obtain ⟨bare, there, rfl⟩ := Option.map_eq_some_iff.mp listed
      obtain ⟨before, known, same⟩ := forgets.ensemble_forget there
      exact ⟨before, known, same⟩
  · intro n own listed
    rw [h.sequences] at listed
    split at listed
    · rename_i here
      cases listed
      exact ⟨s, here ▸ found, rfl⟩
    · exact forgets.sequence_forget listed
  · intro n e r listed carried
    rw [h.ensembles] at listed
    cases own : draft.sampled.get? n with
    | none =>
      rw [own] at listed
      exact Or.inl (forgets.ensemble_of_record listed carried).2
    | some drafted =>
      -- Whatever the ensemble carried before, now it carries the record of the step.
      rw [own] at listed
      obtain ⟨bare, there, rfl⟩ := Option.map_eq_some_iff.mp listed
      cases carried
      obtain ⟨step, named, right⟩ := h.holds memory own
      exact Or.inr ⟨⟨s, found, forgets.stepWaveform_iff.mp step⟩, named, right⟩
  · intro n own r listed carried
    rw [h.sequences] at listed
    split at listed
    · rename_i here
      cases listed
      cases carried
      refine Or.inr ⟨h.joined_holds memory, ?_⟩
      rw [h.programs, here, Roster.contains_insert_iff]
      exact Or.inl rfl
    · exact Or.inl (forgets.sequence_of_record listed carried).2

end Program

theorem sampleSequence_rewrites (memory : g.InMemory) (name : String) :
    Rewrites ((Operation.sampleSequence name).Writes g) g
      ((Operation.sampleSequence name).after g) := by
  rcases sampleSequence_outcome memory name with
    ⟨-, f, failed⟩ | ⟨s, cleared, found, forgets, ⟨f, device, failed, frame⟩ |
      ⟨draft, after, done, h⟩⟩
  · have same : (Operation.sampleSequence name).after g = g :=
      Action.after_of_error (Action.bind_of_error failed)
    rw [same]
    exact Rewrites.refl _ g
  · have behind : (Operation.sampleSequence name).after g = { cleared with device } :=
      Action.after_of_error (Action.bind_of_error failed)
    rw [behind]
    exact Rewrites.of_frame forgets
      (frame.mono fun n step => ⟨s, found, forgets.stepWaveform_iff.mp step⟩)
  · have behind : (Operation.sampleSequence name).after g = after :=
      Action.after_of_ok (Action.bind_of_ok done)
    rw [behind]
    exact h.rewrites memory found forgets

/-- An operation that compiles puts at most the waveforms it writes at risk. -/
theorem Operation.rewrites (memory : g.InMemory) {op : Operation α} (compiles : op.Compiles) :
    Rewrites (op.Writes g) g (op.after g) := by
  cases op with
  | sampleEnsemble name => exact sampleEnsemble_rewrites memory name
  | sampleSequence name => exact sampleSequence_rewrites memory name
  | _ => exact compiles.elim

/-- A generator in memory stays there. -/
theorem Operation.inMemory (memory : g.InMemory) (op : Operation α) : (op.after g).InMemory := by
  by_cases compiles : op.Compiles
  · exact (Operation.rewrites memory compiles).inMemory memory
  · exact (op.harmless compiles g memory).1

/-! ## 4. Runs -/

theorem afterAll_take_succ {ops : List (Operation α)} {k : Nat} {op : Operation α}
    (next : ops[k]? = some op) (g : Generator α (MemoryPulser α)) :
    afterAll (ops.take (k + 1)) g = op.after (afterAll (ops.take k) g) := by
  rw [List.take_add_one, next, afterAll, List.foldl_append]
  rfl

/-- A generator in memory stays there throughout a run. -/
theorem afterAll_inMemory (memory : g.InMemory) (ops : List (Operation α)) :
    (afterAll ops g).InMemory := by
  induction ops generalizing g with
  | nil => exact memory
  | cons op rest ih => exact ih (Operation.inMemory memory op)

/-- A run keeps a property throughout if every operation does. -/
theorem throughout_of_each {P : Generator α (MemoryPulser α) → Prop}
    (each : ∀ (op : Operation α) g, g.InMemory → P g → P (op.after g)) (memory : g.InMemory)
    (start : P g) (ops : List (Operation α)) (k : Nat) : P (afterAll (ops.take k) g) := by
  generalize ops.take k = taken
  induction taken generalizing g with
  | nil => exact start
  | cons op rest ih => exact ih (Operation.inMemory memory op) (each op g memory start)

/-- A run keeps a property throughout exactly if every operation of it is fit to, where an invariant
of all operations may be used. -/
theorem throughout_iff_of {Inv P : Generator α (MemoryPulser α) → Prop}
    {Fit : Operation α → Generator α (MemoryPulser α) → Prop}
    (keeps : ∀ (op : Operation α) g, Inv g → Inv (op.after g))
    (each : ∀ op g, Inv g → P g → (P (op.after g) ↔ Fit op g)) (inv : Inv g)
    (start : P g) (ops : List (Operation α)) :
    (∀ k, P (afterAll (ops.take k) g)) ↔
      ∀ k op, ops[k]? = some op → Fit op (afterAll (ops.take k) g) := by
  have always (ops : List (Operation α)) : Inv (afterAll ops g) :=
    List.foldlRecOn ops _ inv fun g inv op _ => keeps op g inv
  constructor
  · intro throughout k op next
    refine (each op _ (always _) (throughout k)).mp ?_
    rw [← afterAll_take_succ next]
    exact throughout (k + 1)
  · intro fit k
    induction k with
    | zero => exact start
    | succ k ih =>
      cases next : ops[k]? with
      | none => rwa [List.take_add_one, next, Option.toList_none, List.append_nil]
      | some op =>
        rw [afterAll_take_succ next]
        exact (each op _ (always _) ih).mpr (fit k op next)

/-- The same for a generator in memory. -/
theorem throughout_iff {P : Generator α (MemoryPulser α) → Prop}
    {Fit : Operation α → Generator α (MemoryPulser α) → Prop}
    (each : ∀ op g, g.InMemory → P g → (P (op.after g) ↔ Fit op g)) (memory : g.InMemory)
    (start : P g) (ops : List (Operation α)) :
    (∀ k, P (afterAll (ops.take k) g)) ↔
      ∀ k op, ops[k]? = some op → Fit op (afterAll (ops.take k) g) :=
  throughout_iff_of (fun op _ memory => Operation.inMemory memory op) each memory start ops

/-! ## 5. A small bench -/

section Bench

/-- A device with one analog and one digital channel, at one to ten samples per second. -/
def benchLimits : Limits ℚ :=
  ⟨⟨1, 10⟩, ⟨1, 2⟩, ⟨1, 100⟩, 10, Roster.ofList [("all", NameSet.ofList ["a_ch1", "d_ch1"])],
    .available, ∅⟩

/-- A block with a constant voltage for one second. -/
def level (name : String) (voltage : ℚ) : Block ℚ :=
  ⟨name, [⟨1, 0, Roster.ofList [("a_ch1", .constant voltage)], Roster.ofList [("d_ch1", true)],
    false⟩]⟩

/-- An ensemble that plays a block once. -/
def playing (name block : String) : Ensemble ℚ := ⟨name, [(block, 1)], false, none, none⟩

/-- A sequence that plays an ensemble once. -/
def stepping (name ensemble : String) (rotating : Bool) : Sequence ℚ :=
  ⟨name, [Step.plain ensemble (.finite 1)], rotating, none, none⟩

/-- An ensemble and two sequences that play it. -/
def shared : List (Operation ℚ) :=
  [.saveBlock (level "flat" (1 / 2)), .saveEnsemble (playing "pulse" "flat"),
    .saveSequence (stepping "first" "pulse" false),
    .saveSequence (stepping "second" "pulse" false)]

/-- The first sequence is compiled, at ten samples per second. -/
def sharedOnce : List (Operation ℚ) := shared ++ [.sampleSequence "first"]

end Bench

end Generator

end PulseBench
