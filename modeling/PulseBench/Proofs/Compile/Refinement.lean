import PulseBench.Proofs.Compile.Writing
import PulseBench.Proofs.Exact

/-!
# Compiling is the reference

`Compiler.sampleEnsemble` cuts, groups, evaluates and writes; the reference lists
the samples of a program one by one. On a device that refuses nothing, the first
does exactly what the second says, for every size of a chunk.

Results:
1. `referenceBins_getElem?`: which bin of the reference stands where.
2. `sampleEnsemble_ok`, `sampleEnsemble_error`: compiling succeeds exactly if the
   ensemble `Compiles`, and leaves its reference waveform on the device.
3. `sampleEnsemble_refines`: both together, for every single sample.
-/

namespace PulseBench.Compiler

open MemoryPulser (Frame Accepting)

variable {α : Type}

/-! ## 1. Where the bins of the reference stand -/

section Positions

variable [Scalar α]

theorem firstBins_getElem? (start : Nat) (bins : List Nat) (k : Nat) :
    (firstBins start bins)[k]? = bins[k]?.map fun _ => start + (bins.take k).sum := by
  induction bins generalizing start k with
  | nil => rfl
  | cons n rest ih =>
    cases k with
    | zero => rfl
    | succ k =>
      rw [firstBins, List.getElem?_cons_succ, ih, List.getElem?_cons_succ, List.take_succ_cons,
        List.sum_cons, Nat.add_assoc]

theorem length_firstBins (start : Nat) (bins : List Nat) :
    (firstBins start bins).length = bins.length := by
  induction bins generalizing start with
  | nil => rfl
  | cons n rest ih => rw [firstBins, List.length_cons, ih, List.length_cons]

theorem wholePieces_getElem? (c : Compiler α) (rotating : Bool) (offset : Nat)
    {played : List (Played α)} {bins : List Nat} {k : Nat} {p : Played α} {n : Nat}
    (listed : played[k]? = some p) (given : bins[k]? = some n) :
    (c.wholePieces rotating offset played bins)[k]? =
      some (c.wholePiece rotating offset p n (bins.take k).sum) := by
  have first := firstBins_getElem? 0 bins k
  rw [given, Option.map_some, Nat.zero_add] at first
  have placed : ((played.zip bins).zip (firstBins 0 bins))[k]? =
      some ((p, n), (bins.take k).sum) :=
    List.getElem?_zip_eq_some.mpr ⟨List.getElem?_zip_eq_some.mpr ⟨listed, given⟩, first⟩
  rw [wholePieces, List.getElem?_map, placed]
  rfl

theorem map_size_wholePieces (c : Compiler α) (rotating : Bool) (offset : Nat)
    {played : List (Played α)} {bins : List Nat} (same : bins.length = played.length) :
    (c.wholePieces rotating offset played bins).map Piece.size = bins := by
  have sizes : (c.wholePieces rotating offset played bins).map Piece.size =
      (((played.zip bins).zip (firstBins 0 bins)).map Prod.fst).map Prod.snd := by
    rw [wholePieces, List.map_map, List.map_map]
    rfl
  rw [sizes, List.map_fst_zip, List.map_snd_zip]
  · exact Nat.le_of_eq same
  · rw [List.length_zip, length_firstBins]
    exact Nat.min_le_right _ _

theorem length_referenceBins (c : Compiler α) (rotating : Bool) (offset : Nat)
    {played : List (Played α)} {bins : List Nat} (same : bins.length = played.length) :
    (c.referenceBins rotating offset played bins).length = bins.sum := by
  have sizes : ∀ p : Piece α, (p.bins c.settings.rate).length = p.size := fun p => p.length_bins _
  rw [referenceBins, List.length_flatMap, funext sizes,
    map_size_wholePieces c rotating offset same]

/-- The items that come from one item of a list stand behind those of the items before it. -/
theorem getElem?_flatMap {β γ : Type} (f : β → List γ) {items : List β} {k : Nat} {b : β}
    (listed : items[k]? = some b) {i : Nat} (inside : i < (f b).length) :
    (items.flatMap f)[((items.take k).map fun b => (f b).length).sum + i]? = (f b)[i]? := by
  induction items generalizing k with
  | nil => cases listed
  | cons first rest ih =>
    cases k with
    | zero =>
      cases listed
      rw [List.flatMap_cons, List.take_zero, List.map_nil, List.sum_nil, Nat.zero_add,
        List.getElem?_append_left inside]
    | succ k =>
      rw [List.flatMap_cons, List.take_succ_cons, List.map_cons, List.sum_cons, Nat.add_assoc,
        List.getElem?_append_right (Nat.le_add_right _ _), Nat.add_sub_cancel_left]
      exact ih listed

/-- Bin `i` of the `k`-th played element. -/
theorem referenceBins_getElem? (c : Compiler α) (rotating : Bool) (offset : Nat)
    {played : List (Played α)} {bins : List Nat} (same : bins.length = played.length)
    {k : Nat} {p : Played α} {n i : Nat} (listed : played[k]? = some p)
    (given : bins[k]? = some n) (inside : i < n) :
    let origin := if rotating then offset + (bins.take k).sum else 0
    (c.referenceBins rotating offset played bins)[(bins.take k).sum + i]? =
      some ⟨p.element,
        ⟨Scalar.ofNat origin / c.settings.rate, Scalar.ofNat (n - 1) / c.settings.rate⟩,
        Scalar.ofNat (origin + i) / c.settings.rate⟩ := by
  intro origin
  have piece := wholePieces_getElem? c rotating offset listed given
  have sizes : ∀ p : Piece α, (p.bins c.settings.rate).length = p.size := fun p => p.length_bins _
  have position := getElem?_flatMap (Piece.bins c.settings.rate) piece (i := i)
    (by rw [sizes]; exact inside)
  rw [funext sizes, List.map_take, map_size_wholePieces c rotating offset same] at position
  have bin : (List.range' 0 n)[i]? = some i := by
    rw [List.getElem?_range' inside, Nat.zero_add, Nat.one_mul]
  rw [referenceBins, position, Piece.bins, List.getElem?_map, wholePiece, bin]
  rfl

end Positions

/-! ## 2. When an ensemble compiles -/

variable [Analytic α]

/-- An ensemble that is accepted, whose bins all have samples, and that has a channel to write
them on. Chunks do not occur here. -/
structure Compiles (c : Compiler α) (e : Ensemble α) (blocks : Roster (Block α)) (offset : Nat)
    (a : Analysis α) (played : List (Played α)) : Prop where
  analysed : e.analyse blocks c.settings.rate = .ok a
  valid : c.validate e.name a = .ok ⟨⟩
  plays : e.played blocks = .ok played
  evaluates : c.Evaluates a.analog (c.referenceBins e.rotating offset played a.bins)
  channels : 0 < a.samples → a.HasChannel

/-- What validation leaves: the ensemble fits the settings and the device. -/
structure Fits (c : Compiler α) (a : Analysis α) : Prop where
  rate : c.limits.rates.allows c.settings.rate = true
  active : a.channels = c.settings.active
  amplitude : ∀ channel ∈ a.analog.names, ∃ v, c.settings.amplitudes.get? channel = some v ∧
    ¬ v ≤ 0.0
  atMost : a.samples ≤ c.limits.samples.greatest
  atLeast : c.limits.samples.least ≤ a.samples

theorem fits_of_validate {c : Compiler α} {user : String} {a : Analysis α}
    (h : c.validate user a = .ok ⟨⟩) : c.Fits a := by
  unfold validate at h
  simp only [bind, Except.bind, pure, Except.pure, throw, throwThe, MonadExceptOf.throw] at h
  split at h
  · rename_i rate
    split at h
    · cases h
    · split at h
      · rename_i active
        split at h
        · cases h
        · rename_i powered
          split at h
          · cases h
          · rename_i notAbove
            split at h
            · cases h
            · rename_i notBelow
              refine ⟨rate, by simpa using active, fun channel member => ?_,
                Nat.le_of_not_lt notAbove, Nat.le_of_not_lt notBelow⟩
              have set := List.find?_eq_none.mp powered channel member
              cases own : c.settings.amplitudes.get? channel with
              | none => simp [own] at set
              | some v => exact ⟨v, rfl, by simpa [own] using set⟩
      · cases h
  · cases h

/-- The waveform that an ensemble compiles to. -/
def reference (c : Compiler α) (e : Ensemble α) (offset : Nat) (a : Analysis α)
    (played : List (Played α)) : Waveform α :=
  c.waveformOf a (c.referenceBins e.rotating offset played a.bins) true

/-- The record of a compiled ensemble. -/
def recordOf (c : Compiler α) (a : Analysis α) (name : String) : Record α where
  samples := a.samples
  elements := a.bins.length
  bins := a.bins
  rising := a.rising
  falling := a.falling
  analog := a.analog
  digital := a.digital
  settings := c.settings
  waveforms := [name]

/-- The chunks of an ensemble, as groups of pieces. -/
def chunks (c : Compiler α) (e : Ensemble α) (offset : Nat) (a : Analysis α)
    (played : List (Played α)) : List (List (Piece α)) :=
  groups (max c.chunk 1) (c.pieces e.rotating offset played a.bins) [] 0

section Chunks

variable (c : Compiler α) (e : Ensemble α) (offset : Nat) (a : Analysis α)
  (played : List (Played α))

/-- The chunks list the bins of the reference. -/
theorem chunks_bins :
    (c.chunks e offset a played).flatMap c.groupBins =
      c.referenceBins e.rotating offset played a.bins := by
  have flattened := groups_flatten (max c.chunk 1) (c.pieces e.rotating offset played a.bins) [] 0
  rw [List.reverse_nil, List.nil_append] at flattened
  rw [← pieces_bins, ← flattened, List.flatten_eq_flatMap, List.flatMap_assoc]
  rfl

theorem chunks_pieces_pos : ∀ group ∈ c.chunks e offset a played, ∀ p ∈ group, 0 < p.size := by
  intro group member p inGroup
  refine c.pieces_size_pos e.rotating offset played a.bins p ?_
  have flattened := groups_flatten (max c.chunk 1) (c.pieces e.rotating offset played a.bins) [] 0
  rw [List.reverse_nil, List.nil_append] at flattened
  rw [← flattened]
  exact List.mem_flatten.mpr ⟨group, member, inGroup⟩

theorem chunks_ne_nil : ∀ group ∈ c.chunks e offset a played, group ≠ [] :=
  groups_ne_nil _ _ _ _

variable {c e offset a played}

/-- There is a chunk exactly if there is a sample. -/
theorem chunks_filled_iff (samples : (c.referenceBins e.rotating offset played a.bins).length =
    a.samples) : c.chunks e offset a played ≠ [] ↔ 0 < a.samples := by
  rw [← samples, ← chunks_bins]
  have positive := c.chunks_pieces_pos e offset a played
  have filled := c.chunks_ne_nil e offset a played
  generalize c.chunks e offset a played = groups at positive filled
  cases groups with
  | nil => exact iff_of_false (fun h => h rfl) (Nat.lt_irrefl 0)
  | cons group rest =>
    refine iff_of_true (List.cons_ne_nil group rest) ?_
    rw [List.flatMap_cons, List.length_append, length_groupBins]
    exact Nat.add_pos_left (groupSize_pos (positive group List.mem_cons_self)
      (filled group List.mem_cons_self)) _

end Chunks

section SampleEnsemble

variable {c : Compiler α} {e : Ensemble α} {blocks : Roster (Block α)} {offset : Nat}
  {device : MemoryPulser α}

theorem length_reference (offset : Nat) {a : Analysis α} {played : List (Played α)}
    (analysed : e.analyse blocks c.settings.rate = .ok a) (plays : e.played blocks = .ok played) :
    (c.referenceBins e.rotating offset played a.bins).length = a.samples := by
  obtain ⟨own, known⟩ := Ensemble.analyse_eq_ok analysed
  have same : own = played := Except.ok.inj (known.plays.symm.trans plays)
  subst same
  rw [length_referenceBins c e.rotating offset known.length_bins, known.sum_bins]

/-- The reference waveform is as long as the record says. -/
theorem Compiles.size_reference {a : Analysis α} {played : List (Played α)}
    (h : c.Compiles e blocks offset a played) (filled : 0 < a.samples) :
    (c.reference e offset a played).size = a.samples := by
  have length := length_reference (c := c) offset h.analysed h.plays
  have size := channelSize_tabulate
    (fun channel member => (h.evaluates.length_analogOf member).trans length)
    (fun (channel : String) (_ : channel ∈ a.digital.names) =>
      (show (digitalOf channel (c.referenceBins e.rotating offset played a.bins)).length = a.samples
        by rw [digitalOf, List.length_map, length]))
  exact size.trans (if_pos (h.channels filled))

/-- An ensemble that compiles is written, and nothing else on the device changes. -/
theorem sampleEnsemble_ok {a : Analysis α} {played : List (Played α)}
    (h : c.Compiles e blocks offset a played) (accepting : device.Accepting) (name : String) :
    ∃ device', c.sampleEnsemble e blocks name offset device =
        .ok (if e.rotating then offset + a.samples else offset, c.recordOf a name) device' ∧
      (0 < a.samples → device'.waveforms.get? name = some (c.reference e offset a played)) ∧
      Frame (· = name) device device' := by
  have samples := length_reference (c := c) offset h.analysed h.plays
  have evaluates := h.evaluates
  rw [← chunks_bins] at evaluates samples
  -- Nothing is written yet, so any earlier waveform of that name does not matter.
  have start : c.Written a name [] device := ⟨accepting, fun filled => absurd rfl filled⟩
  obtain ⟨device', wrote, written, frame⟩ := writeGroups_ok start
    (c.chunks_pieces_pos e offset a played) evaluates
    (fun filled => h.channels ((chunks_filled_iff (by rw [← chunks_bins, samples])).mp filled))
    samples
  refine ⟨device', ?_, fun positive => ?_, frame⟩
  · unfold sampleEnsemble
    rw [h.analysed, Action.bind_of_ok (Action.lift_ok _ _), h.valid,
      Action.bind_of_ok (Action.lift_ok _ _), h.plays, Action.bind_of_ok (Action.lift_ok _ _)]
    exact Action.bind_of_ok wrote
  · rw [List.nil_append] at written
    have filled : (c.chunks e offset a played).flatMap c.groupBins ≠ [] := by
      rw [← List.length_pos_iff, samples]
      exact positive
    rw [written.held filled, samples, chunks_bins, beq_self_eq_true]
    rfl

/-- An ensemble that does not compile is refused; at most its waveform is gone. -/
theorem sampleEnsemble_error (fails : ¬ ∃ a played, c.Compiles e blocks offset a played)
    (accepting : device.Accepting) (name : String) :
    ∃ f device', c.sampleEnsemble e blocks name offset device = .error f device' ∧
      Frame (· = name) device device' := by
  unfold sampleEnsemble
  cases analysed : e.analyse blocks c.settings.rate with
  | error f => exact ⟨f, device, Action.bind_of_error (Action.lift_error _ _), Frame.refl _ _⟩
  | ok a =>
    rw [Action.bind_of_ok (Action.lift_ok _ _)]
    cases valid : c.validate e.name a with
    | error f => exact ⟨f, device, Action.bind_of_error (Action.lift_error _ _), Frame.refl _ _⟩
    | ok _ =>
      obtain ⟨played, known⟩ := Ensemble.analyse_eq_ok analysed
      rw [Action.bind_of_ok (Action.lift_ok _ _), known.plays,
        Action.bind_of_ok (Action.lift_ok _ _)]
      have samples := length_reference (c := c) offset analysed known.plays
      have start : c.Written a name [] device := ⟨accepting, fun filled => absurd rfl filled⟩
      obtain ⟨f, device', failed, frame⟩ := writeGroups_error start
        (c.chunks_pieces_pos e offset a played) (c.chunks_ne_nil e offset a played) fun fine =>
          fails ⟨a, played, analysed, valid, known.plays, by rw [← chunks_bins]; exact fine.1,
            fun positive => fine.2 ((chunks_filled_iff samples).mpr positive)⟩
      exact ⟨f, device', Action.bind_of_error failed, frame⟩

/-- Whether an ensemble is compiled has nothing to do with the device or the chunks. -/
theorem succeeds_iff_compiles (accepting : device.Accepting) (name : String) :
    (c.sampleEnsemble e blocks name offset).Succeeds device ↔
      ∃ a played, c.Compiles e blocks offset a played := by
  constructor
  · rintro ⟨result, device', done⟩
    by_contra fails
    obtain ⟨f, other, failed, -⟩ := sampleEnsemble_error fails accepting name
    rw [failed] at done
    cases done
  · rintro ⟨a, played, compiles⟩
    obtain ⟨device', done, -⟩ := sampleEnsemble_ok compiles accepting name
    exact ⟨_, device', done⟩

end SampleEnsemble

/-! ## 3. Sample by sample -/

/-- Compiling in chunks is the reference, sample by sample. On a device that
refuses nothing, whether an ensemble is compiled does not depend on the size of
the chunks. If it is, and has a sample at all, then the device holds a complete
waveform under its name, with as many samples on every channel as the ensemble
has bins. Bin `i` of the `k`-th played element holds the level of that element on
every digital channel; on every analog channel it holds the voltage of the shape
at the time of the bin, as a fraction of the amplitude. The time is counted from
the start of the element, or of the program in a rotating frame. -/
theorem sampleEnsemble_refines (functions : Registry α (ShapeRule α))
    (settings : PulserSettings α) (limits : Limits α) (e : Ensemble α)
    (blocks : Roster (Block α)) (name : String) (offset : Nat) (device : MemoryPulser α)
    (accepting : device.Accepting) :
    (∀ chunk₁ chunk₂,
      (sampleEnsemble ⟨functions, settings, limits, chunk₁⟩ e blocks name offset).Succeeds device ↔
      (sampleEnsemble ⟨functions, settings, limits, chunk₂⟩ e blocks name offset).Succeeds
        device) ∧
    ∀ chunk behind record device',
      sampleEnsemble ⟨functions, settings, limits, chunk⟩ e blocks name offset device =
        .ok (behind, record) device' →
      1 ≤ record.samples →
      ∃ played w, e.played blocks = .ok played ∧ device'.waveforms.get? name = some w ∧
        w.complete = true ∧ w.size = record.samples ∧
        w.analog.names = record.analog.names ∧ w.digital.names = record.digital.names ∧
        (∀ samples ∈ w.analog.values, samples.length = record.samples) ∧
        (∀ samples ∈ w.digital.values, samples.length = record.samples) ∧
        record.bins.length = played.length ∧ record.bins.sum = record.samples ∧
        ∀ (k : Nat) (p : Played α) (n i : Nat),
          played[k]? = some p → record.bins[k]? = some n → i < n →
          let first := (record.bins.take k).sum
          let origin := if e.rotating then offset + first else 0
          let span : Span α :=
            ⟨Scalar.ofNat origin / settings.rate, Scalar.ofNat (n - 1) / settings.rate⟩
          (∀ channel ∈ record.digital.names, ∃ samples,
            w.digital.get? channel = some samples ∧
              samples[first + i]? = some (p.element.isHigh channel)) ∧
          ∀ channel ∈ record.analog.names, ∃ samples shape voltage amplitude,
            w.analog.get? channel = some samples ∧
              p.element.shapes.get? channel = some shape ∧
              shape.voltage functions span = .ok voltage ∧
              settings.amplitudes.get? channel = some amplitude ∧
              samples[first + i]? = some (Analytic.narrow
                (voltage (Scalar.ofNat (origin + i) / settings.rate) / amplitude)) := by
  refine ⟨fun chunk₁ chunk₂ => ?_, fun chunk behind record device' done filled => ?_⟩
  · rw [succeeds_iff_compiles accepting, succeeds_iff_compiles accepting]
    -- What it takes to compile does not mention the size of a chunk.
    constructor <;> rintro ⟨a, played, h⟩ <;>
      exact ⟨a, played, h.analysed, h.valid, h.plays, h.evaluates, h.channels⟩
  · obtain ⟨a, played, compiles⟩ :=
      (succeeds_iff_compiles accepting name).mp ⟨_, device', done⟩
    obtain ⟨own, same, held, -⟩ := sampleEnsemble_ok compiles accepting name
    rw [same] at done
    cases done
    have length := length_reference (c := ⟨functions, settings, limits, chunk⟩) offset
      compiles.analysed compiles.plays
    obtain ⟨known, analysed⟩ := Ensemble.analyse_eq_ok compiles.analysed
    have listed : known = played := Except.ok.inj (analysed.plays.symm.trans compiles.plays)
    subst listed
    refine ⟨known, _, compiles.plays, held filled, rfl, compiles.size_reference filled,
      Roster.names_tabulate _ _, Roster.names_tabulate _ _, fun samples member => ?_,
      fun samples member => ?_, analysed.length_bins, analysed.sum_bins, ?_⟩
    · rw [reference, waveformOf, Roster.values_tabulate] at member
      obtain ⟨channel, inUse, rfl⟩ := List.mem_map.mp member
      exact (compiles.evaluates.length_analogOf inUse).trans length
    · rw [reference, waveformOf, Roster.values_tabulate] at member
      obtain ⟨channel, inUse, rfl⟩ := List.mem_map.mp member
      rw [digitalOf, List.length_map]
      exact length
    · intro k p n i listed given inside first origin span
      have bin := referenceBins_getElem? ⟨functions, settings, limits, chunk⟩ e.rotating offset
        analysed.length_bins listed given inside
      refine ⟨fun channel inUse => ?_, fun channel inUse => ?_⟩
      · refine ⟨_, Roster.get?_tabulate_of_mem _ inUse, ?_⟩
        rw [digitalOf, List.getElem?_map]
        exact congrArg (Option.map fun b : Bin α => b.element.isHigh channel) bin
      · obtain ⟨value, found, stored⟩ := compiles.evaluates.analogOf_getElem? inUse bin
        obtain ⟨shape, voltage, shaped, rule, rfl⟩ := analogAt_eq_ok found
        obtain ⟨amplitude, set, -⟩ := (fits_of_validate compiles.valid).amplitude channel inUse
        refine ⟨_, shape, voltage, amplitude, Roster.get?_tabulate_of_mem _ inUse, shaped, rule,
          set, ?_⟩
        exact stored.trans (by rw [set]; rfl)

/-! A constant voltage on one channel while a digital channel goes up and down again. -/

/-- The compiler of a small device, with chunks of two samples. -/
def steadyCompiler : Compiler ℚ where
  functions := ShapeFunction.registry []
  settings := ⟨1, "all", NameSet.ofList ["a_ch1", "d_ch1"], Roster.ofList [("a_ch1", 2)]⟩
  limits := ⟨⟨1, 10⟩, ⟨1, 2⟩, ⟨1, 100⟩, 10,
    Roster.ofList [("all", NameSet.ofList ["a_ch1", "d_ch1"])], .available, ∅⟩
  chunk := 2

def steadyElement (length : ℚ) (high : Bool) : Element ℚ :=
  ⟨length, 0, Roster.ofList [("a_ch1", .constant 1)], Roster.ofList [("d_ch1", high)], false⟩

def steadyBlocks : Roster (Block ℚ) :=
  Roster.ofList [("steady", ⟨"steady", [steadyElement 3 true, steadyElement (3 / 2) false]⟩)]

def steadyEnsemble : Ensemble ℚ := ⟨"steady", [("steady", 1)], true, none, none⟩

/-- Three and two bins, the first element being longer than a chunk. -/
theorem sampleEnsemble_refines_steady :
    (MemoryPulser.fresh steadyCompiler.limits).Accepting ∧
    ∃ record device', steadyCompiler.sampleEnsemble steadyEnsemble steadyBlocks "steady" 7
        (MemoryPulser.fresh steadyCompiler.limits) = .ok (12, record) device' ∧
      record.bins = [3, 2] ∧
      ∃ w, device'.waveforms.get? "steady" = some w ∧ w.complete = true ∧ w.size = 5 := by
  have accepting : (MemoryPulser.fresh steadyCompiler.limits).Accepting := rfl
  have ran : (match steadyCompiler.sampleEnsemble steadyEnsemble steadyBlocks "steady" 7
      (MemoryPulser.fresh steadyCompiler.limits) with
    | .ok (behind, record) _ => some (behind, record.bins, record.samples)
    | .error _ _ => none) = some (12, [3, 2], 5) := by decide +kernel
  refine ⟨accepting, ?_⟩
  cases done : steadyCompiler.sampleEnsemble steadyEnsemble steadyBlocks "steady" 7
      (MemoryPulser.fresh steadyCompiler.limits) with
  | error f device' => rw [done] at ran; cases ran
  | ok result device' =>
    obtain ⟨behind, record⟩ := result
    rw [done] at ran
    simp only [Option.some.injEq, Prod.mk.injEq] at ran
    obtain ⟨rfl, bins, samples⟩ := ran
    obtain ⟨played, w, -, held, complete, size, -⟩ :=
      (sampleEnsemble_refines _ _ _ _ _ _ _ _ accepting).2 _ _ _ _ done (by omega)
    exact ⟨record, device', rfl, bins, w, held, complete, size.trans samples⟩

end PulseBench.Compiler
