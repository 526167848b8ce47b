import PulseBench.Proofs.Compile.Refinement

/-!
# Edges between bins

The analysis of an ensemble walks over its elements and notes where a level
changes, while the samples are written bin by bin in a second pass. `changes`
walks over the bins themselves. It is the same walk: an element without bins has
no bin to differ in, so it neither makes an edge nor hides one.

Results:
1. `mem_changes`, `changes_pairwise`, `balance_changes`: the changes of a list of
   levels, and how many of them go either way.
2. `edgesOf_eq_changes`, `mem_edgesOf_succ`: the edges of played elements are the changes of
   their bins.
3. `Compiler.writtenLevels_eq`: the bins are what is written on a digital channel.
4. `edges_match_samples`: recorded edges and written samples.
-/

namespace PulseBench

variable {α : Type}

/-! ## 1. Levels bin by bin -/

/-- The bins, counted from `bin`, at which the level becomes `target`. -/
def changes (target : Bool) : Bool → Nat → List Bool → List Nat
  | _, _, [] => []
  | previous, bin, level :: rest =>
      if level == target && previous != target then bin :: changes target level (bin + 1) rest
      else changes target level (bin + 1) rest

/-- A bin is a change if its level is the target and the level before it is not. -/
theorem mem_changes {target previous : Bool} {bin b : Nat} {levels : List Bool} :
    b ∈ changes target previous bin levels ↔
      ∃ i, b = bin + i ∧ levels[i]? = some target ∧ (previous :: levels)[i]? = some (!target) := by
  induction levels generalizing previous bin with
  | nil => simp [changes]
  | cons level rest ih =>
    -- The first bin is looked at by itself, the others belong to the rest.
    have split : b ∈ changes target previous bin (level :: rest) ↔
        (b = bin ∧ level = target ∧ previous = !target) ∨
          b ∈ changes target level (bin + 1) rest := by
      rw [changes]
      cases level <;> cases previous <;> cases target <;> simp
    rw [split, ih]
    constructor
    · rintro (⟨rfl, rfl, rfl⟩ | ⟨i, rfl, here, before⟩)
      · exact ⟨0, rfl, rfl, rfl⟩
      · exact ⟨i + 1, by omega, here, before⟩
    · rintro ⟨i, rfl, here, before⟩
      cases i with
      | zero => exact Or.inl ⟨rfl, Option.some.inj here, Option.some.inj before⟩
      | succ i => exact Or.inr ⟨i, by omega, here, before⟩

theorem changes_pairwise (target previous : Bool) (bin : Nat) (levels : List Bool) :
    (changes target previous bin levels).Pairwise (· < ·) := by
  induction levels generalizing previous bin with
  | nil => exact List.Pairwise.nil
  | cons level rest ih =>
    rw [changes]
    split
    · refine List.pairwise_cons.mpr ⟨fun later member => ?_, ih level (bin + 1)⟩
      obtain ⟨i, rfl, -⟩ := mem_changes.mp member
      omega
    · exact ih level (bin + 1)

theorem lt_of_mem_changes {target previous : Bool} {bin b : Nat} {levels : List Bool}
    (member : b ∈ changes target previous bin levels) : b < bin + levels.length := by
  obtain ⟨i, rfl, here, -⟩ := mem_changes.mp member
  obtain ⟨inside, -⟩ := List.getElem?_eq_some_iff.mp here
  omega

/-- Levels that stay are passed over. -/
theorem changes_replicate (target level : Bool) (bin n : Nat) (rest : List Bool) :
    changes target level bin (List.replicate n level ++ rest) =
      changes target level (bin + n) rest := by
  induction n generalizing bin with
  | zero => rfl
  | succ n ih =>
    rw [List.replicate_succ, List.cons_append, changes, ih, Nat.add_right_comm, Nat.add_assoc]
    cases level <;> cases target <;> rfl

/-- Every rise but the last is followed by a fall: together with the level before, the rises are
as many as the falls together with the level behind. -/
theorem balance_changes (previous : Bool) (bin : Nat) (levels : List Bool) :
    (changes true previous bin levels).length + previous.toNat =
      (changes false previous bin levels).length + (levels.getLastD previous).toNat := by
  induction levels generalizing previous bin with
  | nil => rfl
  | cons level rest ih =>
    have balanced := ih level (bin + 1)
    rw [List.getLastD_cons]
    cases level <;> cases previous <;> simp [changes] at balanced ⊢ <;> omega

/-! ## 2. From elements to bins -/

/-- The levels of played elements, bin by bin. -/
def levelsOf (level : Element α → Bool) (played : List (Played α)) (bins : List Nat) : List Bool :=
  (played.zip bins).flatMap fun (p, n) => List.replicate n (level p.element)

section Levels

variable (level : Element α → Bool)

theorem levelsOf_cons (p : Played α) (n : Nat) (played : List (Played α)) (bins : List Nat) :
    levelsOf level (p :: played) (n :: bins) =
      List.replicate n (level p.element) ++ levelsOf level played bins := rfl

/-- Every element has as many levels as it has bins. -/
theorem map_length_levels {played : List (Played α)} {bins : List Nat}
    (same : bins.length = played.length) :
    ((played.zip bins).map fun q => (List.replicate q.2 (level q.1.element)).length) = bins := by
  simp only [List.length_replicate]
  exact List.map_snd_zip (Nat.le_of_eq same)

theorem length_levelsOf {played : List (Played α)} {bins : List Nat}
    (same : bins.length = played.length) : (levelsOf level played bins).length = bins.sum := by
  rw [levelsOf, List.length_flatMap]
  exact congrArg List.sum (map_length_levels level same)

/-- A bin has the level of the element that owns it. -/
theorem levelsOf_getElem? {played : List (Played α)} {bins : List Nat}
    (same : bins.length = played.length) {k : Nat} {p : Played α} {n i : Nat}
    (listed : played[k]? = some p) (given : bins[k]? = some n) (inside : i < n) :
    (levelsOf level played bins)[(bins.take k).sum + i]? = some (level p.element) := by
  have both : (played.zip bins)[k]? = some (p, n) :=
    List.getElem?_zip_eq_some.mpr ⟨listed, given⟩
  have position := Compiler.getElem?_flatMap
    (fun q : Played α × Nat => List.replicate q.2 (level q.1.element)) both
    (by rwa [List.length_replicate])
  rw [List.map_take, map_length_levels level same, List.getElem?_replicate_of_lt inside] at position
  exact position

/-- The edges of elements whose first bin is `first`. -/
theorem edges_levelStarts (target previous : Bool) (first : Nat) (played : List (Played α))
    (bins : List Nat) :
    edges target previous
        (((played.zip bins).zip (firstBins first bins)).filterMap fun ((p, n), start) =>
          if n = 0 then none else some ⟨start, level p.element⟩) =
      changes target previous first (levelsOf level played bins) := by
  induction played generalizing previous first bins with
  | nil => rfl
  | cons p rest ih =>
    cases bins with
    | nil => rfl
    | cons n others =>
      rw [levelsOf_cons, List.zip_cons_cons, firstBins, List.zip_cons_cons, List.filterMap_cons]
      cases n with
      | zero => exact ih previous first others
      | succ n =>
        -- Only the first bin of an element can differ from the one before it.
        have later := ih (level p.element) (first + (n + 1)) others
        simp only [Nat.add_eq_zero_iff, Nat.one_ne_zero, and_false, if_false]
        rw [edges, later, List.replicate_succ, List.cons_append, changes, changes_replicate,
          Nat.add_right_comm first 1 n, Nat.add_assoc first n 1]

/-- Elements may be left aside: the edges are the changes from bin to bin. -/
theorem edgesOf_eq_changes (target : Bool) (played : List (Played α)) (bins : List Nat) :
    edgesOf target level played bins =
      changes target (loopLevel level played) 0 (levelsOf level played bins) :=
  edges_levelStarts level target _ 0 played bins

theorem edgesOf_pairwise (target : Bool) (played : List (Played α)) (bins : List Nat) :
    (edgesOf target level played bins).Pairwise (· < ·) := by
  rw [edgesOf_eq_changes]
  exact changes_pairwise _ _ _ _

theorem lt_of_mem_edgesOf {target : Bool} {played : List (Played α)} {bins : List Nat}
    (same : bins.length = played.length) {b : Nat}
    (member : b ∈ edgesOf target level played bins) : b < bins.sum := by
  rw [edgesOf_eq_changes] at member
  have inside := lt_of_mem_changes member
  rwa [length_levelsOf level same, Nat.zero_add] at inside

/-- Behind the first bin the level before the first one is not looked at. -/
theorem mem_edgesOf_succ {target : Bool} {played : List (Played α)} {bins : List Nat} {b : Nat} :
    b + 1 ∈ edgesOf target level played bins ↔
      (levelsOf level played bins)[b + 1]? = some target ∧
        (levelsOf level played bins)[b]? = some (!target) := by
  rw [edgesOf_eq_changes, mem_changes]
  constructor
  · rintro ⟨i, same, here, before⟩
    rw [Nat.zero_add] at same
    subst same
    exact ⟨here, before⟩
  · rintro ⟨here, before⟩
    exact ⟨b + 1, (Nat.zero_add _).symm, here, before⟩

end Levels

/-- The edges of an accepted ensemble, channel by channel. -/
theorem Ensemble.analyse_edges [Scalar α] {e : Ensemble α} {blocks : Roster (Block α)} {rate : α}
    {played : List (Played α)} {a : Analysis α} (accepted : e.analyse blocks rate = .ok a)
    (plays : e.played blocks = .ok played) :
    a.rising = Roster.tabulate a.digital (fun channel =>
        edgesOf true (·.isHigh channel) played a.bins) ∧
      a.falling = Roster.tabulate a.digital (fun channel =>
        edgesOf false (·.isHigh channel) played a.bins) := by
  obtain ⟨own, known⟩ := analyse_eq_ok accepted
  unfold analyse at accepted
  simp only [known.rate_positive, bind, Except.bind, pure, Except.pure] at accepted
  cases listed : e.consistentPlayback blocks with
  | error f => simp [listed] at accepted
  | ok found =>
    obtain ⟨first, all⟩ := found
    obtain ⟨same, -⟩ := consistentPlayback_eq_ok listed
    cases Except.ok.inj (plays.symm.trans same)
    cases timed : e.durations played with
    | error f => simp [listed, timed] at accepted
    | ok durations =>
      simp only [listed, timed] at accepted
      cases accepted
      exact ⟨Roster.ofList_map_names _ _, Roster.ofList_map_names _ _⟩

/-! ## 3. From bins to samples -/

namespace Compiler

theorem digitalSamples_eq [Scalar α] (rate : α) (p : Piece α) (channel : String) :
    digitalSamples p channel = digitalOf channel (p.bins rate) := by
  symm
  rw [digitalSamples, digitalOf, Piece.bins, List.map_map]
  refine List.eq_replicate_iff.mpr ⟨?_, fun level member => ?_⟩
  · rw [List.length_map, List.length_range']
  · obtain ⟨i, -, same⟩ := List.mem_map.mp member
    exact same.symm

theorem digitalOf_flatMap {β : Type} (channel : String) (f : β → List (Bin α)) (items : List β) :
    digitalOf channel (items.flatMap f) = items.flatMap fun b => digitalOf channel (f b) :=
  List.map_flatMap

/-- The bins of the reference have the levels of the elements that own them. -/
theorem digitalOf_referenceBins [Scalar α] (c : Compiler α) (rotating : Bool) (offset : Nat)
    (channel : String) {played : List (Played α)} {bins : List Nat} :
    digitalOf channel (c.referenceBins rotating offset played bins) =
      levelsOf (·.isHigh channel) played bins := by
  have own : ∀ (p : Played α) (n first : Nat),
      digitalOf channel ((c.wholePiece rotating offset p n first).bins c.settings.rate) =
        List.replicate n (p.element.isHigh channel) := by
    intro p n first
    rw [← digitalSamples_eq]
    rfl
  -- Where the elements start does not matter to their levels.
  have placed : ((played.zip bins).zip (firstBins 0 bins)).map Prod.fst = played.zip bins := by
    refine List.map_fst_zip ?_
    rw [List.length_zip, length_firstBins]
    exact Nat.min_le_right _ _
  rw [referenceBins, wholePieces, digitalOf_flatMap, List.flatMap_map]
  simp only [own]
  calc
    _ = (((played.zip bins).zip (firstBins 0 bins)).map Prod.fst).flatMap fun q =>
        List.replicate q.2 (q.1.element.isHigh channel) := (List.flatMap_map _ _ _).symm
    _ = levelsOf (·.isHigh channel) played bins := by
      rw [placed]
      rfl

variable [Analytic α]

/-- What is written on a digital channel, chunk after chunk. -/
def writtenLevels (c : Compiler α) (e : Ensemble α) (offset : Nat) (a : Analysis α)
    (played : List (Played α)) (channel : String) : List Bool :=
  (c.chunks e offset a played).flatMap fun group => group.flatMap (digitalSamples · channel)

/-- Neither chunks nor pieces matter to what is written. -/
theorem writtenLevels_eq (c : Compiler α) (e : Ensemble α) (offset : Nat)
    (a : Analysis α) (played : List (Played α)) (channel : String) :
    c.writtenLevels e offset a played channel = levelsOf (·.isHigh channel) played a.bins := by
  rw [← digitalOf_referenceBins c e.rotating offset, ← chunks_bins, digitalOf_flatMap]
  refine List.flatMap_congr fun group _ => ?_
  rw [groupBins, digitalOf_flatMap]
  exact List.flatMap_congr fun p _ => digitalSamples_eq _ p channel

/-- On a device that refuses nothing, these are the samples of a compiled ensemble. -/
theorem sampleEnsemble_levels {c : Compiler α} {e : Ensemble α} {blocks : Roster (Block α)}
    {name : String} {offset behind : Nat} {device device' : MemoryPulser α} {a : Analysis α}
    {played : List (Played α)} {record : Record α}
    (accepted : e.analyse blocks c.settings.rate = .ok a) (plays : e.played blocks = .ok played)
    (accepting : device.Accepting)
    (done : c.sampleEnsemble e blocks name offset device = .ok (behind, record) device') :
    record.rising = a.rising ∧ record.falling = a.falling ∧
      (1 ≤ a.samples → ∃ w, device'.waveforms.get? name = some w ∧
        ∀ channel ∈ a.digital.names,
          w.digital.get? channel = some (c.writtenLevels e offset a played channel)) := by
  obtain ⟨a', played', compiles⟩ := (succeeds_iff_compiles accepting name).mp ⟨_, device', done⟩
  cases Except.ok.inj (accepted.symm.trans compiles.analysed)
  cases Except.ok.inj (plays.symm.trans compiles.plays)
  obtain ⟨device'', same, held, -⟩ := sampleEnsemble_ok compiles accepting name
  rw [done] at same
  cases same
  refine ⟨rfl, rfl, fun filled => ⟨_, held filled, fun channel inUse => ?_⟩⟩
  rw [writtenLevels_eq, ← digitalOf_referenceBins c e.rotating offset]
  exact Roster.get?_tabulate_of_mem _ inUse

end Compiler

/-! ## 4. Recorded edges -/

/-- Recorded edges and written samples agree. A digital channel of an accepted ensemble has a list
of rising and one of falling bins, both strictly increasing and within the samples. Whatever
compiler writes the ensemble, in chunks of whatever size, at whatever offset: there is one level
for every sample, the one of the element that owns its bin, and a bin behind the first is rising
exactly if its level is high and the one before low, and falling exactly if it is the other way
round. A device that refuses nothing holds these levels, and the record these edges. -/
theorem edges_match_samples [Analytic α] {e : Ensemble α} {blocks : Roster (Block α)} {rate : α}
    {a : Analysis α} (accepted : e.analyse blocks rate = .ok a) :
    ∃ played, e.played blocks = .ok played ∧ a.bins.length = played.length ∧
      ∀ channel ∈ a.digital.names, ∃ rising falling,
        a.rising.get? channel = some rising ∧ a.falling.get? channel = some falling ∧
        rising.Pairwise (· < ·) ∧ falling.Pairwise (· < ·) ∧
        (∀ b ∈ rising, b < a.samples) ∧ (∀ b ∈ falling, b < a.samples) ∧
        ∀ (c : Compiler α) (offset : Nat),
          let levels := c.writtenLevels e offset a played channel
          levels.length = a.samples ∧
          (∀ (k : Nat) (p : Played α) (n i : Nat),
            played[k]? = some p → a.bins[k]? = some n → i < n →
            levels[(a.bins.take k).sum + i]? = some (p.element.isHigh channel)) ∧
          (∀ b, 1 ≤ b → b < a.samples →
            (b ∈ rising ↔ levels[b]? = some true ∧ levels[b - 1]? = some false) ∧
            (b ∈ falling ↔ levels[b]? = some false ∧ levels[b - 1]? = some true)) ∧
          ∀ (name : String) (device device' : MemoryPulser α) (behind : Nat) (record : Record α),
            c.settings.rate = rate → device.Accepting →
            c.sampleEnsemble e blocks name offset device = .ok (behind, record) device' →
            record.rising.get? channel = some rising ∧
            record.falling.get? channel = some falling ∧
            (1 ≤ a.samples → ∃ w, device'.waveforms.get? name = some w ∧
              w.digital.get? channel = some levels) := by
  obtain ⟨played, known⟩ := Ensemble.analyse_eq_ok accepted
  obtain ⟨risings, fallings⟩ := Ensemble.analyse_edges accepted known.plays
  refine ⟨played, known.plays, known.length_bins, fun channel inUse => ?_⟩
  have inside (target : Bool) :
      ∀ b ∈ edgesOf target (·.isHigh channel) played a.bins, b < a.samples := by
    intro b member
    rw [← known.sum_bins]
    exact lt_of_mem_edgesOf _ known.length_bins member
  have rising : a.rising.get? channel = some (edgesOf true (·.isHigh channel) played a.bins) := by
    rw [risings, Roster.get?_tabulate_of_mem _ inUse]
  have falling : a.falling.get? channel = some (edgesOf false (·.isHigh channel) played a.bins) := by
    rw [fallings, Roster.get?_tabulate_of_mem _ inUse]
  refine ⟨_, _, rising, falling, edgesOf_pairwise _ _ _ _, edgesOf_pairwise _ _ _ _, inside true,
    inside false, fun c offset => ?_⟩
  intro levels
  have written : levels = levelsOf (·.isHigh channel) played a.bins := c.writtenLevels_eq ..
  refine ⟨?_, fun k p n i listed given within => ?_, fun b behindFirst _ => ?_,
    fun name device device' behind record sameRate accepting done => ?_⟩
  · rw [written, length_levelsOf _ known.length_bins, known.sum_bins]
  · rw [written]
    exact levelsOf_getElem? _ known.length_bins listed given within
  · obtain ⟨b, rfl⟩ := Nat.exists_eq_add_of_le' behindFirst
    rw [written]
    exact ⟨mem_edgesOf_succ _, mem_edgesOf_succ _⟩
  · subst sameRate
    obtain ⟨sameRising, sameFalling, held⟩ :=
      Compiler.sampleEnsemble_levels accepted known.plays accepting done
    refine ⟨by rw [sameRising, rising], by rw [sameFalling, falling], fun filled => ?_⟩
    obtain ⟨w, there, digital⟩ := held filled
    exact ⟨w, there, digital channel inUse⟩

/-! A level that is interrupted for less than half a bin. -/

def interruptedBlocks : Roster (Block ℚ) :=
  Roster.ofList [("interrupted", ⟨"interrupted",
    [Compiler.steadyElement 2 true, Compiler.steadyElement (1 / 5) false,
      Compiler.steadyElement 1 true, Compiler.steadyElement 2 false]⟩)]

def interruptedEnsemble : Ensemble ℚ :=
  ⟨"interrupted", [("interrupted", 1)], false, none, none⟩

/-- The interruption has no bin, so the level rises and falls only once. -/
theorem edges_match_samples_interrupted :
    ∃ a played, interruptedEnsemble.analyse interruptedBlocks 1 = .ok a ∧
      a.bins = [2, 0, 1, 2] ∧ interruptedEnsemble.played interruptedBlocks = .ok played ∧
      ∃ rising falling, a.rising.get? "d_ch1" = some rising ∧
        a.falling.get? "d_ch1" = some falling ∧ 2 ∉ rising ∧ 3 ∈ falling ∧
        (Compiler.steadyCompiler.writtenLevels interruptedEnsemble 0 a played "d_ch1")[3]? =
          some false := by
  have ran : (match interruptedEnsemble.analyse interruptedBlocks 1 with
    | .ok a => some (a.bins, a.samples, a.digital.contains "d_ch1", a.rising.get? "d_ch1",
        a.falling.get? "d_ch1")
    | .error _ => none) = some ([2, 0, 1, 2], 5, true, some [0], some [3]) := by decide +kernel
  cases accepted : interruptedEnsemble.analyse interruptedBlocks 1 with
  | error f => rw [accepted] at ran; cases ran
  | ok a =>
    rw [accepted] at ran
    simp only [Option.some.injEq, Prod.mk.injEq] at ran
    obtain ⟨bins, samples, digital, rising, falling⟩ := ran
    obtain ⟨played, plays, -, channels⟩ := edges_match_samples accepted
    obtain ⟨rises, falls, sameRises, sameFalls, -, -, -, -, levels⟩ :=
      channels "d_ch1" (List.contains_iff_mem.mp digital)
    cases Option.some.inj (rising.symm.trans sameRises)
    cases Option.some.inj (falling.symm.trans sameFalls)
    obtain ⟨-, -, agree, -⟩ := levels Compiler.steadyCompiler 0
    have atThree := (agree 3 (by decide) (by rw [samples]; decide)).2.mp (by decide)
    exact ⟨a, played, rfl, bins, plays, _, _, rising, falling, by decide, by decide, atThree.1⟩

end PulseBench
