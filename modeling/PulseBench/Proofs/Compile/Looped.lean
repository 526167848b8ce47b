import Mathlib.Data.List.Rotate
import PulseBench.Proofs.Compile.Edges

/-!
# Edges of a loop

An ensemble is played in a loop, so the sample before bin zero is the last one.
The analysis starts from the level of the last element instead. That is the same
as long as the last element has a bin. If it has none, it is never heard: the
edges at bin zero, and with them the number of laser pulses, may then be those
of a level that is not played.

Results:
1. `loopEdges_changes_iff`: the changes from a starting level are those of a
   loop exactly if it is the level of the last sample.
2. `length_changes_eq_iff`: how many rises there are, against the rises of a loop.
3. `endsUnheard_iff`: when the last element has another level than the last sample.
4. `loopEdges_iff_ends_heard`: an accepted ensemble.
-/

namespace PulseBench

variable {α : Type}

/-! ## 1. The edges of a loop -/

/-- What playing in a loop makes of the edges: bin zero is one exactly if the first sample differs
from the last, and the level rises as often as it falls. -/
structure LoopEdges (levels : List Bool) (rising falling : List Nat) : Prop where
  rising_zero : 0 ∈ rising ↔ levels.head? = some true ∧ levels.getLast? = some false
  falling_zero : 0 ∈ falling ↔ levels.head? = some false ∧ levels.getLast? = some true
  balanced : rising.length = falling.length

theorem zero_mem_changes {target previous : Bool} {levels : List Bool} :
    0 ∈ changes target previous 0 levels ↔ levels.head? = some target ∧ previous = !target := by
  rw [mem_changes]
  constructor
  · rintro ⟨i, first, here, before⟩
    obtain rfl : i = 0 := by omega
    exact ⟨List.head?_eq_getElem?.trans here, Option.some.inj before⟩
  · rintro ⟨here, before⟩
    exact ⟨0, rfl, List.head?_eq_getElem?.symm.trans here, congrArg some before⟩

/-- The changes are those of a loop exactly if the level before is the one of the last sample. -/
theorem loopEdges_changes_iff {previous : Bool} {levels : List Bool} (filled : levels ≠ []) :
    LoopEdges levels (changes true previous 0 levels) (changes false previous 0 levels) ↔
      levels.getLast? = some previous := by
  have balance := balance_changes previous 0 levels
  have last : levels.getLast? = some (levels.getLastD previous) := by
    rw [List.getLastD_eq_getLast?, List.getLast?_eq_getLast_of_ne_nil filled]
    rfl
  constructor
  · rintro ⟨-, -, balanced⟩
    -- As many rises as falls leave no room for different levels at the ends.
    have same : (levels.getLastD previous).toNat = previous.toNat := by omega
    have undone := congrArg Bool.ofNat same
    rw [Bool.ofNat_toNat, Bool.ofNat_toNat] at undone
    rw [last, undone]
  · intro same
    have ends : levels.getLastD previous = previous := Option.some.inj (last.symm.trans same)
    rw [ends] at balance
    refine ⟨?_, ?_, Nat.add_right_cancel balance⟩
    · rw [zero_mem_changes, same, Option.some.injEq]
      rfl
    · rw [zero_mem_changes, same, Option.some.injEq]
      rfl

/-! ## 2. Counting the rises of a loop -/

/-- How often the level rises in a loop, from a sample to the one after it. -/
def cyclicRises (levels : List Bool) : Nat :=
  (levels.zip (levels.rotate 1)).count (false, true)

theorem count_zip_concat (level next : Bool) (bin : Nat) (rest : List Bool) :
    ((level :: rest).zip (rest ++ [next])).count (false, true) =
      (changes true level bin rest).length +
        if rest.getLastD level = false ∧ next = true then 1 else 0 := by
  induction rest generalizing level bin with
  | nil => cases level <;> cases next <;> rfl
  | cons second rest ih =>
    have counted := ih second (bin + 1)
    rw [List.cons_append, List.zip_cons_cons, List.count_cons, counted, List.getLastD_cons]
    cases level <;> cases second <;> simp [changes, Nat.add_right_comm]

/-- The rises are those of a loop unless the first sample is high and the level before it is not
the one of the last sample. -/
theorem length_changes_eq_iff {previous : Bool} {levels : List Bool} (filled : levels ≠ []) :
    (changes true previous 0 levels).length = cyclicRises levels ↔
      ¬ (levels.getLast? = some (!previous) ∧ levels.head? = some true) := by
  obtain ⟨first, rest, rfl⟩ := List.exists_cons_of_ne_nil filled
  have counted : cyclicRises (first :: rest) = (changes true first 1 rest).length +
      if rest.getLastD first = false ∧ first = true then 1 else 0 := by
    rw [cyclicRises, List.rotate_cons_succ, List.rotate_zero]
    exact count_zip_concat first first 1 rest
  rw [counted, changes, List.getLast?_cons, List.head?_cons, ← List.getLastD_eq_getLast?]
  generalize rest.getLastD first = last
  cases first <;> cases previous <;> cases last <;> simp

/-! ## 3. The last element -/

/-- The last element has no bins, and its level is not the one of the last sample. -/
def EndsUnheard (level : Element α → Bool) (played : List (Played α)) (bins : List Nat) : Prop :=
  bins.getLast? = some 0 ∧
    (levelsOf level played bins).getLast? = some (!loopLevel level played)

section Ends

variable {level : Element α → Bool} {played : List (Played α)} {bins : List Nat}

/-- A last element that has bins owns the last sample. -/
theorem getLast?_levelsOf (same : bins.length = played.length) {n : Nat}
    (last : bins.getLast? = some n) (positive : 0 < n) :
    (levelsOf level played bins).getLast? = some (loopLevel level played) := by
  obtain ⟨earlierBins, rfl⟩ := List.getLast?_eq_some_iff.mp last
  rcases List.eq_nil_or_concat' played with rfl | ⟨earlier, p, rfl⟩
  · simp at same
  · have sameEarlier : earlier.length = earlierBins.length := by simpa using same.symm
    have own : levelsOf level (earlier ++ [p]) (earlierBins ++ [n]) =
        levelsOf level earlier earlierBins ++ List.replicate n (level p.element) := by
      rw [levelsOf, List.zip_append sameEarlier, List.flatMap_append]
      simp [levelsOf]
    rw [own, loopLevel, List.getLast?_concat, List.getLast?_append_of_ne_nil,
      List.getLast?_replicate, if_neg positive.ne']
    · rfl
    · simpa using positive.ne'

/-- Only a last element without bins can have another level than the last sample. -/
theorem endsUnheard_iff (same : bins.length = played.length) :
    EndsUnheard level played bins ↔
      (levelsOf level played bins).getLast? = some (!loopLevel level played) := by
  refine and_iff_right_of_imp fun differs => ?_
  rcases List.eq_nil_or_concat' bins with rfl | ⟨earlier, n, rfl⟩
  · simp [levelsOf] at differs
  · rcases Nat.eq_zero_or_pos n with rfl | positive
    · exact List.getLast?_concat
    · rw [getLast?_levelsOf same List.getLast?_concat positive] at differs
      simp at differs

theorem not_endsUnheard_iff (same : bins.length = played.length)
    (filled : levelsOf level played bins ≠ []) :
    ¬ EndsUnheard level played bins ↔
      (levelsOf level played bins).getLast? = some (loopLevel level played) := by
  rw [endsUnheard_iff same, List.getLast?_eq_getLast_of_ne_nil filled]
  cases List.getLast _ filled <;> cases loopLevel level played <;> simp

end Ends

/-! ## 4. An accepted ensemble -/

/-- The property of an element that laser pulses are counted by. -/
def countedLevel (a : Analysis α) (laser : String) (gate : Option String) : Element α → Bool :=
  if a.digital.contains (gate.getD laser) then (·.isHigh (gate.getD laser)) else Element.laser

section Accepted

variable {e : Ensemble α} {blocks : Roster (Block α)} {rate : α} {played : List (Played α)}
  {a : Analysis α}

/-- Laser pulses are the rises of that property from bin to bin. -/
theorem Ensemble.summary_lasers [Scalar α] (accepted : e.analyse blocks rate = .ok a)
    (plays : e.played blocks = .ok played) (laser : String) (gate : Option String) :
    ∃ s, e.summary blocks rate laser gate = .ok s ∧
      s.lasers = (changes true (loopLevel (countedLevel a laser gate) played) 0
        (levelsOf (countedLevel a laser gate) played a.bins)).length := by
  unfold summary countedLevel
  simp only [accepted, plays, ok_bind]
  by_cases digital : a.digital.contains (gate.getD laser) = true
  · have rising := (analyse_edges accepted plays).1
    have inUse : gate.getD laser ∈ a.digital.names := List.contains_iff_mem.mp digital
    rw [if_pos digital, if_pos digital]
    refine ⟨_, rfl, ?_⟩
    rw [← edgesOf_eq_changes]
    simp only [Analysis.countRising, rising, Roster.get?_tabulate_of_mem _ inUse]
    rfl
  · rw [if_neg digital, if_neg digital]
    refine ⟨_, rfl, ?_⟩
    rw [← edgesOf_eq_changes]

/-- When the edges of an accepted ensemble that has samples are those of a loop. On a digital
channel they are, whatever compiler writes the samples, exactly unless the last element has no
bins and another level than the last sample. Laser pulses are as many as the property they are
counted by rises in a loop, from bin to bin, exactly unless that property ends like this, with the
first sample high. -/
theorem loopEdges_iff_ends_heard [Analytic α] (accepted : e.analyse blocks rate = .ok a)
    (filled : 1 ≤ a.samples) :
    ∃ played, e.played blocks = .ok played ∧
      (∀ channel ∈ a.digital.names, ∃ rising falling,
        a.rising.get? channel = some rising ∧ a.falling.get? channel = some falling ∧
        ∀ (c : Compiler α) (offset : Nat),
          (LoopEdges (c.writtenLevels e offset a played channel) rising falling ↔
            ¬ EndsUnheard (·.isHigh channel) played a.bins)) ∧
      ∀ laser gate, ∃ s, e.summary blocks rate laser gate = .ok s ∧
        let counted := countedLevel a laser gate
        (s.lasers = cyclicRises (levelsOf counted played a.bins) ↔
          ¬ (EndsUnheard counted played a.bins ∧
            (levelsOf counted played a.bins).head? = some true)) := by
  obtain ⟨played, known⟩ := Ensemble.analyse_eq_ok accepted
  obtain ⟨risings, fallings⟩ := Ensemble.analyse_edges accepted known.plays
  have heard (level : Element α → Bool) : levelsOf level played a.bins ≠ [] := by
    intro none
    have length := length_levelsOf level known.length_bins
    rw [none, known.sum_bins, List.length_nil] at length
    omega
  refine ⟨played, known.plays, fun channel inUse => ?_, fun laser gate => ?_⟩
  · refine ⟨edgesOf true (·.isHigh channel) played a.bins,
      edgesOf false (·.isHigh channel) played a.bins, ?_, ?_, fun c offset => ?_⟩
    · rw [risings, Roster.get?_tabulate_of_mem _ inUse]
    · rw [fallings, Roster.get?_tabulate_of_mem _ inUse]
    · rw [c.writtenLevels_eq, edgesOf_eq_changes, edgesOf_eq_changes,
        loopEdges_changes_iff (heard _), not_endsUnheard_iff known.length_bins (heard _)]
  · obtain ⟨s, summed, lasers⟩ := Ensemble.summary_lasers accepted known.plays laser gate
    refine ⟨s, summed, ?_⟩
    intro counted
    rw [lasers, length_changes_eq_iff (heard _), endsUnheard_iff known.length_bins]

end Accepted

/-! A pulse, and behind it an element that is too short for a bin. -/

def pulseBlocks (lengths : List (ℚ × Bool)) : Roster (Block ℚ) :=
  Roster.ofList [("pulse", ⟨"pulse",
    lengths.map fun (length, high) => Compiler.steadyElement length high⟩)]

def pulseEnsemble : Ensemble ℚ := ⟨"pulse", [("pulse", 1)], false, none, none⟩

/-- A short low element behind low samples is no trouble: the edge at bin zero is one of the loop,
and the pulse counts once. -/
theorem loopEdges_of_low_end :
    ∃ a played rising falling,
      pulseEnsemble.analyse (pulseBlocks [(2, true), (2, false), (1 / 5, false)]) 1 = .ok a ∧
      1 ≤ a.samples ∧ a.bins = [2, 2, 0] ∧ a.rising.get? "d_ch1" = some rising ∧
      a.falling.get? "d_ch1" = some falling ∧
      LoopEdges (Compiler.steadyCompiler.writtenLevels pulseEnsemble 0 a played "d_ch1")
        rising falling ∧ 0 ∈ rising := by
  have ran : (match pulseEnsemble.analyse
        (pulseBlocks [(2, true), (2, false), (1 / 5, false)]) 1 with
    | .ok a => some (a.bins, a.samples, a.digital.contains "d_ch1", a.rising.get? "d_ch1",
        a.falling.get? "d_ch1")
    | .error _ => none) = some ([2, 2, 0], 4, true, some [0], some [2]) := by decide +kernel
  have ends : (match pulseEnsemble.played
        (pulseBlocks [(2, true), (2, false), (1 / 5, false)]) with
    | .ok played => some (levelsOf (·.isHigh "d_ch1") played [2, 2, 0],
        loopLevel (·.isHigh "d_ch1") played)
    | .error _ => none) = some ([true, true, false, false], false) := by decide +kernel
  cases accepted : pulseEnsemble.analyse
      (pulseBlocks [(2, true), (2, false), (1 / 5, false)]) 1 with
  | error f => rw [accepted] at ran; cases ran
  | ok a =>
    rw [accepted] at ran
    simp only [Option.some.injEq, Prod.mk.injEq] at ran
    obtain ⟨bins, samples, digital, rising, falling⟩ := ran
    have filled : 1 ≤ a.samples := by rw [samples]; decide
    obtain ⟨played, plays, channels, -⟩ := loopEdges_iff_ends_heard accepted filled
    rw [plays] at ends
    simp only [Option.some.injEq, Prod.mk.injEq] at ends
    obtain ⟨rises, falls, sameRises, sameFalls, edges⟩ :=
      channels "d_ch1" (List.contains_iff_mem.mp digital)
    have heard : ¬ EndsUnheard (fun e : Element ℚ => e.isHigh "d_ch1") played a.bins := by
      rintro ⟨-, differs⟩
      rw [bins, ends.1, ends.2] at differs
      cases differs
    have looped := (edges Compiler.steadyCompiler 0).mpr heard
    cases Option.some.inj (rising.symm.trans sameRises)
    exact ⟨a, played, _, falls, rfl, filled, bins, rising, sameFalls, looped, List.mem_cons_self⟩

/-- The level is high at every sample, and a low element that is never heard makes it rise once in
a loop and never fall, and count one laser pulse. -/
theorem not_loopEdges_of_unheard_end :
    ∃ a played rising falling s,
      pulseEnsemble.analyse (pulseBlocks [(2, true), (1 / 5, false)]) 1 = .ok a ∧
      1 ≤ a.samples ∧
      pulseEnsemble.played (pulseBlocks [(2, true), (1 / 5, false)]) = .ok played ∧
      a.rising.get? "d_ch1" = some rising ∧ a.falling.get? "d_ch1" = some falling ∧
      Compiler.steadyCompiler.writtenLevels pulseEnsemble 0 a played "d_ch1" = [true, true] ∧
      ¬ LoopEdges (Compiler.steadyCompiler.writtenLevels pulseEnsemble 0 a played "d_ch1")
        rising falling ∧ rising.length ≠ falling.length ∧
      pulseEnsemble.summary (pulseBlocks [(2, true), (1 / 5, false)]) 1 "d_ch1" none = .ok s ∧
      s.lasers = 1 ∧ cyclicRises (levelsOf (·.isHigh "d_ch1") played a.bins) = 0 := by
  have ran : (match pulseEnsemble.analyse (pulseBlocks [(2, true), (1 / 5, false)]) 1,
        pulseEnsemble.played (pulseBlocks [(2, true), (1 / 5, false)]),
        pulseEnsemble.summary (pulseBlocks [(2, true), (1 / 5, false)]) 1 "d_ch1" none with
    | .ok a, .ok played, .ok s => decide (a.samples = 2 ∧ s.lasers = 1 ∧
        a.rising.get? "d_ch1" = some [0] ∧ a.falling.get? "d_ch1" = some [] ∧
        Compiler.steadyCompiler.writtenLevels pulseEnsemble 0 a played "d_ch1" = [true, true] ∧
        cyclicRises (levelsOf (·.isHigh "d_ch1") played a.bins) = 0)
    | _, _, _ => false) = true := by decide +kernel
  cases accepted : pulseEnsemble.analyse (pulseBlocks [(2, true), (1 / 5, false)]) 1 with
  | error f => rw [accepted] at ran; cases ran
  | ok a =>
    cases plays : pulseEnsemble.played (pulseBlocks [(2, true), (1 / 5, false)]) with
    | error f => rw [accepted, plays] at ran; cases ran
    | ok played =>
      cases summed : pulseEnsemble.summary (pulseBlocks [(2, true), (1 / 5, false)]) 1 "d_ch1"
          none with
      | error f => rw [accepted, plays, summed] at ran; cases ran
      | ok s =>
        rw [accepted, plays, summed] at ran
        obtain ⟨samples, lasers, rising, falling, written, rises⟩ := of_decide_eq_true ran
        refine ⟨a, played, [0], [], s, rfl, by rw [samples]; decide, rfl, rising, falling, written,
          fun looped => ?_, by decide, rfl, lasers, rises⟩
        exact absurd looped.balanced (by decide)

end PulseBench
