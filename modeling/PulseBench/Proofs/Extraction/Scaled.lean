import PulseBench.Proofs.Counting.Grid
import PulseBench.Proofs.Extraction.Trains

/-!
# Pulses and the number of sweeps

Counts accumulate over sweeps, and the thresholds are fractions of the greatest count. So a trace
with all its counts multiplied by the same factor has the same bins above either threshold: the
search for pulses passes them alike, and what is cut out has its counts multiplied.

Arithmetic is exact here. Where products are rounded, a count right at a threshold may fall to
either side.

Results:
1. `maxCount_scaled`, `reaches_scaled`, `pulses_scaled`: the pulses of a multiplied trace.
2. `windows_scaled`: its windows.
3. `extraction_follows_sweeps`: the rule, and the method as it is found in a registry.
-/

namespace PulseBench

/-- The same pulses, with their counts multiplied. -/
def Extraction.scaled (factor : Nat) (r : Extraction) : Extraction :=
  { r with counts := r.counts.map (factor * ·) }

variable {factor : Nat}

/-! ## 1. Pulses -/

namespace Threshold

theorem maxCount_scaled (factor : Nat) (counts : List Nat) :
    maxCount (counts.map (factor * ·)) = factor * maxCount counts := by
  have fold : (counts.foldl fun greatest count => max greatest (factor * count)) (factor * 0) =
      factor * counts.foldl max 0 :=
    List.foldl_hom (factor * ·) fun greatest count => Nat.mul_max_mul_left factor greatest count
  rw [maxCount, List.foldl_map]
  exact fold

/-- A multiplied count reaches a threshold that is multiplied alike. -/
theorem reaches_scaled (positive : 0 < factor) (fraction : ℚ) (greatest : Nat) (counts : List Nat) :
    reaches (fraction * Scalar.ofNat (factor * greatest)) (counts.map (factor * ·)) =
      reaches (fraction * Scalar.ofNat greatest) counts := by
  have alike (count : Nat) :
      fraction * (Scalar.ofNat (factor * greatest) : ℚ) ≤ Scalar.ofNat (factor * count) ↔
        fraction * (Scalar.ofNat greatest : ℚ) ≤ Scalar.ofNat count := by
    have above : (0 : ℚ) < factor := Nat.cast_pos.mpr positive
    change fraction * ((factor * greatest : Nat) : ℚ) ≤ ((factor * count : Nat) : ℚ) ↔
      fraction * (greatest : ℚ) ≤ count
    rw [Nat.cast_mul, Nat.cast_mul, mul_left_comm, mul_le_mul_iff_right₀ above]
  funext bin
  rw [reaches, reaches, List.getElem?_map, Option.any_map]
  simp only [alike]

theorem pulses_scaled (positive : 0 < factor) (high low : ℚ) (gap : Nat) (counts : List Nat) :
    pulses (high * Scalar.ofNat (maxCount (counts.map (factor * ·))))
        (low * Scalar.ofNat (maxCount (counts.map (factor * ·)))) gap (counts.map (factor * ·)) =
      pulses (high * Scalar.ofNat (maxCount counts)) (low * Scalar.ofNat (maxCount counts)) gap
        counts := by
  rw [pulses_eq_upTo, pulses_eq_upTo, maxCount_scaled, reaches_scaled positive,
    reaches_scaled positive, List.length_map]

end Threshold

/-! ## 2. Windows -/

theorem countAt_scaled (factor : Nat) (counts : List Nat) (bin : Int) :
    countAt (counts.map (factor * ·)).toArray bin = factor * countAt counts.toArray bin := by
  cases bin with
  | ofNat place =>
    rw [countAt, countAt, List.getElem?_toArray, List.getElem?_toArray, List.getElem?_map]
    cases counts[place]? with
    | none => rfl
    | some count => rfl
  | negSucc place => rfl

theorem windows_scaled (factor : Nat) (counts : List Nat) (starts : List Int) (length : Nat) :
    windows (counts.map (factor * ·)) starts length =
      (windows counts starts length).map (factor * ·) := by
  refine Grid.eq_of_rows ?_ rfl
  simp only [windows, Grid.map, List.map_map, Function.comp_def, countAt_scaled]

/-! ## 3. Extraction -/

namespace Threshold

theorem extract_scaled (positive : 0 < factor) (counts : List Nat) (context : ExtractionContext ℚ)
    (params : ParamSet ℚ) :
    extract (counts.map (factor * ·)) context params =
      (extract counts context params).map (Extraction.scaled factor) := by
  have nothing : maxCount (counts.map (factor * ·)) = 0 ↔ maxCount counts = 0 := by
    rw [maxCount_scaled, Nat.mul_eq_zero]
    omega
  unfold extract
  refine bind_eq_map fun high => bind_eq_map fun low => ?_
  refine ite_eq_map Iff.rfl rfl (ite_eq_map nothing rfl ?_)
  refine bind_eq_map fun gap => bind_eq_map fun least => ?_
  simp only [pulses_scaled positive, windows_scaled]
  refine ite_eq_map Iff.rfl rfl (bind_eq_map fun window => ?_)
  rfl

/-- Extraction does not depend on how many sweeps were accumulated. From a trace with all counts
multiplied by the same factor, the same pulses are cut out with their counts multiplied, or the
same failure comes of it; so by the method of this name in every registry, whatever parameters it
is given. -/
theorem extraction_follows_sweeps (positive : 1 ≤ factor) (counts : List Nat)
    (context : ExtractionContext ℚ) (params : ParamSet ℚ) :
    extract (counts.map (factor * ·)) context params =
        (extract counts context params).map (Extraction.scaled factor) ∧
      ∀ (extra : List String) (m : ExtractionMethod ℚ),
        (ExtractionMethod.registry extra).find "ungated_threshold" = .ok m →
        m.extract (.trace (counts.map (factor * ·))) context params =
          (m.extract (.trace counts) context params).map (Extraction.scaled factor) := by
  refine ⟨extract_scaled positive counts context params, fun extra m found => ?_⟩
  obtain rfl : ExtractionMethod.threshold = m :=
    Except.ok.inj ((ExtractionMethod.find_threshold extra).symm.trans found)
  rw [ExtractionMethod.threshold, ExtractionMethod.extract_trace, ExtractionMethod.extract_trace]
  exact bind_eq_map (extract_scaled positive counts context)

/-- A dark bin is bridged, and two of them are not; in three times the sweeps as in one. -/
theorem extraction_follows_sweeps_thrice :
    1 ≤ 3 ∧ ∃ r, ExtractionMethod.threshold.extract
        (.trace ([0, 4, 9, 1, 8, 1, 0, 6, 6].map (3 * ·))) ⟨1e-8, 2, []⟩ ∅ = .ok r ∧
      r.rising = [2, 7] ∧ r.falling = [5, 9] ∧
      r.counts.rows = [[27, 3, 24], [18, 18, 0]] := by
  have once : (ExtractionMethod.threshold.extract (.trace [0, 4, 9, 1, 8, 1, 0, 6, 6])
      ⟨1e-8, 2, []⟩ ∅).toOption.map (fun r => (r.rising, r.falling, r.counts.rows)) =
      some ([2, 7], [5, 9], [[9, 1, 8], [6, 6, 0]]) := by
    decide +kernel
  obtain ⟨r, extracted, parts⟩ := Option.map_eq_some_iff.mp once
  simp only [Prod.mk.injEq] at parts
  obtain ⟨rising, falling, rows⟩ := parts
  have thrice := (extraction_follows_sweeps (by decide : 1 ≤ 3) [0, 4, 9, 1, 8, 1, 0, 6, 6]
    ⟨1e-8, 2, []⟩ ∅).2 [] _ (ExtractionMethod.find_threshold [])
  rw [toOption_eq_some.mp extracted] at thrice
  refine ⟨by decide, r.scaled 3, thrice, rising, falling, ?_⟩
  exact congrArg (List.map (List.map (3 * ·))) rows

end Threshold

end PulseBench
