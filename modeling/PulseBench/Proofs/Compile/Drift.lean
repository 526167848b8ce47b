import PulseBench.Proofs.Compile.Playback
import PulseBench.Proofs.Exact

/-!
# Bins never drift

On exact numbers the timeline emits, after every prefix of the durations, the
nearest number of bins of the total duration so far. `Timeline.OnTime` is the
invariant: the emitted bins are the nearest ones of the ideal time. It holds at
the start and behind every duration that is not negative, because rounding is
monotone there and the emitted bins never have to wait for the ideal time.

Results:
1. `OnTime.run`: the invariant along a whole list of durations.
2. `OnTime.binsFor_eq`: one element is never off by a whole bin.
3. `bins_never_drift`: both for every list, and what they mean for an ensemble.
-/

namespace PulseBench.Timeline

/-- The emitted bins are the nearest ones of the ideal time. -/
structure OnTime (t : Timeline ℚ) : Prop where
  rate_pos : 0 < t.rate
  ideal_nonneg : 0 ≤ t.ideal
  emitted_eq : (t.emitted : ℤ) = Exact.nearest (t.ideal * t.rate)

theorem run_rate (t : Timeline ℚ) (durations : List ℚ) : (t.run durations).rate = t.rate := by
  induction durations generalizing t with
  | nil => rfl
  | cons duration rest ih => rw [run_cons, ih]; rfl

theorem run_ideal (t : Timeline ℚ) (durations : List ℚ) :
    (t.run durations).ideal = t.ideal + durations.sum := by
  induction durations generalizing t with
  | nil => exact (add_zero _).symm
  | cons duration rest ih =>
    rw [run_cons, ih, List.sum_cons, ← add_assoc]
    rfl

theorem start_ideal (rate : ℚ) : (start rate).ideal = 0 := Exact.zero_literal

namespace OnTime

variable {t : Timeline ℚ} {duration : ℚ}

theorem start {rate : ℚ} (positive : 0 < rate) : OnTime (start rate) where
  rate_pos := positive
  ideal_nonneg := (start_ideal rate).ge
  emitted_eq := by
    rw [start_ideal, zero_mul, Exact.nearest_zero]
    rfl

/-- The two summands that the rounding of the next ideal time is about. -/
theorem scaled (duration : ℚ) (t : Timeline ℚ) :
    (t.advance duration).ideal * t.rate = t.ideal * t.rate + duration * t.rate :=
  add_mul t.ideal duration t.rate

theorem advance_emitted (h : OnTime t) (nonneg : 0 ≤ duration) :
    ((t.advance duration).emitted : ℤ) =
      Exact.nearest (t.ideal * t.rate + duration * t.rate) := by
  have before : 0 ≤ t.ideal * t.rate := mul_nonneg h.ideal_nonneg h.rate_pos.le
  have step : 0 ≤ duration * t.rate := mul_nonneg nonneg h.rate_pos.le
  have target := Exact.toBins_eq (add_nonneg before step)
  rw [← scaled] at target
  have grows := Exact.nearest_le_nearest_add before step
  rw [← h.emitted_eq, ← scaled, ← target] at grows
  -- The maximum in `advance` is the target, since the target did not fall behind.
  have reached : (t.advance duration).emitted =
      Scalar.toBins ((t.advance duration).ideal * t.rate) :=
    Nat.max_eq_right (Int.ofNat_le.mp grows)
  rw [reached, target, scaled]

theorem advance (h : OnTime t) (nonneg : 0 ≤ duration) : OnTime (t.advance duration) where
  rate_pos := h.rate_pos
  ideal_nonneg := add_nonneg h.ideal_nonneg nonneg
  emitted_eq := by
    rw [h.advance_emitted nonneg, ← scaled]
    rfl

theorem run (h : OnTime t) {durations : List ℚ} (nonneg : ∀ d ∈ durations, 0 ≤ d) :
    OnTime (t.run durations) := by
  induction durations generalizing t with
  | nil => exact h
  | cons duration rest ih =>
    have first := nonneg duration List.mem_cons_self
    exact ih (h.advance first) fun d member => nonneg d (List.mem_cons_of_mem _ member)

/-- An element gets the whole number of bins below or above its own length. -/
theorem binsFor_eq (h : OnTime t) (nonneg : 0 ≤ duration) :
    (t.binsFor duration : ℤ) = ⌊duration * t.rate⌋ ∨
      (t.binsFor duration : ℤ) = ⌈duration * t.rate⌉ := by
  have before : 0 ≤ t.ideal * t.rate := mul_nonneg h.ideal_nonneg h.rate_pos.le
  have step : 0 ≤ duration * t.rate := mul_nonneg nonneg h.rate_pos.le
  have parts := add_binsFor t duration
  have gap : (t.binsFor duration : ℤ) =
      Exact.nearest (t.ideal * t.rate + duration * t.rate) -
        Exact.nearest (t.ideal * t.rate) := by
    rw [← h.advance_emitted nonneg, ← h.emitted_eq, ← parts]
    push_cast
    ring
  rw [gap]
  exact Exact.nearest_add before step

end OnTime

/-- After every prefix, the emitted bins are the nearest ones of the sum of the durations. -/
theorem emitted_run_start {rate : ℚ} (positive : 0 < rate) {durations : List ℚ}
    (nonneg : ∀ d ∈ durations, 0 ≤ d) :
    (((start rate).run durations).emitted : ℤ) = Exact.nearest (durations.sum * rate) := by
  rw [((OnTime.start positive).run nonneg).emitted_eq, run_rate, run_ideal, start_ideal, zero_add]
  rfl

theorem bins_start_eq {rate : ℚ} (positive : 0 < rate) {durations : List ℚ}
    (nonneg : ∀ d ∈ durations, 0 ≤ d) {k : Nat} {duration : ℚ} {n : Nat}
    (listed : durations[k]? = some duration) (given : ((start rate).bins durations)[k]? = some n) :
    (n : ℤ) = ⌊duration * rate⌋ ∨ (n : ℤ) = ⌈duration * rate⌉ := by
  have before : ∀ d ∈ durations.take k, 0 ≤ d := fun d member =>
    nonneg d (List.mem_of_mem_take member)
  have onTime := (OnTime.start positive).run before
  rw [bins_getElem?, listed, Option.map_some, Option.some.injEq] at given
  have bound := onTime.binsFor_eq (nonneg duration (List.mem_of_getElem? listed))
  rw [run_rate, given] at bound
  exact bound

theorem rate_pos_of_isPositive {rate : ℚ} (h : Scalar.isPositive rate = true) : 0 < rate := by
  have above : (0.0 : ℚ) < rate := by
    simpa [Scalar.isPositive, Scalar.isFinite] using h
  rw [← Exact.zero_literal]
  exact above

/-- Bins never drift. Whatever the durations are, the bins given to a prefix are
the bins emitted behind it. If no duration is negative, they are the nearest
number of bins of the whole prefix, and every single duration gets the whole
number of bins just below or just above its own length. So an accepted ensemble
has one entry of bins for every played element, over all blocks and repetitions,
and as many samples as its total duration has bins. -/
theorem bins_never_drift (rate : ℚ) (durations : List ℚ) :
    (∀ k : Nat, (((start rate).bins durations).take k).sum =
      ((start rate).run (durations.take k)).emitted) ∧
    (0 < rate → (∀ d ∈ durations, 0 ≤ d) →
      (∀ k : Nat, (((start rate).run (durations.take k)).emitted : ℤ) =
        Exact.nearest ((durations.take k).sum * rate)) ∧
      ∀ (k : Nat) duration n, durations[k]? = some duration →
        ((start rate).bins durations)[k]? = some n →
        (n : ℤ) = ⌊duration * rate⌋ ∨ (n : ℤ) = ⌈duration * rate⌉) ∧
    ∀ (e : Ensemble ℚ) (blocks : Roster (Block ℚ)) (a : Analysis ℚ),
      e.analyse blocks rate = .ok a →
      ∃ played, e.played blocks = .ok played ∧
        a.bins.length = played.length ∧
        a.bins.sum = a.samples ∧
        (a.samples : ℤ) = Exact.nearest ((played.map Played.length).sum * rate) := by
  refine ⟨fun k => ?_, fun positive nonneg => ⟨fun k => ?_, fun k duration n => ?_⟩, ?_⟩
  · rw [bins_take, sum_bins_start]
  · exact emitted_run_start positive fun d member => nonneg d (List.mem_of_mem_take member)
  · exact bins_start_eq positive nonneg
  · intro e blocks a accepted
    obtain ⟨played, analysed⟩ := Ensemble.analyse_eq_ok accepted
    refine ⟨played, analysed.plays, analysed.length_bins, analysed.sum_bins, ?_⟩
    rw [analysed.samples]
    refine emitted_run_start (rate_pos_of_isPositive analysed.rate_positive) fun d member => ?_
    obtain ⟨p, inPlayback, rfl⟩ := List.mem_map.mp member
    have valid := (analysed.valid p inPlayback).1
    rw [← Exact.zero_literal]
    exact valid

/-- One and a half bins each: the halves alternate instead of adding up. -/
example : (start (1 : ℚ)).bins [3 / 2, 3 / 2, 3 / 2, 3 / 2] = [2, 1, 2, 1] := by decide +kernel

end PulseBench.Timeline
