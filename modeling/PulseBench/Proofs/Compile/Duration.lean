import Mathlib.Algebra.BigOperators.Ring.List
import Mathlib.Algebra.CharZero.Defs
import Mathlib.Tactic.FieldSimp
import PulseBench.Proofs.Compile.Playback
import PulseBench.Proofs.Lawful

/-!
# How long a program lasts

The elements of a block grow with every repetition, each by its own increment. Two computations
give the time that a block takes: a closed form in the number of repetitions, which plays nothing,
and the timeline, which adds up one element after the other. Where nothing is rounded they agree.

Results:
1. `Block.totalLength_eq_sum`: the closed form, one repetition after the other.
2. `Block.value_totalLength_eq_time`: it is the time of the playback.
3. `Ensemble.ideal_eq_time`: so is the ideal time of an analysis.
-/

namespace PulseBench

variable {α K : Type} [Scalar α] [Field K] {r : Scalar.Reading α K}

theorem Element.value_lengthAt (exact : r.Arithmetic) (e : Element α) (repetition : Nat) :
    r.value (e.lengthAt repetition) = r.value e.length + repetition * r.value e.increment := by
  rw [lengthAt, r.add, r.mul, exact.ofNat]

/-! ## 1. The closed form -/

namespace Block

/-- One repetition lasts as long as the first, and the increments of those before it. -/
theorem sum_lengthAt (exact : r.Arithmetic) (b : Block α) (repetition : Nat) :
    (b.elements.map fun e => r.value (e.lengthAt repetition)).sum =
      r.value b.length + repetition * r.value b.increment := by
  simp only [Element.value_lengthAt exact]
  rw [List.sum_map_add, List.sum_map_mul_left, length, increment, r.sum, r.sum, List.map_map,
    List.map_map]
  rfl

theorem value_totalLength (exact : r.Arithmetic) (b : Block α) (repetitions : Nat) :
    r.value (b.totalLength repetitions) =
      r.value b.length * repetitions +
        r.value b.increment * repetitions * (repetitions - 1) / 2 := by
  simp only [totalLength, r.add, r.mul, r.div, exact.sub, exact.ofNat, exact.one, exact.two]

theorem totalLength_eq_sum [CharZero K] (exact : r.Arithmetic) (b : Block α) (repetitions : Nat) :
    r.value (b.totalLength repetitions) = ((List.range repetitions).map fun repetition =>
      (b.elements.map fun e => r.value (e.lengthAt repetition)).sum).sum := by
  induction repetitions with
  | zero => simp [value_totalLength exact]
  | succ n ih =>
    rw [List.sum_range_succ, ← ih, sum_lengthAt exact, value_totalLength exact,
      value_totalLength exact]
    push_cast
    field_simp
    ring

end Block

/-! ## 2. Playback -/

/-- How long elements are played, one after the other. -/
def Scalar.Reading.time (r : Scalar.Reading α K) (played : List (Played α)) : K :=
  (played.map fun p => r.value p.length).sum

theorem Scalar.Reading.time_append (first second : List (Played α)) :
    r.time (first ++ second) = r.time first + r.time second := by
  rw [time, List.map_append, List.sum_append]
  rfl

theorem Block.time_played (b : Block α) (repetitions : Nat) :
    r.time (b.played repetitions) = ((List.range repetitions).map fun repetition =>
      (b.elements.map fun e => r.value (e.lengthAt repetition)).sum).sum := by
  rw [Scalar.Reading.time, played, List.map_flatMap, List.flatMap_def, List.sum_flatten,
    List.map_map]
  simp only [List.map_map]
  rfl

theorem Block.value_totalLength_eq_time [CharZero K] (exact : r.Arithmetic) (b : Block α)
    (repetitions : Nat) : r.value (b.totalLength repetitions) = r.time (b.played repetitions) :=
  (b.totalLength_eq_sum exact repetitions).trans (b.time_played repetitions).symm

/-! ## 3. Analysis -/

theorem Timeline.run_ideal_eq_foldl (t : Timeline α) (durations : List α) :
    (t.run durations).ideal = durations.foldl (· + ·) t.ideal := by
  induction durations generalizing t with
  | nil => rfl
  | cons duration rest ih => exact ih (t.advance duration)

namespace Ensemble

variable {e : Ensemble α} {store : Roster (Block α)}

/-- The timeline of an accepted ensemble passes all that is played. -/
theorem ideal_eq_time {rate : α} {a : Analysis α} (analysed : e.analyse store rate = .ok a) :
    ∃ played, e.played store = .ok played ∧ r.value a.ideal = r.time played := by
  obtain ⟨played, known⟩ := analyse_eq_ok analysed
  refine ⟨played, known.plays, ?_⟩
  unfold analyse at analysed
  rw [known.rate_positive] at analysed
  obtain ⟨⟨first, elements⟩, listed, timed⟩ := bind_eq_ok.mp analysed
  obtain ⟨durations, timed, made⟩ := bind_eq_ok.mp timed
  obtain ⟨plays, -⟩ := consistentPlayback_eq_ok listed
  obtain rfl : played = elements := Except.ok.inj (known.plays.symm.trans plays)
  obtain ⟨rfl, -⟩ := durations_eq_ok timed
  cases made
  dsimp only
  rw [Timeline.run_ideal_eq_foldl, r.foldl_add, Timeline.start, r.zero, zero_add, List.map_map]
  rfl

omit [Scalar α] in
/-- An entry of the block list plays the block that is stored under its name. -/
theorem play_eq_ok {name : String} {repetitions : Nat} {part : List (Played α)}
    (done : e.play store name repetitions = .ok part) :
    ∃ b, store.get? name = some b ∧ part = b.played repetitions := by
  unfold play at done
  cases found : store.get? name with
  | none =>
    rw [found] at done
    cases done
  | some b =>
    simp only [found] at done
    split at done
    · cases done
    · split at done
      · cases done
      · cases done
        exact ⟨b, rfl, rfl⟩

end Ensemble

end PulseBench
