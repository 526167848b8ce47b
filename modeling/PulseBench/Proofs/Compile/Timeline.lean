import Mathlib.Algebra.Ring.Nat
import PulseBench.Compile.Timeline

/-!
# What a timeline gives away

The bins of a list of durations telescope: whatever the durations are, the bins
given to them are the bins emitted since the start of the list.
-/

namespace PulseBench.Timeline

variable {α : Type} [Scalar α]

theorem run_cons (t : Timeline α) (duration : α) (rest : List α) :
    t.run (duration :: rest) = (t.advance duration).run rest := rfl

theorem emitted_le_advance (t : Timeline α) (duration : α) :
    t.emitted ≤ (t.advance duration).emitted := Nat.le_max_left _ _

theorem add_binsFor (t : Timeline α) (duration : α) :
    t.emitted + t.binsFor duration = (t.advance duration).emitted :=
  Nat.add_sub_cancel' (emitted_le_advance t duration)

theorem bins_length (t : Timeline α) (durations : List α) :
    (t.bins durations).length = durations.length := by
  induction durations generalizing t with
  | nil => rfl
  | cons duration rest ih => simp only [bins, List.length_cons, ih]

theorem bins_take (t : Timeline α) (durations : List α) (k : Nat) :
    (t.bins durations).take k = t.bins (durations.take k) := by
  induction durations generalizing t k with
  | nil => simp [bins]
  | cons duration rest ih =>
    cases k with
    | zero => rfl
    | succ k => simp only [bins, List.take_succ_cons, ih]

/-- No bin is lost or given twice: saturation included, for durations of any sign. -/
theorem emitted_add_sum_bins (t : Timeline α) (durations : List α) :
    t.emitted + (t.bins durations).sum = (t.run durations).emitted := by
  induction durations generalizing t with
  | nil => rfl
  | cons duration rest ih =>
    rw [run_cons, ← ih, bins, List.sum_cons, ← add_binsFor, Nat.add_assoc]

theorem sum_bins_start (rate : α) (durations : List α) :
    ((start rate).bins durations).sum = ((start rate).run durations).emitted := by
  rw [← emitted_add_sum_bins]
  exact (Nat.zero_add _).symm

/-- The bins of one duration are those of the timeline behind the durations before it. -/
theorem bins_getElem? (t : Timeline α) (durations : List α) (k : Nat) :
    (t.bins durations)[k]? = durations[k]?.map (t.run (durations.take k)).binsFor := by
  induction durations generalizing t k with
  | nil => simp [bins]
  | cons duration rest ih =>
    cases k with
    | zero => rfl
    | succ k => simp only [bins, List.getElem?_cons_succ, List.take_succ_cons, run_cons, ih]

end PulseBench.Timeline
