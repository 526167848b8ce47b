import Mathlib.Data.List.Basic
import PulseBench.Compile.Playback

/-!
# Laser pulses of a playback

A measurement counts photons while the laser is on. What it can tell of the pulses before
a laser pulse goes back to the laser pulse before that one; both together are a `Shot`.

Programs of measurements are made of runs: pulses, one laser pulse, and a rest of the
readout in the dark. A shot of such a program begins with the rest of the run before.

Results:
1. `length_shotsBehind`: there are as many shots as elements with the laser on.
2. `shotsBehind_runs`: the shots of a playback that is made of runs.
-/

namespace PulseBench

variable {α : Type}

/-! ## 1. Shots -/

/-- The laser is on. -/
def Played.isLit (p : Played α) : Bool := p.element.laser

/-- A laser pulse, with all that was played since the one before. -/
structure Shot (α : Type) where
  before : List (Played α)
  laser : Played α

/-- The shots of a playback, if something was played before. -/
def shotsBehind (before : List (Played α)) : List (Played α) → List (Shot α)
  | [] => []
  | p :: rest =>
      if p.isLit then ⟨before, p⟩ :: shotsBehind [] rest else shotsBehind (before ++ [p]) rest

/-- The shots of a playback, in playback order. -/
def shots (played : List (Played α)) : List (Shot α) := shotsBehind [] played

theorem length_shotsBehind (before played : List (Played α)) :
    (shotsBehind before played).length = played.countP Played.isLit := by
  induction played generalizing before with
  | nil => rfl
  | cons p rest ih =>
    unfold shotsBehind
    split
    · rename_i lit
      rw [List.length_cons, ih, List.countP_cons_of_pos lit]
    · rename_i dark
      rw [ih, List.countP_cons_of_neg dark]

/-- What is played in the dark belongs to the next shot. -/
theorem shotsBehind_dark {dark : List (Played α)} (unlit : ∀ p ∈ dark, p.isLit = false)
    (before rest : List (Played α)) :
    shotsBehind before (dark ++ rest) = shotsBehind (before ++ dark) rest := by
  induction dark generalizing before with
  | nil => rw [List.nil_append, List.append_nil]
  | cons p dark ih =>
    rw [List.cons_append, shotsBehind, unlit p List.mem_cons_self, if_neg Bool.false_ne_true,
      ih fun q member => unlit q (List.mem_cons_of_mem _ member), List.append_assoc,
      List.singleton_append]

/-! ## 2. Runs -/

/-- Pulses, the laser pulse that reads them out, and the rest of the readout. -/
structure Run (α : Type) where
  pulses : List (Played α)
  laser : Played α
  rest : List (Played α)

namespace Run

def played (r : Run α) : List (Played α) := r.pulses ++ r.laser :: r.rest

/-- The laser is on once. -/
structure Once (r : Run α) : Prop where
  pulses : ∀ p ∈ r.pulses, p.isLit = false
  laser : r.laser.isLit = true
  rest : ∀ p ∈ r.rest, p.isLit = false

end Run

/-- Every run is a shot, and begins with the rest of the run before. -/
theorem shotsBehind_runs {runs : List (Run α)} (once : ∀ r ∈ runs, r.Once)
    (before : List (Played α)) :
    shotsBehind before (runs.flatMap Run.played) =
      List.zipWith (fun earlier r => ⟨earlier ++ r.pulses, r.laser⟩)
        (before :: runs.map Run.rest) runs := by
  induction runs generalizing before with
  | nil => rfl
  | cons r runs ih =>
    have own := once r List.mem_cons_self
    have others := ih (fun q member => once q (List.mem_cons_of_mem _ member)) r.rest
    rw [List.flatMap_cons, Run.played, List.append_assoc, List.cons_append,
      shotsBehind_dark own.pulses, shotsBehind, if_pos own.laser, shotsBehind_dark own.rest,
      List.nil_append, others]
    rfl

/-- The shot of a run. It begins with the elements that every run ends with. -/
theorem getElem?_shots_runs {runs : List (Run α)} (once : ∀ r ∈ runs, r.Once)
    {rest : List (Element α)} (same : ∀ r ∈ runs, r.rest.map Played.element = rest) {place : Nat}
    {r : Run α} (found : runs[place]? = some r) :
    ∃ earlier, (shots (runs.flatMap Run.played))[place]? = some ⟨earlier ++ r.pulses, r.laser⟩ ∧
      earlier.map Played.element = if place = 0 then [] else rest := by
  obtain ⟨earlier, behind, known⟩ : ∃ earlier, ([] :: runs.map Run.rest)[place]? = some earlier ∧
      earlier.map Played.element = if place = 0 then [] else rest := by
    cases place with
    | zero => exact ⟨[], rfl, rfl⟩
    | succ place =>
      have within : place + 1 < runs.length := (List.getElem?_eq_some_iff.mp found).1
      have previous := List.getElem?_eq_getElem (show place < runs.length by omega)
      refine ⟨_, ?_, same _ (List.mem_of_getElem? previous)⟩
      rw [List.getElem?_cons_succ, List.getElem?_map, previous]
      rfl
  refine ⟨earlier, ?_, known⟩
  rw [shots, shotsBehind_runs once, List.getElem?_zipWith_eq_some]
  exact ⟨earlier, r, behind, found, rfl⟩

end PulseBench
