import Mathlib.Data.List.DropRight
import PulseBench.Proofs.Recipe.Axis

/-!
# The distance of π pulses

Dynamical decoupling plays trains of π pulses, and its axis states how far the centres of
two pulses are apart, as a time or as a frequency. Between two pulses lies an idle element
that is shorter than this distance by one pulse, and has no length if a pulse is longer
than the distance.

A clipped idle time is played as it is, so that the pulses are further apart than was
asked for. `xy8_freq` states the frequency that is played then. `xy8_tau` does not: only
its first idle time is clipped, the others grow from there, and the axis has the times
that were asked for.

Results:
1. `spacings_intersperse`: the distances in a train.
2. `train_before`: the train that comes before a laser pulse.
3. `apart_eq_iff`: the distances that are played, and when these are stated.
4. `pulses_apart`: the recipes as they are found in a registry.
-/

namespace PulseBench

section Trains

variable {α : Type} [Scalar α]

/-! ## 1. Distances in a train -/

/-- The distances between the centres of pulses, in a train of pulses with idle elements between
them. -/
def spacings : List (Played α) → List α
  | a :: gap :: b :: rest => (a.length / 2.0 + gap.length + b.length / 2.0) :: spacings (b :: rest)
  | _ => []

/-- Pulses of one length, with one idle element between any two of them, are equally far apart. -/
theorem spacings_intersperse {pulses : List (Played α)} {width : α}
    (wide : ∀ pulse ∈ pulses, pulse.length = width) (gap : Played α) :
    spacings (pulses.intersperse gap) =
      List.replicate (pulses.length - 1) (width / 2.0 + gap.length + width / 2.0) := by
  induction pulses with
  | nil => rfl
  | cons a rest ih =>
    cases rest with
    | nil => rfl
    | cons b rest =>
      obtain ⟨behind, same⟩ : ∃ behind, (b :: rest).intersperse gap = b :: behind := by
        cases rest <;> exact ⟨_, rfl⟩
      have others := ih fun pulse member => wide pulse (List.mem_cons_of_mem _ member)
      rw [List.intersperse_cons_cons, same, spacings, ← same, others, wide a (by simp),
        wide b (by simp)]
      rfl

omit [Scalar α] in
theorem map_intersperse {β : Type} (f : α → β) (items : List α) (between : α) :
    (items.intersperse between).map f = (items.map f).intersperse (f between) := by
  induction items with
  | nil => rfl
  | cons first rest ih =>
    cases rest with
    | nil => rfl
    | cons second rest =>
      rw [List.intersperse_cons_cons, List.map_cons, List.map_cons, ih]
      rfl

/-! ## 2. The train of a shot -/

/-- The train before a laser pulse: what is played before the last idle element and the final pulse.
A train of so many cycles has eight times as many pulses. -/
def Shot.train (shot : Shot α) (order : Nat) : List (Played α) :=
  (shot.before.rdrop 2).rtake (2 * (8 * order) - 1)

namespace Sweeping

theorem length_piPulses (c : RecipeContext α) (order : Nat) :
    (piPulses c order).length = 8 * order := by
  simp [piPulses, Recipe.xy8Cycle, Nat.mul_comm]

theorem length_xy8Train (c : RecipeContext α) (tau : Element α) (order : Nat) :
    (Recipe.xy8Train c tau order).length = 2 * (8 * order) - 1 := by
  rw [← length_piPulses c order]
  exact List.length_intersperse

/-- Between the first two and the last two elements of a point lies the train. -/
theorem train_before (c : RecipeContext α) (idle increment : α) (order repetition : Nat)
    (last : Element α) (earlier : List (Played α)) (laser : Played α) :
    (Shot.mk (earlier ++ (train c idle increment order ++ [last]).map (⟨·, repetition⟩))
      laser).train order =
        (Recipe.xy8Train c (c.idle idle increment) order).map (⟨·, repetition⟩) := by
  have shape : earlier ++ (train c idle increment order ++ [last]).map (Played.mk · repetition) =
      (earlier ++ [c.halfPi, c.idle (idle / 2.0) (increment / 2.0)].map (⟨·, repetition⟩)) ++
        (Recipe.xy8Train c (c.idle idle increment) order).map (⟨·, repetition⟩) ++
        [⟨c.idle (idle / 2.0) (increment / 2.0), repetition⟩] ++ [⟨last, repetition⟩] := by
    simp [train]
  have long : ((Recipe.xy8Train c (c.idle idle increment) order).map
      (Played.mk · repetition)).length = 2 * (8 * order) - 1 := by
    rw [List.length_map, length_xy8Train]
  rw [Shot.train, shape, List.rdrop_concat_succ, List.rdrop_concat_succ, List.rdrop_zero, ← long,
    List.rtake, List.length_append, Nat.add_sub_cancel, List.drop_left]

/-- The distances in a train. -/
theorem spacings_train (c : RecipeContext α) (tau : Element α) (order repetition : Nat) :
    spacings ((Recipe.xy8Train c tau order).map (⟨·, repetition⟩)) =
      List.replicate (8 * order - 1)
        ((c.rotation 0.5 0.0).lengthAt repetition / 2.0 + tau.lengthAt repetition +
          (c.rotation 0.5 0.0).lengthAt repetition / 2.0) := by
  have wide : ∀ pulse ∈ (piPulses c order).map (Played.mk · repetition),
      pulse.length = (c.rotation 0.5 0.0).lengthAt repetition := by
    refine List.forall_mem_map.mpr fun e member => ?_
    obtain ⟨phase, rfl⟩ := mem_piPulses member
    exact (c.rotation_lengthAt ..).trans (c.rotation_lengthAt ..).symm
  rw [Recipe.xy8Train, map_intersperse, ← piPulses, spacings_intersperse wide, List.length_map,
    length_piPulses]
  rfl

end Sweeping

end Trains

namespace Sweeping

/-! ## 3. Stated distances -/

variable (s : Sweeping) (c : RecipeContext ℚ) (p : Parameters ℚ)

/-- How far the centres of two pulses are apart. -/
def apart (i : Nat) : ℚ :=
  match s with
  | xy8Frequency => max (spacing (p.value i)) (c.generation.rabiPeriod / 2)
  | _ => max p.start (c.generation.rabiPeriod / 2) + i * p.step

/-- The distance that a value of the axis stands for. -/
def distance (x : ℚ) : ℚ :=
  match s with
  | xy8Frequency => spacing x
  | _ => x

/-- No time is clipped that is stated without it. -/
def Fits : Prop := s = xy8Tau → c.generation.rabiPeriod / 2 ≤ p.start

theorem idleTime_add (time : ℚ) :
    idleTime c time + c.generation.rabiPeriod / 2 = max time (c.generation.rabiPeriod / 2) := by
  rw [idleTime, Scalar.clipped]
  split
  · rename_i positive
    norm_num at positive ⊢
    exact positive.le
  · rename_i negative
    norm_num at negative ⊢
    exact negative

variable {s c p}

theorem spacing_spacing (time : ℚ) : spacing (spacing time) = time := by
  unfold spacing
  norm_num
  ring

theorem xy8Played_eq (idle : ℚ) :
    Recipe.xy8Played c idle = spacing (idle + c.generation.rabiPeriod / 2) := by
  norm_num [Recipe.xy8Played, spacing]

/-- Frequencies are always stated as they are played, and times unless they are clipped. -/
theorem apart_eq_iff (decouples : s.decouples = true) (i : Nat) :
    s.apart c p i = s.distance (s.stated c p i) ↔ s.Fits c p := by
  cases s with
  | rabi | pulsedOdmr | ramsey | hahnEcho => cases decouples
  | xy8Tau =>
    have stated : (p.value i : ℚ) = p.start + i * p.step := rfl
    simp [apart, distance, Sweeping.stated, Fits, stated]
  | xy8Frequency =>
    simp [apart, distance, Sweeping.stated, Fits, xy8Played_eq, idleTime_add, spacing_spacing]

/-! ## 4. The recipes of a registry -/

/-- Before every laser pulse comes a train of the recipe with equally distant pulses, and the axis
states their distance exactly if no time is clipped that is stated without it. -/
structure StatesDistance (s : Sweeping) (c : RecipeContext ℚ) (p : Parameters ℚ) (rows : Nat)
    (played : List (Played ℚ)) (r : Readout ℚ) : Prop where
  points : r.axis.length = p.points
  train : ∀ i x, r.axis[i]? = some x → ∀ k < rows, ∃ shot tau,
    (shots played)[i * rows + k]? = some shot ∧
    (shot.train p.order).map Played.element = Recipe.xy8Train c tau p.order ∧
    spacings (shot.train p.order) = List.replicate (8 * p.order - 1) (s.apart c p i) ∧
    (s.apart c p i = s.distance x ↔ s.Fits c p)

/-- Two halves of a pulse, and an idle element. -/
theorem spacings_shot (c : RecipeContext ℚ) (idle increment : ℚ) (order repetition : Nat)
    (last : Element ℚ) (earlier : List (Played ℚ)) (laser : Played ℚ) :
    spacings ((Shot.mk (earlier ++ (train c idle increment order ++ [last]).map (⟨·, repetition⟩))
      laser).train order) =
        List.replicate (8 * order - 1)
          (idle + c.generation.rabiPeriod / 2 + repetition * increment) := by
  have pulse : (c.rotation 0.5 0.0).lengthAt repetition = c.generation.rabiPeriod / 2 := by
    rw [c.rotation_lengthAt]
    norm_num
    ring
  have tau : (c.idle idle increment).lengthAt repetition = idle + repetition * increment := rfl
  have sum : c.generation.rabiPeriod / 2 / 2.0 + (idle + repetition * increment) +
      c.generation.rabiPeriod / 2 / 2.0 = idle + c.generation.rabiPeriod / 2 +
        repetition * increment := by
    norm_num
    ring
  rw [train_before, spacings_train, pulse, tau, sum]

theorem statesDistance (decouples : s.decouples = true) {rows : Nat} {played : List (Played ℚ)}
    {r : Readout ℚ} (reads : s.ReadsOut c p rows played r) :
    s.StatesDistance c p rows played r := by
  refine ⟨reads.points, fun i x point k row => ?_⟩
  obtain ⟨earlier, pulses, shot, -, plays⟩ := reads.shot i x point k row
  cases plays with
  | rabi | pulsedOdmr | ramsey | hahnEcho => cases decouples
  | xy8Tau spaced =>
    subst spaced
    refine ⟨_, c.idle (idleTime c p.start) p.step, shot, ?_, ?_, apart_eq_iff decouples i⟩
    · rw [train_before, List.map_map]
      exact List.map_id _
    · rw [spacings_shot, idleTime_add]
      rfl
  | xy8Frequency asked played =>
    subst asked played
    refine ⟨_, c.idle (idleTime c (spacing (p.value i))) 0.0, shot, ?_, ?_,
      apart_eq_iff decouples i⟩
    · rw [train_before, List.map_map]
      exact List.map_id _
    · rw [spacings_shot, idleTime_add, Exact.zero_literal, mul_zero, add_zero]
      rfl

/-- Whatever the accepted parameters, a decoupling recipe plays trains of equally distant pulses.
The axis of `xy8_freq` states their distance, and that of `xy8_tau` exactly if the first idle time
is not clipped. -/
theorem pulses_apart (extra : List String) {s : Sweeping} (decouples : s.decouples = true)
    {m : Method ℚ (RecipeRule ℚ)} (found : (Recipe.registry extra).find s.name = .ok m)
    (c : RecipeContext ℚ) (name : String) {given params : ParamSet ℚ}
    (accepted : m.schema.resolve given = .ok params) :
    ∃ p : Parameters ℚ, p.ReadFrom s params ∧ p.Positive s ∧
      (∀ f, m.rule c name params = .error f → s.Refuses c p f) ∧
      ∀ made, m.rule c name params = .ok made → ∃ block e repetitions readout,
        made.blocks.head? = some block ∧ made.ensembles = [e] ∧
        e.plays.head? = some (block.name, repetitions) ∧ e.readout = some readout ∧
        s.StatesDistance c p (if readout.alternating then 2 else 1) (block.played repetitions)
          readout :=
  accepted_makes extra found c name accepted
    (Q := fun p played r => s.StatesDistance c p (if r.alternating then 2 else 1) played r)
    fun _ read countingLength => statesDistance decouples (readsOut read name countingLength)

/-- π pulses of half a microsecond. -/
def slowContext : RecipeContext ℚ :=
  { plainContext with generation := { GenerationParameters.default with rabiPeriod := 1e-6 } }

/-- One point at two megahertz, with one cycle. -/
def twoMegahertz : ParamSet ℚ :=
  .ofList [("freq_start", .real 2e6), ("num_of_points", .int 1), ("xy8_order", .int 1)]

/-- Pulses that leave no time between them state the frequency that they have. -/
theorem pulses_apart_clipped : ∃ made block e repetitions readout x shot,
    (xy8Frequency.schema.resolve twoMegahertz >>= xy8Frequency.rule slowContext "xy8") = .ok made ∧
    made.blocks.head? = some block ∧ made.ensembles = [e] ∧
    e.plays.head? = some (block.name, repetitions) ∧ e.readout = some readout ∧
    readout.axis[0]? = some x ∧ (shots (block.played repetitions))[0]? = some shot ∧
    spacings (shot.train 1) = List.replicate 7 (spacing x) := by
  have order : ((xy8Frequency.schema : Schema ℚ).resolve twoMegahertz >>=
      (·.count "xy8_order")) = .ok 1 := toOption_eq_some.mp (by decide +kernel)
  have succeeds : (xy8Frequency.schema.resolve twoMegahertz >>=
      xy8Frequency.rule slowContext "xy8").toOption.isSome = true := by decide +kernel
  obtain ⟨made, succeeds⟩ := Option.isSome_iff_exists.mp succeeds
  replace succeeds := toOption_eq_some.mp succeeds
  obtain ⟨params, accepted, done⟩ := bind_eq_ok.mp succeeds
  rw [accepted, ok_bind] at order
  obtain ⟨p, read, positive, -, makes⟩ :=
    pulses_apart [] rfl (find_method [] xy8Frequency) slowContext "xy8" accepted
  have one : p.order = 1 := Except.ok.inj ((read.order rfl).symm.trans order)
  obtain ⟨block, e, repetitions, readout, first, only, plays, stated, states⟩ := makes made done
  obtain ⟨x, point⟩ : ∃ x, readout.axis[0]? = some x :=
    ⟨_, List.getElem?_eq_getElem (by rw [states.points]; exact positive.points)⟩
  obtain ⟨shot, tau, found, -, distances, exactly⟩ := states.train 0 x point 0 (by split <;> decide)
  rw [one, exactly.mpr nofun] at distances
  rw [Nat.zero_mul] at found
  exact ⟨made, block, e, repetitions, readout, x, shot, succeeds, first, only, plays, stated, point,
    found, distances⟩

/-- One point at a quarter of a microsecond, with one cycle. -/
def quarterMicrosecond : ParamSet ℚ :=
  .ofList [("tau_start", .real 0.25e-6), ("num_of_points", .int 1), ("xy8_order", .int 1),
    ("alternating", .bool false)]

/-- A quarter of a microsecond is stated, and the pulses are half a microsecond apart. -/
theorem clipped_time_misstated : ∃ made,
    (xy8Tau.schema.resolve quarterMicrosecond >>= xy8Tau.rule slowContext "xy8") = .ok made ∧
    made.ensembles.map (fun e => e.readout.map Readout.axis) = [some [0.25e-6]] ∧
    made.blocks.map (fun block =>
        (shots (block.played 1)).map fun shot => spacings (shot.train 1)) =
      [[List.replicate 7 0.5e-6]] := by
  have computed : (xy8Tau.schema.resolve quarterMicrosecond >>=
      xy8Tau.rule slowContext "xy8").toOption.map (fun made =>
        (made.ensembles.map fun e => e.readout.map Readout.axis,
          made.blocks.map fun block =>
            (shots (block.played 1)).map fun shot => spacings (shot.train 1))) =
      some ([some [0.25e-6]], [[List.replicate 7 0.5e-6]]) := by
    decide +kernel
  obtain ⟨made, done, computed⟩ := Option.map_eq_some_iff.mp computed
  obtain ⟨axis, distances⟩ := Prod.mk.inj computed
  exact ⟨made, toOption_eq_some.mp done, axis, distances⟩

end Sweeping

end PulseBench
