import PulseBench.Proofs.Compile.Duration
import PulseBench.Proofs.Recipe.Channels
import PulseBench.Proofs.Recipe.Spacing

/-!
# Runs of dynamical decoupling

A run turns the spin to the equator, plays so many cycles of eight π pulses, and turns it back to be
read out. Between any two π pulses lies one idle element, across the borders of cycles too, and
half of one before the first and behind the last. An idle element that is missed or doubled at a
border changes what the run is sensitive to, and nothing fails; so `DecouplingRun` fixes what is at
every place of a run, and the idle time follows.

Results:
1. `RecipeContext.idle_isIdle`, `RecipeContext.microwave_isIdle`: which elements are idle.
2. `decouplingRun_iff`: the places of a run.
3. `trainByCycles_eq`: the train, cycle by cycle.
4. `idleBetween_xy8Run`: the idle time between the two outer pulses.
5. `decoupling_run_placed`: both for every order, and for the points of the recipes.
-/

namespace PulseBench

variable {α K : Type}

/-! ## 1. Idle elements -/

/-- Nothing is put out: all shapes are idle, and all levels low. -/
def Element.isIdle (e : Element α) : Bool :=
  e.shapes.values.all Shape.isIdle && e.levels.values.all (!·)

namespace RecipeContext

variable (c : RecipeContext α)

theorem idle_isIdle (length increment : α) : (c.idle length increment).isIdle = true := by
  rw [Element.isIdle, idle_shapes, idle_levels, Roster.values_tabulate, Roster.values_tabulate,
    Bool.and_eq_true, List.all_eq_true, List.all_eq_true]
  exact ⟨List.forall_mem_map.mpr fun _ _ => rfl, List.forall_mem_map.mpr fun _ _ => rfl⟩

/-- Whatever its length, and for an amplitude of zero, too. -/
theorem microwave_isIdle (length increment amplitude frequency phase : α) :
    (c.microwave length increment amplitude frequency phase).isIdle = false := by
  unfold microwave
  dsimp only
  rw [Element.isIdle, Bool.and_eq_false_iff, List.all_eq_false, List.all_eq_false]
  split
  · exact Or.inr ⟨true, Roster.mem_values_iff.mpr ⟨_, Roster.get?_insert_self _ _ _⟩, nofun⟩
  · exact Or.inl ⟨_, Roster.mem_values_iff.mpr ⟨_, Roster.get?_insert_self _ _ _⟩, nofun⟩

/-- On an analog channel a pulse is a sine of its phase. -/
theorem rotation_phase [Scalar α] (analog : Channel.isDigital c.generation.microwaveChannel = false)
    (fraction phase : α) : ∃ shape,
      (c.rotation fraction phase).shapes.get? c.generation.microwaveChannel = some shape ∧
        shape.params.number "phase" = .ok phase := by
  have sine : (c.rotation fraction phase).shapes.get? c.generation.microwaveChannel =
      some (.sine c.generation.microwaveAmplitude c.generation.microwaveFrequency phase) := by
    unfold rotation microwave
    dsimp only
    rw [if_neg (Bool.eq_false_iff.mp analog)]
    exact Roster.get?_insert_self _ _ _
  exact ⟨_, sine, rfl⟩

end RecipeContext

/-! ## 2. Places -/

section Lists

variable {β : Type} {items : List β} {between : β}

/-- What lies between the items, once for all items but one. -/
theorem filter_intersperse {p : β → Bool} (dropped : ∀ b ∈ items, p b = false)
    (kept : p between = true) :
    (items.intersperse between).filter p = List.replicate (items.length - 1) between := by
  induction items with
  | nil => rfl
  | cons first rest ih =>
    have own : ¬ p first = true := Bool.eq_false_iff.mp (dropped first List.mem_cons_self)
    cases rest with
    | nil => exact List.filter_cons_of_neg own
    | cons second rest =>
      rw [List.intersperse_cons_cons, List.filter_cons_of_neg own, List.filter_cons_of_pos kept,
        ih fun b member => dropped b (List.mem_cons_of_mem _ member)]
      rfl

/-- If more items follow then every item is followed by what lies between. -/
theorem intersperse_append (items : List β) {rest : List β} (more : rest ≠ []) (between : β) :
    (items ++ rest).intersperse between =
      items.flatMap (fun b => [b, between]) ++ rest.intersperse between := by
  induction items with
  | nil => rfl
  | cons first items ih =>
    obtain ⟨second, behind, next⟩ :=
      List.exists_cons_of_ne_nil (List.append_ne_nil_of_right_ne_nil items more)
    rw [List.cons_append, next, List.intersperse_cons_cons, ← next, ih]
    rfl

end Lists

namespace Recipe

variable [Scalar α] {c : RecipeContext α} {halfTau tau last : Element α} {order : Nat}

/-- The phase of a π pulse, in degrees: X Y X Y Y X Y X, again and again. -/
def pulsePhase (k : Nat) : α := [0.0, 90.0, 0.0, 90.0, 90.0, 0.0, 90.0, 0.0].getD (k % 8) 0.0

/-- A run of so many cycles, place by place. Eight π pulses of every cycle stand at even places, and
the idle elements between them at odd ones. -/
structure DecouplingRun (c : RecipeContext α) (halfTau tau last : Element α) (order : Nat)
    (elements : List (Element α)) : Prop where
  length : elements.length = 16 * order + 6
  first : elements[0]? = some (c.rotation 0.25 0.0)
  before : elements[1]? = some halfTau
  pulse : ∀ k < 8 * order, elements[2 * k + 2]? = some (c.rotation 0.5 (pulsePhase k))
  gap : ∀ k, k + 1 < 8 * order → elements[2 * k + 3]? = some tau
  behind : elements[16 * order + 1]? = some halfTau
  last : elements[16 * order + 2]? = some last
  readout : elements.drop (16 * order + 3) = c.readout

theorem getElem?_xy8Cycle (c : RecipeContext α) (k : Nat) :
    (xy8Cycle c)[k % 8]? = some (c.rotation 0.5 (pulsePhase k)) := by
  have inside : k % 8 < 8 := Nat.mod_lt _ (by decide)
  have phases : xy8Cycle c =
      [0.0, 90.0, 0.0, 90.0, 90.0, 0.0, 90.0, 0.0].map (c.rotation 0.5) := rfl
  rw [phases, List.getElem?_map, List.getElem?_eq_getElem (by exact inside), Option.map_some,
    List.getElem_eq_getD 0.0]
  rfl

theorem getElem?_piPulses {k : Nat} (inside : k < 8 * order) :
    (Sweeping.piPulses c order)[k]? = some (c.rotation 0.5 (pulsePhase k)) := by
  rw [← getElem?_xy8Cycle]
  induction order generalizing k with
  | zero => omega
  | succ order ih =>
    have size : (xy8Cycle c).length = 8 := rfl
    rw [Sweeping.piPulses, List.replicate_succ, List.flatten_cons, ← Sweeping.piPulses]
    by_cases first : k < 8
    · rw [List.getElem?_append_left first, Nat.mod_eq_of_lt first]
    · rw [List.getElem?_append_right (by omega), size, ih (by omega),
        ← Nat.mod_eq_sub_mod (by omega)]

theorem length_train (c : RecipeContext α) (tau : Element α) (positive : 0 < order) :
    (xy8Train c tau order).length + 1 = 16 * order := by
  rw [Sweeping.length_xy8Train]
  omega

theorem xy8Run_eq (c : RecipeContext α) (halfTau tau last : Element α) (order : Nat) :
    xy8Run c halfTau tau order last =
      c.halfPi :: halfTau :: (xy8Train c tau order ++ halfTau :: last :: c.readout) := by
  simp [xy8Run]

theorem decouplingRun_xy8Run (positive : 0 < order) :
    DecouplingRun c halfTau tau last order (xy8Run c halfTau tau order last) := by
  have size := length_train c tau positive
  have inTrain : ∀ i, i + 1 < 16 * order →
      (xy8Run c halfTau tau order last)[i + 2]? = (xy8Train c tau order)[i]? := by
    intro i inside
    rw [xy8Run_eq, List.getElem?_cons_succ, List.getElem?_cons_succ,
      List.getElem?_append_left (by omega)]
  have behindTrain : ∀ i, (xy8Run c halfTau tau order last)[16 * order + 1 + i]? =
      (halfTau :: last :: c.readout)[i]? := by
    intro i
    have place : 16 * order + 1 + i = (xy8Train c tau order).length + i + 2 := by omega
    rw [xy8Run_eq, place, List.getElem?_cons_succ, List.getElem?_cons_succ,
      List.getElem?_append_right (Nat.le_add_right _ _), Nat.add_sub_cancel_left]
  refine ⟨?_, rfl, rfl, fun k inside => ?_, fun k inside => ?_, behindTrain 0, behindTrain 1, ?_⟩
  · have three : c.readout.length = 3 := rfl
    rw [xy8Run_eq]
    simp only [List.length_cons, List.length_append, three]
    omega
  · rw [inTrain _ (by omega), xy8Train, List.getElem?_intersperse_two_mul]
    exact getElem?_piPulses inside
  · rw [inTrain _ (by omega), xy8Train, List.getElem?_intersperse_two_mul_add_one]
    rw [← Sweeping.piPulses, Sweeping.length_piPulses]
    exact inside
  · refine List.ext_getElem? fun i => ?_
    have place : 16 * order + 3 + i = 16 * order + 1 + (i + 2) := by omega
    rw [List.getElem?_drop, place, behindTrain]
    rfl

/-- Every place is one of these. -/
theorem place_cases (order place : Nat) :
    place = 0 ∨ place = 1 ∨ (∃ k < 8 * order, place = 2 * k + 2) ∨
      (∃ k, k + 1 < 8 * order ∧ place = 2 * k + 3) ∨ place = 16 * order + 1 ∨
      place = 16 * order + 2 ∨ ∃ i, place = 16 * order + 3 + i := by
  by_cases inTrain : 2 ≤ place ∧ place ≤ 16 * order
  · rcases Nat.even_or_odd' place with ⟨k, even | odd⟩
    · exact .inr (.inr (.inl ⟨k - 1, by omega, by omega⟩))
    · exact .inr (.inr (.inr (.inl ⟨k - 1, by omega, by omega⟩)))
  · by_cases inReadout : 16 * order + 3 ≤ place
    · have split : place = 16 * order + 3 + (place - (16 * order + 3)) := by omega
      exact .inr (.inr (.inr (.inr (.inr (.inr ⟨_, split⟩)))))
    · have outer : place = 0 ∨ place = 1 ∨ place = 16 * order + 1 ∨ place = 16 * order + 2 := by
        omega
      tauto

theorem DecouplingRun.unique {one other : List (Element α)}
    (first : DecouplingRun c halfTau tau last order one)
    (second : DecouplingRun c halfTau tau last order other) : one = other := by
  have readout : one.drop (16 * order + 3) = other.drop (16 * order + 3) :=
    first.readout.trans second.readout.symm
  refine List.ext_getElem? fun place => ?_
  obtain rfl | rfl | ⟨k, inside, rfl⟩ | ⟨k, inside, rfl⟩ | rfl | rfl | ⟨i, rfl⟩ :=
    place_cases order place
  · exact first.first.trans second.first.symm
  · exact first.before.trans second.before.symm
  · exact (first.pulse k inside).trans (second.pulse k inside).symm
  · exact (first.gap k inside).trans (second.gap k inside).symm
  · exact first.behind.trans second.behind.symm
  · exact first.last.trans second.last.symm
  · rw [← List.getElem?_drop, readout, List.getElem?_drop]

/-- The places fix the run. -/
theorem decouplingRun_iff (positive : 0 < order) {elements : List (Element α)} :
    DecouplingRun c halfTau tau last order elements ↔
      elements = xy8Run c halfTau tau order last := by
  constructor
  · exact fun placed => placed.unique (decouplingRun_xy8Run positive)
  · rintro rfl
    exact decouplingRun_xy8Run positive

/-! ## 3. Cycle by cycle -/

/-- The train, cycle by cycle: an idle element behind every pulse but the last one of the last
cycle. -/
def trainByCycles (c : RecipeContext α) (tau : Element α) (order : Nat) : List (Element α) :=
  (List.range order).flatMap fun n => (xy8Cycle c).zipIdx.flatMap fun (pulse, i) =>
    pulse :: if i < 7 ∨ n + 1 < order then [tau] else []

theorem trainByCycles_eq (c : RecipeContext α) (tau : Element α) (order : Nat) :
    trainByCycles c tau order = xy8Train c tau order := by
  cases order with
  | zero => rfl
  | succ m =>
    have earlier : ∀ n ∈ List.range m, ((xy8Cycle c).zipIdx.flatMap fun (pulse, i) =>
        pulse :: if i < 7 ∨ n + 1 < m + 1 then [tau] else []) =
          (xy8Cycle c).flatMap fun pulse => [pulse, tau] := by
      intro n member
      have notLast : n + 1 < m + 1 := Nat.succ_lt_succ (List.mem_range.mp member)
      simp [notLast, xy8Cycle]
    have final : ((xy8Cycle c).zipIdx.flatMap fun (pulse, i) =>
        pulse :: if i < 7 ∨ m + 1 < m + 1 then [tau] else []) = (xy8Cycle c).intersperse tau := by
      simp [xy8Cycle]
    have cycles : (List.replicate m (xy8Cycle c)).flatten =
        (List.range m).flatMap fun _ => xy8Cycle c := by
      rw [List.flatMap_def, List.map_const', List.length_range]
    have more : xy8Cycle c ≠ [] := List.cons_ne_nil _ _
    rw [trainByCycles, List.range_succ, List.flatMap_append, List.flatMap_singleton, final,
      List.flatMap_congr earlier, xy8Train, List.replicate_succ', List.flatten_append,
      List.flatten_singleton, intersperse_append _ more, cycles, List.flatMap_assoc]

/-! ## 4. Idle time -/

/-- What is played between the two outer pulses of a run. -/
def betweenOuter (order : Nat) (run : List (Element α)) : List (Element α) :=
  (run.drop 1).take (16 * order + 1)

/-- How long nothing is put out between the two outer pulses, at a repetition. -/
def idleBetween [Field K] (r : Scalar.Reading α K) (order repetition : Nat)
    (run : List (Element α)) : K :=
  (((betweenOuter order run).filter Element.isIdle).map fun e =>
    r.value (e.lengthAt repetition)).sum

theorem filter_betweenOuter (half : halfTau.isIdle = true) (whole : tau.isIdle = true)
    (positive : 0 < order) :
    (betweenOuter order (xy8Run c halfTau tau order last)).filter Element.isIdle =
      halfTau :: List.replicate (8 * order - 1) tau ++ [halfTau] := by
  have between : betweenOuter order (xy8Run c halfTau tau order last) =
      halfTau :: xy8Train c tau order ++ [halfTau] := by
    have split : xy8Run c halfTau tau order last =
        c.halfPi :: ((halfTau :: xy8Train c tau order ++ [halfTau]) ++ last :: c.readout) := by
      simp [xy8Run]
    rw [betweenOuter, split, List.drop_one, List.tail_cons]
    refine List.take_left' ?_
    rw [List.length_append, List.length_cons, length_train c tau positive, List.length_singleton]
  have pulses : ∀ e ∈ Sweeping.piPulses c order, e.isIdle = false := by
    intro e member
    obtain ⟨phase, rfl⟩ := Sweeping.mem_piPulses member
    exact c.microwave_isIdle ..
  rw [between, List.filter_append, List.filter_cons_of_pos half, xy8Train, ← Sweeping.piPulses,
    filter_intersperse pulses whole, Sweeping.length_piPulses]
  simp [half]

/-- The two halves make up for the idle element that is missing in the train. -/
theorem idleBetween_xy8Run [Field K] [CharZero K] {r : Scalar.Reading α K} (exact : r.Arithmetic)
    (c : RecipeContext α) (tau increment : α) (last : Element α) (positive : 0 < order)
    (repetition : Nat) :
    idleBetween r order repetition (xy8Run c (c.idle (tau / 2.0) (increment / 2.0))
      (c.idle tau increment) order last) =
        8 * order * r.value ((c.idle tau increment).lengthAt repetition) := by
  have halves : r.value ((c.idle (tau / 2.0) (increment / 2.0)).lengthAt repetition) =
      r.value ((c.idle tau increment).lengthAt repetition) / 2 := by
    simp only [Element.value_lengthAt exact, RecipeContext.idle, r.div, exact.two]
    ring
  obtain ⟨n, rfl⟩ := Nat.exists_eq_succ_of_ne_zero positive.ne'
  have gaps : 8 * (n + 1) - 1 = 8 * n + 7 := by omega
  rw [idleBetween, filter_betweenOuter (c.idle_isIdle ..) (c.idle_isIdle ..) positive,
    List.cons_append, List.map_cons, List.map_append, List.map_replicate, List.map_singleton,
    List.sum_cons, List.sum_append, List.sum_replicate, List.sum_singleton, halves, nsmul_eq_mul,
    gaps]
  push_cast
  ring

/-! ## 5. Every order -/

/-- The runs of a point: one, or one for each of the final pulses. -/
def pointRuns (c : RecipeContext α) (tau increment : α) (order : Nat) (alternating : Bool) :
    List (List (Element α)) :=
  (List.range (lasersPerPoint alternating)).map fun k =>
    xy8Run c (c.idle (tau / 2.0) (increment / 2.0)) (c.idle tau increment) order
      (Sweeping.final c k)

theorem xy8Point_eq_flatten (c : RecipeContext α) (tau increment : α) (order : Nat)
    (alternating : Bool) : xy8Point c tau increment order alternating =
      (pointRuns c tau increment order alternating).flatten := by
  rw [xy8Point, Sweeping.finals_eq, List.flatMap_map, List.flatMap_def, pointRuns]

theorem eq_of_getElem?_pointRuns {tau increment : α} {alternating : Bool} {k : Nat}
    {run : List (Element α)}
    (found : (pointRuns c tau increment order alternating)[k]? = some run) :
    run = xy8Run c (c.idle (tau / 2.0) (increment / 2.0)) (c.idle tau increment) order
      (Sweeping.final c k) := by
  rw [pointRuns, List.getElem?_map] at found
  obtain ⟨place, counted, rfl⟩ := Option.map_eq_some_iff.mp found
  obtain ⟨_, same⟩ := List.getElem?_eq_some_iff.mp counted
  rw [List.getElem_range] at same
  rw [same]

/-- A run of any order has everything at its place, and nothing else has. Its train is played cycle
by cycle with one idle element between any two pulses, and on an analog channel the pulses have
their phases. A point of a recipe is one such run, or two if it alternates; and where nothing is
rounded, the idle time between the two outer pulses is so many times the idle time between two π
pulses as there are π pulses, at every repetition. -/
theorem decoupling_run_placed [Field K] [CharZero K] (r : Scalar.Reading α K)
    (exact : r.Arithmetic) (c : RecipeContext α) {order : Nat} (positive : 0 < order) :
    (∀ (halfTau tau last : Element α) (elements : List (Element α)),
      DecouplingRun c halfTau tau last order elements ↔
        elements = xy8Run c halfTau tau order last) ∧
    (∀ tau : Element α, xy8Train c tau order = trainByCycles c tau order) ∧
    (Channel.isDigital c.generation.microwaveChannel = false → ∀ k, ∃ shape,
      (c.rotation 0.5 (pulsePhase k)).shapes.get? c.generation.microwaveChannel = some shape ∧
        shape.params.number "phase" = .ok (pulsePhase k)) ∧
    ∀ (tau increment : α) (alternating : Bool), ∃ runs : List (List (Element α)),
      xy8Point c tau increment order alternating = runs.flatten ∧
      runs.length = lasersPerPoint alternating ∧
      ∀ k run, runs[k]? = some run →
        DecouplingRun c (c.idle (tau / 2.0) (increment / 2.0)) (c.idle tau increment)
          (Sweeping.final c k) order run ∧
        ∀ repetition, idleBetween r order repetition run =
          8 * order * r.value ((c.idle tau increment).lengthAt repetition) := by
  refine ⟨fun _ _ _ _ => decouplingRun_iff positive,
    fun tau => (trainByCycles_eq c tau order).symm, fun analog k => c.rotation_phase analog _ _,
    fun tau increment alternating => ?_⟩
  refine ⟨_, xy8Point_eq_flatten c tau increment order alternating, ?_, fun k run found => ?_⟩
  · rw [pointRuns, List.length_map, List.length_range]
  · obtain rfl := eq_of_getElem?_pointRuns found
    exact ⟨decouplingRun_xy8Run positive, idleBetween_xy8Run exact c tau increment _ positive⟩

open Sweeping (plainContext) in
/-- Two cycles, played twice. At the border of the cycles stand an X pulse, an idle element and
another X pulse, and then a Y pulse behind the next idle element; the second run is read out behind
a 3π/2 pulse. At the sixth repetition, an idle element lasts 13 seconds, and sixteen of them are
played. -/
theorem decoupling_run_placed_twice : 0 < 2 ∧ ∃ first second : List (Element ℚ),
    xy8Point plainContext 3 2 2 true = first ++ second ∧ first.length = 38 ∧
    first[16]? = some (plainContext.rotation 0.5 0.0) ∧ first[17]? = some (plainContext.idle 3 2) ∧
    first[18]? = some (plainContext.rotation 0.5 0.0) ∧
    first[20]? = some (plainContext.rotation 0.5 90.0) ∧
    second[34]? = some plainContext.threeHalfPi ∧
    idleBetween Scalar.Reading.rational 2 5 second = 208 := by
  obtain ⟨-, -, -, points⟩ := decoupling_run_placed Scalar.Reading.rational
    Scalar.Reading.rational_arithmetic plainContext (by decide : 0 < 2)
  obtain ⟨runs, point, two, placed⟩ := points 3 2 true
  obtain ⟨first, second, rfl⟩ := List.length_eq_two.mp two
  obtain ⟨one, -⟩ := placed 0 first rfl
  obtain ⟨other, idle⟩ := placed 1 second rfl
  have sixth : (plainContext.idle 3 2).lengthAt 5 = 13 := by decide +kernel
  refine ⟨by decide, first, second, ?_, one.length, one.pulse 7 (by decide), one.gap 7 (by decide),
    one.pulse 8 (by decide), one.pulse 9 (by decide), other.last, ?_⟩
  · rw [point, List.flatten_cons, List.flatten_singleton]
  · rw [idle 5, sixth]
    change (8 : ℚ) * (2 : ℕ) * 13 = 208
    norm_num

end Recipe

end PulseBench
