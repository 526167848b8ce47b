import PulseBench.Proofs.Measure.Arrangement
import PulseBench.Proofs.Recipe.Shots
import PulseBench.Proofs.Recipe.Sweeping

/-!
# Lasers read out the axis

A recipe states an axis and a number of lasers, and plays a block. The two are made
separately, and the measurement has nothing but the order of the lasers to bring them
together again: as many lasers as there are rows for each point, point after point.

The block is taken apart into runs, one for each time that a point is played; the shots of
the playback are those of the runs.

Results:
1. `played_eq`: the playback of a block, run by run.
2. `runs_once`: the laser is on once in every run.
3. `readsOut`: the shots of the playback, and the arrangement of their estimates.
4. `lasers_read_axis`: the recipes as they are found in a registry.
-/

namespace PulseBench

variable {α : Type} [Scalar α]

namespace Sweeping

/-! ## 1. Runs -/

/-- The final pulse of a point, at its first and at its second time. -/
def final (c : RecipeContext α) : Nat → Element α
  | 0 => c.halfPi
  | _ => c.threeHalfPi

/-- A train of π pulses between two halves of an idle time. -/
def train (c : RecipeContext α) (idle increment : α) (order : Nat) : List (Element α) :=
  let half := c.idle (idle / 2.0) (increment / 2.0)
  c.halfPi :: half :: Recipe.xy8Train c (c.idle idle increment) order ++ [half]

/-- What is played for a point before it is read out. -/
def pulses (s : Sweeping) (c : RecipeContext α) (p : Parameters α) (i k : Nat) :
    List (Element α) :=
  let tau := c.idle p.start p.step
  match s with
  | rabi => [c.drive p.start p.step]
  | pulsedOdmr =>
      let g := c.generation
      [c.microwave (g.rabiPeriod / 2.0) 0.0 g.microwaveAmplitude (p.value i) 0.0]
  | ramsey => [c.halfPi, tau, final c k]
  | hahnEcho => [c.halfPi, tau, c.rotation 0.5 0.0, tau, final c k]
  | xy8Tau => train c (idleTime c p.start) p.step p.order ++ [final c k]
  | xy8Frequency => train c (idleTime c (spacing (p.value i))) 0.0 p.order ++ [final c k]

/-- The repetition of the block at which a point is played. -/
def repetition (s : Sweeping) (i : Nat) : Nat := if s.repeats then i else 0

/-- A point, played for the first or for the second time. -/
def run (s : Sweeping) (c : RecipeContext α) (p : Parameters α) (i k : Nat) : Run α where
  pulses := (s.pulses c p i k).map (⟨·, s.repetition i⟩)
  laser := ⟨c.lit, s.repetition i⟩
  rest := c.unlit.map (⟨·, s.repetition i⟩)

def runs (s : Sweeping) (c : RecipeContext α) (p : Parameters α) : List (Run α) :=
  (List.range p.points).flatMap fun i =>
    (List.range (Recipe.lasersPerPoint p.alternating)).map (s.run c p i)

theorem run_played (s : Sweeping) (c : RecipeContext α) (p : Parameters α) (i k : Nat) :
    (s.run c p i k).played = (s.pulses c p i k ++ c.readout).map (⟨·, s.repetition i⟩) := by
  rw [List.map_append]
  rfl

theorem finals_eq (c : RecipeContext α) (alternating : Bool) :
    Recipe.finals c alternating =
      (List.range (Recipe.lasersPerPoint alternating)).map (final c) := by
  cases alternating <;> rfl

/-- All that is played for a point. -/
def point (s : Sweeping) (c : RecipeContext α) (p : Parameters α) (i : Nat) : List (Element α) :=
  (List.range (Recipe.lasersPerPoint p.alternating)).flatMap fun k => s.pulses c p i k ++ c.readout

theorem xy8Point_eq (c : RecipeContext α) (idle increment : α) (order : Nat) (alternating : Bool) :
    Recipe.xy8Point c idle increment order alternating =
      (List.range (Recipe.lasersPerPoint alternating)).flatMap fun k =>
        train c idle increment order ++ [final c k] ++ c.readout := by
  rw [Recipe.xy8Point, finals_eq, List.flatMap_map]
  refine List.flatMap_congr fun k _ => ?_
  simp [Recipe.xy8Run, train]

variable {s : Sweeping} {c : RecipeContext α} {p : Parameters α} {params : ParamSet α}

/-- A block that is repeated is one point, the same for all repetitions. -/
theorem elements_of_repeats (repeats : s.repeats = true) (read : p.ReadFrom s params) (i : Nat) :
    s.elements c p = s.point c p i := by
  cases s with
  | pulsedOdmr | xy8Frequency => cases repeats
  | rabi =>
    rw [point, read.plain rfl]
    rfl
  | ramsey | hahnEcho =>
    simp only [elements]
    rw [finals_eq, List.flatMap_map]
    rfl
  | xy8Tau => exact xy8Point_eq c _ _ _ _

/-- A block that is played once is all points. -/
theorem elements_of_once (once : s.repeats = false) (read : p.ReadFrom s params) :
    s.elements c p = (List.range p.points).flatMap (s.point c p) := by
  cases s with
  | rabi | ramsey | hahnEcho | xy8Tau => cases once
  | pulsedOdmr =>
    simp only [elements, Parameters.values, Recipe.sweep]
    rw [List.flatMap_map]
    refine List.flatMap_congr fun i _ => ?_
    rw [point, read.plain rfl]
    rfl
  | xy8Frequency =>
    simp only [elements, Parameters.values, Recipe.sweep]
    rw [List.flatMap_map]
    exact List.flatMap_congr fun i _ => xy8Point_eq c _ _ _ _

/-- The block plays point after point. -/
theorem played_eq (read : p.ReadFrom s params) (name : String) :
    (Block.mk name (s.elements c p)).played (s.repetitions p) =
      (s.runs c p).flatMap Run.played := by
  have each (i : Nat) : ((List.range (Recipe.lasersPerPoint p.alternating)).map
      (s.run c p i)).flatMap Run.played = (s.point c p i).map (⟨·, s.repetition i⟩) := by
    rw [List.flatMap_map, point, List.map_flatMap]
    exact List.flatMap_congr fun k _ => run_played s c p i k
  rw [runs, List.flatMap_assoc, Block.played, repetitions]
  simp only [each]
  cases repeats : s.repeats with
  | true =>
    refine List.flatMap_congr fun i _ => ?_
    rw [elements_of_repeats repeats read i, repetition, repeats]
    rfl
  | false =>
    have single : List.range (if false = true then p.points else 1) = [0] := rfl
    rw [single, List.flatMap_singleton, elements_of_once repeats read, List.map_flatMap]
    refine List.flatMap_congr fun i _ => ?_
    rw [repetition, repeats]
    rfl

/-! ## 2. Lasers -/

omit [Scalar α] in
theorem mem_of_mem_intersperse {items : List (Element α)} {between e : Element α}
    (member : e ∈ items.intersperse between) : e = between ∨ e ∈ items := by
  induction items with
  | nil => cases member
  | cons first rest ih =>
    cases rest with
    | nil => exact Or.inr member
    | cons second rest =>
      rw [List.intersperse_cons_cons] at member
      simp only [List.mem_cons] at member ih ⊢
      tauto

/-- The π pulses of a train. -/
def piPulses (c : RecipeContext α) (order : Nat) : List (Element α) :=
  (List.replicate order (Recipe.xy8Cycle c)).flatten

theorem mem_piPulses {c : RecipeContext α} {order : Nat} {e : Element α}
    (member : e ∈ piPulses c order) : ∃ phase, e = c.rotation 0.5 phase := by
  obtain ⟨cycle, repeated, pulse⟩ := List.mem_flatten.mp member
  rw [List.eq_of_mem_replicate repeated] at pulse
  simp only [Recipe.xy8Cycle, List.mem_cons, List.not_mem_nil, or_false] at pulse
  rcases pulse with rfl | rfl | rfl | rfl | rfl | rfl | rfl | rfl <;> exact ⟨_, rfl⟩

/-- Pulses of points are idle elements and microwave pulses. -/
theorem forall_mem_pulses {P : Element α → Prop} {c : RecipeContext α}
    (idle : ∀ length increment, P (c.idle length increment))
    (microwave : ∀ length increment amplitude frequency phase,
      P (c.microwave length increment amplitude frequency phase))
    (s : Sweeping) (p : Parameters α) (i k : Nat) : ∀ e ∈ s.pulses c p i k, P e := by
  have rotation (fraction phase : α) : P (c.rotation fraction phase) := microwave ..
  have last : P (final c k) := by
    unfold final RecipeContext.threeHalfPi
    split
    · exact rotation ..
    · split <;> exact rotation ..
  have trains (time increment : α) (order : Nat) : ∀ e ∈ train c time increment order, P e := by
    have pulses : ∀ e ∈ Recipe.xy8Train c (c.idle time increment) order, P e := by
      intro e member
      rcases mem_of_mem_intersperse member with rfl | pulse
      · exact idle ..
      · obtain ⟨phase, rfl⟩ := mem_piPulses pulse
        exact rotation ..
    simp only [train, List.cons_append, List.forall_mem_cons, List.forall_mem_append]
    exact ⟨rotation .., idle .., pulses, idle .., nofun⟩
  cases s with
  | rabi | pulsedOdmr => exact List.forall_mem_singleton.mpr (microwave ..)
  | ramsey =>
    simp only [pulses, List.forall_mem_cons]
    exact ⟨rotation .., idle .., last, nofun⟩
  | hahnEcho =>
    simp only [pulses, List.forall_mem_cons]
    exact ⟨rotation .., idle .., rotation .., idle .., last, nofun⟩
  | xy8Tau | xy8Frequency =>
    simp only [pulses, List.forall_mem_append, List.forall_mem_singleton]
    exact ⟨trains _ _ _, last⟩

/-- Pulses are played in the dark. -/
theorem pulses_laser (s : Sweeping) (c : RecipeContext α) (p : Parameters α) (i k : Nat) :
    ∀ e ∈ s.pulses c p i k, e.laser = false :=
  forall_mem_pulses c.idle_laser c.microwave_laser s p i k

theorem runs_once (s : Sweeping) (c : RecipeContext α) (p : Parameters α) :
    ∀ r ∈ s.runs c p, r.Once := by
  intro r member
  obtain ⟨i, -, member⟩ := List.mem_flatMap.mp member
  obtain ⟨k, -, rfl⟩ := List.mem_map.mp member
  exact {
    pulses := List.forall_mem_map.mpr (s.pulses_laser c p i k)
    laser := c.lit_laser
    rest := List.forall_mem_map.mpr c.unlit_laser }

/-! ## 3. The axis -/

/-- The value that is stated for a point. -/
def stated (s : Sweeping) (c : RecipeContext α) (p : Parameters α) (i : Nat) : α :=
  match s with
  | rabi | pulsedOdmr | xy8Tau => p.value i
  | ramsey => p.start * 1.0 + Scalar.ofNat i * (p.step * 1.0)
  | hahnEcho => p.start * 2.0 + Scalar.ofNat i * (p.step * 2.0)
  | xy8Frequency => Recipe.xy8Played c (idleTime c (spacing (p.value i)))

theorem axis_eq (s : Sweeping) (c : RecipeContext α) (p : Parameters α) :
    s.axis c p = (List.range p.points).map (s.stated c p) := by
  cases s with
  | rabi | pulsedOdmr | ramsey | hahnEcho | xy8Tau => rfl
  | xy8Frequency => exact List.map_map

theorem axis_length (s : Sweeping) (c : RecipeContext α) (p : Parameters α) :
    (s.axis c p).length = p.points := by
  rw [axis_eq, List.length_map, List.length_range]

/-- The pulses of a point, at its first and at its second time: what is swept has the value that is
stated. The echo time is stated as a whole, and twice one of its halves where nothing is rounded. -/
inductive Plays (c : RecipeContext α) (p : Parameters α) (i k : Nat) :
    Sweeping → α → List (Element α) → Prop
  | rabi {x : α} (long : (c.drive p.start p.step).lengthAt i = x) :
      Plays c p i k .rabi x [c.drive p.start p.step]
  | pulsedOdmr {x : α} :
      Plays c p i k .pulsedOdmr x
        [c.microwave (c.generation.rabiPeriod / 2.0) 0.0 c.generation.microwaveAmplitude x 0.0]
  | ramsey {x : α} {tau : Element α} (free : tau = c.idle p.start p.step)
      (long : tau.lengthAt i = x) :
      Plays c p i k .ramsey x [c.halfPi, tau, final c k]
  | hahnEcho {x : α} {tau : Element α} (free : tau = c.idle p.start p.step)
      (half : Scalar.Exact α → tau.lengthAt i = x / 2.0) :
      Plays c p i k .hahnEcho x [c.halfPi, tau, c.rotation 0.5 0.0, tau, final c k]
  | xy8Tau {x : α} (spaced : p.value i = x) :
      Plays c p i k .xy8Tau x (train c (idleTime c p.start) p.step p.order ++ [final c k])
  | xy8Frequency {x idle : α} (asked : idle = idleTime c (spacing (p.value i)))
      (played : Recipe.xy8Played c idle = x) :
      Plays c p i k .xy8Frequency x (train c idle 0.0 p.order ++ [final c k])

theorem plays_pulses [Scalar.Lawful α] (s : Sweeping) (c : RecipeContext α) (p : Parameters α)
    (i k : Nat) : Plays c p i k s (s.stated c p i) (s.pulses c p i k) := by
  cases s with
  | rabi => exact .rabi (c.drive_lengthAt ..)
  | pulsedOdmr => exact .pulsedOdmr
  | ramsey =>
    refine .ramsey rfl ?_
    rw [stated, Scalar.Lawful.mul_one, Scalar.Lawful.mul_one]
    rfl
  | hahnEcho =>
    refine .hahnEcho rfl fun exact => ?_
    rw [stated, ← Scalar.Exact.mul_assoc, ← Scalar.Exact.add_mul, Scalar.Exact.mul_two_div_two]
    rfl
  | xy8Tau => exact .xy8Tau rfl
  | xy8Frequency => exact .xy8Frequency rfl rfl

/-- The lasers of a playback read out the axis of a readout: as many of them as there are rows for
each point, right behind the pulses of the point. -/
structure ReadsOut (s : Sweeping) (c : RecipeContext α) (p : Parameters α) (rows : Nat)
    (played : List (Played α)) (r : Readout α) : Prop where
  ignored : r.ignored = []
  alternating : r.alternating = p.alternating
  points : r.axis.length = p.points
  lasers : r.lasers = rows * r.axis.length
  lit : played.countP Played.isLit = r.lasers
  shot : ∀ i x, r.axis[i]? = some x → ∀ k < rows, ∃ earlier pulses,
    (shots played)[i * rows + k]? =
      some ⟨earlier ++ pulses.map (⟨·, s.repetition i⟩), ⟨c.lit, s.repetition i⟩⟩ ∧
    earlier.map Played.element = (if i * rows + k = 0 then [] else c.unlit) ∧
    Plays c p i k s x pulses
  arranged : ∀ estimates : List (Estimate α), estimates.length = r.lasers → ∃ signal errors,
    (MeasurementSettings.ofReadout r).arrange estimates = .ok (signal, errors) ∧
    ∀ i < r.axis.length, ∀ k < rows,
      signal.cell? k i = estimates[i * rows + k]?.map Estimate.value ∧
      errors.cell? k i = estimates[i * rows + k]?.map Estimate.error

theorem getElem?_runs (s : Sweeping) (c : RecipeContext α) (p : Parameters α) {i k : Nat}
    (inside : i < p.points) (row : k < Recipe.lasersPerPoint p.alternating) :
    (s.runs c p)[i * Recipe.lasersPerPoint p.alternating + k]? = some (s.run c p i k) :=
  getElem?_flatMap_range (s.run c p) row inside

/-- Estimates of all lasers are arranged as the lasers read out the axis. -/
theorem arrange_readout (r : Readout α) (ignored : r.ignored = []) {rows : Nat}
    (alternating : rows = Recipe.lasersPerPoint r.alternating) {estimates : List (Estimate α)}
    (measured : estimates.length = rows * r.axis.length) : ∃ signal errors,
    (MeasurementSettings.ofReadout r).arrange estimates = .ok (signal, errors) ∧
    ∀ i < r.axis.length, ∀ k < rows,
      signal.cell? k i = estimates[i * rows + k]?.map Estimate.value ∧
      errors.cell? k i = estimates[i * rows + k]?.map Estimate.error := by
  have none : (MeasurementSettings.ofReadout r).ignored = [] := by
    change r.ignored.mergeSort = []
    rw [ignored, List.mergeSort_nil]
  subst alternating
  have fits : (keptLasers (MeasurementSettings.ofReadout r).ignored estimates.length).length =
      (MeasurementSettings.ofReadout r).rowCount *
        (MeasurementSettings.ofReadout r).axis.length := by
    rw [none, keptLasers_nil, List.length_range]
    exact measured
  refine ⟨_, _, (MeasurementSettings.arrange_eq _ _).trans (if_pos fits),
    fun i onAxis k inRows => ?_⟩
  have cell (part : Estimate α → α) :=
    MeasurementSettings.cell?_dealt_kept fits part inRows onAxis
  rw [none, keptItems_nil] at cell
  rw [none, keptItems_nil]
  exact ⟨cell _, cell _⟩

theorem readsOut [Scalar.Lawful α] (read : p.ReadFrom s params) (name : String)
    (countingLength : α) :
    s.ReadsOut c p (Recipe.lasersPerPoint (s.readout c p).alternating)
      ((Block.mk name (s.elements c p)).played (s.repetitions p))
      { s.readout c p with countingLength } := by
  obtain ⟨axis, alternating, ignored, lasers⟩ :
      (s.readout c p).axis = s.axis c p ∧ (s.readout c p).alternating = p.alternating ∧
      (s.readout c p).ignored = [] ∧ (s.readout c p).lasers =
        Recipe.lasersPerPoint p.alternating * (s.axis c p).length := by
    unfold readout
    split <;> exact ⟨rfl, rfl, rfl, rfl⟩
  have rest : ∀ r ∈ s.runs c p, r.rest.map Played.element = c.unlit := by
    intro r member
    obtain ⟨i, -, member⟩ := List.mem_flatMap.mp member
    obtain ⟨k, -, rfl⟩ := List.mem_map.mp member
    exact List.map_map.trans (List.map_id _)
  rw [axis_length] at lasers
  rw [alternating, played_eq read]
  have points : (s.readout c p).axis.length = p.points := by rw [axis, axis_length]
  refine ⟨ignored, alternating, points, ?_, ?_, fun i x point k row => ?_,
    fun estimates measured => ?_⟩
  · rw [lasers, points]
  · -- Every run has one laser pulse.
    have counted : (shots ((s.runs c p).flatMap Run.played)).length = (s.runs c p).length := by
      rw [shots, shotsBehind_runs (s.runs_once c p)]
      simp
    have total : (s.runs c p).length = p.points * Recipe.lasersPerPoint p.alternating := by
      simp [runs]
    rw [← length_shotsBehind [], lasers, Nat.mul_comm, ← total]
    exact counted
  · obtain ⟨inside, same⟩ : i < p.points ∧ s.stated c p i = x := by
      replace point : (s.readout c p).axis[i]? = some x := point
      rw [axis, axis_eq, List.getElem?_map, Option.map_eq_some_iff] at point
      obtain ⟨j, found, same⟩ := point
      obtain ⟨within, rfl⟩ := List.getElem?_eq_some_iff.mp found
      rw [List.length_range] at within
      rw [List.getElem_range] at same
      exact ⟨within, same⟩
    obtain ⟨earlier, shot, behind⟩ :=
      getElem?_shots_runs (s.runs_once c p) rest (s.getElem?_runs c p inside row)
    exact ⟨earlier, s.pulses c p i k, shot, behind, same ▸ s.plays_pulses c p i k⟩
  · refine arrange_readout _ ignored (congrArg Recipe.lasersPerPoint alternating.symm) ?_
    rw [measured, lasers, points]

/-! ## 4. The recipes of a registry -/

/-- Whatever the accepted parameters, a recipe makes a block whose lasers read out the axis that the
ensemble states. It makes nothing only if a channel is not active, or for a decoupling frequency
that is not positive. -/
theorem lasers_read_axis [Scalar.Lawful α] (extra : List String) (s : Sweeping)
    {m : Method α (RecipeRule α)} (found : (Recipe.registry extra).find s.name = .ok m)
    (c : RecipeContext α) (name : String) {given params : ParamSet α}
    (accepted : m.schema.resolve given = .ok params) :
    ∃ p : Parameters α, p.ReadFrom s params ∧
      (∀ f, m.rule c name params = .error f → s.Refuses c p f) ∧
      ∀ made, m.rule c name params = .ok made → ∃ block e repetitions readout,
        made.blocks.head? = some block ∧ made.ensembles = [e] ∧
        e.plays.head? = some (block.name, repetitions) ∧ e.readout = some readout ∧
        s.ReadsOut c p (if readout.alternating then 2 else 1) (block.played repetitions)
          readout := by
  obtain ⟨p, read, -, made⟩ := accepted_makes extra found c name accepted
    (Q := fun p played r => s.ReadsOut c p (if r.alternating then 2 else 1) played r)
    fun _ read => readsOut read name
  exact ⟨p, read, made⟩

/-- An analog and a digital channel are active, and nothing else is configured. -/
def plainContext : RecipeContext ℚ where
  settings := ⟨1e9, "config0", .ofList ["a_ch1", "d_ch1"], ∅⟩
  generation := .default

/-- Two echos, of three and five seconds for each half. -/
def twoEchos : ParamSet ℚ :=
  .ofList [("tau_step", .int 2), ("num_of_points", .real 2), ("tau_start", .int 3)]

/-- The fourth laser pulse reads out the second echo, at its second time. -/
theorem lasers_read_axis_echo : ∃ made block e repetitions readout earlier,
    (hahnEcho.schema.resolve twoEchos >>= hahnEcho.rule plainContext "echo") = .ok made ∧
    made.blocks.head? = some block ∧ made.ensembles = [e] ∧
    e.plays.head? = some (block.name, repetitions) ∧ e.readout = some readout ∧
    readout.lasers = 4 ∧ readout.axis[1]? = some 10 ∧
    (shots (block.played repetitions))[3]? = some
      ⟨earlier ++ [plainContext.halfPi, plainContext.idle 3 2, plainContext.rotation 0.5 0.0,
        plainContext.idle 3 2, plainContext.threeHalfPi].map (⟨·, 1⟩), ⟨plainContext.lit, 1⟩⟩ := by
  have active : plainContext.checkChannels = .ok () := toOption_eq_some.mp (by decide +kernel)
  have start : (hahnEcho.schema.resolve twoEchos >>= (·.number "tau_start")) = .ok (3 : ℚ) :=
    toOption_eq_some.mp (by decide +kernel)
  have step : (hahnEcho.schema.resolve twoEchos >>= (·.number "tau_step")) = .ok (2 : ℚ) :=
    toOption_eq_some.mp (by decide +kernel)
  have points : ((hahnEcho.schema : Schema ℚ).resolve twoEchos >>= (·.count "num_of_points")) =
      .ok 2 := toOption_eq_some.mp (by decide +kernel)
  have twice : ((hahnEcho.schema : Schema ℚ).resolve twoEchos >>= (·.truth "alternating")) =
      .ok true := toOption_eq_some.mp (by decide +kernel)
  obtain ⟨params, accepted, start⟩ := bind_eq_ok.mp start
  rw [accepted, ok_bind] at step points twice
  obtain ⟨⟨x, dx, n, order, alternating⟩, read, refused, reads⟩ :=
    lasers_read_axis [] .hahnEcho (find_method [] _) plainContext "echo" accepted
  obtain rfl : x = 3 := Except.ok.inj (read.start.symm.trans start)
  obtain rfl : dx = 2 := Except.ok.inj (read.step.symm.trans step)
  obtain rfl : n = 2 := Except.ok.inj (read.points.symm.trans points)
  obtain rfl : alternating = true := Except.ok.inj ((read.alternating rfl).symm.trans twice)
  cases done : hahnEcho.rule plainContext "echo" params with
  | error f =>
    rcases refused f done with inactive | ⟨other, -⟩
    · cases inactive.symm.trans active
    · cases other
  | ok made =>
    obtain ⟨block, e, repetitions, readout, first, only, plays, stated, lasers⟩ := reads made done
    have twoRows : (if readout.alternating then 2 else 1) = 2 := by rw [lasers.alternating]; rfl
    rw [twoRows] at lasers
    have points : readout.axis.length = 2 := lasers.points
    have total : readout.lasers = 4 := by rw [lasers.lasers, points]
    obtain ⟨x, second⟩ : ∃ x, readout.axis[1]? = some x :=
      ⟨_, List.getElem?_eq_getElem (by rw [points]; decide)⟩
    obtain ⟨earlier, _, shot, -, plays'⟩ := lasers.shot 1 x second 1 (by decide)
    cases plays' with
    | hahnEcho free half =>
      subst free
      have five : (3 : ℚ) + ((1 : ℕ) : ℚ) * 2 = x / 2.0 := half inferInstance
      obtain rfl : x = 10 := by
        norm_num at five
        linarith
      exact ⟨made, block, e, repetitions, readout, earlier,
        bind_eq_ok.mpr ⟨params, accepted, done⟩, first, only, plays, stated, total, second, shot⟩

end Sweeping

end PulseBench
