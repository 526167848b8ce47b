import PulseBench.Recipe.Parts

/-!
# The measurement recipes

Each recipe is one block of pulses, played once or once per point:

- `laser_on`, `laser_mw_on`, `idle`: a single element;
- `rabi`: a microwave pulse that grows with every repetition;
- `pulsedodmr`: one π pulse per microwave frequency;
- `ramsey`, `hahnecho`: free evolution between two π/2 pulses, without and with a π pulse in it;
- `xy8_tau`, `xy8_freq`: dynamical decoupling by trains of π pulses, swept in their distance.

Recipes that alternate play every point twice, with a final π/2 and with a final 3π/2 pulse.
-/

namespace PulseBench

variable {α : Type}

/-- Makes the objects of a recipe, named after the given name. -/
abbrev RecipeRule (α : Type) :=
  RecipeContext α → String → ParamSet α → Except (Failure α) (Generated α)

namespace Recipe

variable [Scalar α]

/-- `count` values from `start`, in equal steps. -/
def sweep (start step : α) (count : Nat) : List α :=
  (List.range count).map fun i => start + Scalar.ofNat i * step

/-- Lasers per point. -/
def lasersPerPoint (alternating : Bool) : Nat := if alternating then 2 else 1

/-- The readout of a sweep. -/
def sweepReadout (axis : List α) (unit label : String) (alternating : Bool) : Readout α where
  alternating := alternating
  ignored := []
  axis := axis
  units := (unit, "")
  labels := (label, "Signal")
  lasers := lasersPerPoint alternating * axis.length
  countingLength := 0.0

/-- The readout of a sweep of durations. -/
def tauReadout (taus : List α) (alternating : Bool) : Readout α :=
  sweepReadout taus "s" "Tau" alternating

/-- The readout of a sweep of frequencies. -/
def frequencyReadout (frequencies : List α) (alternating : Bool) : Readout α :=
  sweepReadout frequencies "Hz" "Frequency" alternating

/-- An ensemble that plays one element once. -/
def single (element : RecipeContext α → α → Element α) (lasers : Nat) : RecipeRule α :=
  fun c name params => do
    c.checkChannels
    let length ← params.number "length"
    let readout := { tauReadout [0.0] false with lasers }
    c.finish name ⟨name, [element c length]⟩ 1 false readout

def laserOn : RecipeRule α := single (fun c length => c.laser length 0.0) 1

def laserMicrowaveOn : RecipeRule α :=
  single (fun c length => c.withLaser (c.drive length 0.0)) 1

def idle : RecipeRule α := single (fun c length => c.idle length 0.0) 0

def rabi : RecipeRule α := fun c name params => do
  c.checkChannels
  let start ← params.number "tau_start"
  let step ← params.number "tau_step"
  let points ← params.count "number_of_taus"
  c.finish name ⟨name, c.drive start step :: c.readout⟩ points false
    (tauReadout (sweep start step points) false)

/-- One point of `pulsedodmr`. -/
def odmrPoint (c : RecipeContext α) (frequency : α) : List (Element α) :=
  let g := c.generation
  c.microwave (g.rabiPeriod / 2.0) 0.0 g.microwaveAmplitude frequency 0.0 :: c.readout

def pulsedOdmr : RecipeRule α := fun c name params => do
  c.checkChannels
  let start ← params.number "freq_start"
  let step ← params.number "freq_step"
  let points ← params.count "num_of_points"
  let frequencies := sweep start step points
  c.finish name ⟨name, frequencies.flatMap (odmrPoint c)⟩ 1 false
    (frequencyReadout frequencies false)

/-! ## Free evolution -/

/-- The final pulses of a point: with alternation also the 3π/2 pulse. -/
def finals (c : RecipeContext α) (alternating : Bool) : List (Element α) :=
  if alternating then [c.halfPi, c.threeHalfPi] else [c.halfPi]

/-- `π/2, τ, [refocus, τ,] final, readout`. -/
def evolution (c : RecipeContext α) (tau : Element α) (refocus : Option (Element α))
    (final : Element α) : List (Element α) :=
  [c.halfPi, tau] ++ (refocus.elim [] fun pulse => [pulse, tau]) ++ [final] ++ c.readout

/-- Free evolution for a time that grows with every repetition. With a refocusing pulse the axis
states both halves of it. -/
def freeEvolution (refocus : RecipeContext α → Option (Element α)) : RecipeRule α :=
  fun c name params => do
    c.checkChannels
    let start ← params.number "tau_start"
    let step ← params.number "tau_step"
    let points ← params.count "num_of_points"
    let alternating ← params.truth "alternating"
    let tau := c.idle start step
    let elements := (finals c alternating).flatMap (evolution c tau (refocus c))
    let scale : α := if (refocus c).isSome then 2.0 else 1.0
    c.finish name ⟨name, elements⟩ points true
      (tauReadout (sweep (start * scale) (step * scale) points) alternating)

def ramsey : RecipeRule α := freeEvolution fun _ => none

def hahnEcho : RecipeRule α := freeEvolution fun c => some (c.rotation 0.5 0.0)

/-! ## Decoupling -/

/-- The π pulses of one cycle: X Y X Y Y X Y X. -/
def xy8Cycle (c : RecipeContext α) : List (Element α) :=
  let x := c.rotation 0.5 0.0
  let y := c.rotation 0.5 90.0
  [x, y, x, y, y, x, y, x]

/-- The π pulses of `order` cycles, with one idle element between any two of them. -/
def xy8Train (c : RecipeContext α) (tau : Element α) (order : Nat) : List (Element α) :=
  ((List.replicate order (xy8Cycle c)).flatten).intersperse tau

/-- `π/2, τ/2, train, τ/2, final, readout`. -/
def xy8Run (c : RecipeContext α) (halfTau tau : Element α) (order : Nat) (final : Element α) :
    List (Element α) :=
  [c.halfPi, halfTau] ++ xy8Train c tau order ++ [halfTau, final] ++ c.readout

/-- The runs of one point, for an idle time and its increment. -/
def xy8Point (c : RecipeContext α) (tau increment : α) (order : Nat) (alternating : Bool) :
    List (Element α) :=
  (finals c alternating).flatMap
    (xy8Run c (c.idle (tau / 2.0) (increment / 2.0)) (c.idle tau increment) order)

/-- The distance of pulses is counted between their centres; the idle time between two π pulses is
shorter by one of them, and never negative. -/
def xy8Tau : RecipeRule α := fun c name params => do
  c.checkChannels
  let start ← params.number "tau_start"
  let step ← params.number "tau_step"
  let points ← params.count "num_of_points"
  let order ← params.count "xy8_order"
  let alternating ← params.truth "alternating"
  let idleStart := Scalar.clipped (start - c.generation.rabiPeriod / 2.0)
  c.finish name ⟨name, xy8Point c idleStart step order alternating⟩ points true
    (tauReadout (sweep start step points) alternating)

/-- The idle time between two π pulses for a decoupling frequency. -/
def xy8Idle (c : RecipeContext α) (frequency : α) : Except (Failure α) α :=
  if frequency ≤ 0.0 then .error (.generator (.decouplingFrequency frequency))
  else .ok (Scalar.clipped (1.0 / (2.0 * frequency) - c.generation.rabiPeriod / 2.0))

/-- The frequency that an idle time plays. It differs from the one asked for where the idle time
was clipped. -/
def xy8Played (c : RecipeContext α) (tau : α) : α :=
  1.0 / (2.0 * (tau + c.generation.rabiPeriod / 2.0))

def xy8Frequency : RecipeRule α := fun c name params => do
  c.checkChannels
  let start ← params.number "freq_start"
  let step ← params.number "freq_step"
  let points ← params.count "num_of_points"
  let order ← params.count "xy8_order"
  let alternating ← params.truth "alternating"
  let taus ← (sweep start step points).mapM (xy8Idle c)
  c.finish name ⟨name, taus.flatMap fun tau => xy8Point c tau 0.0 order alternating⟩ 1 true
    (frequencyReadout (taus.map (xy8Played c)) alternating)

/-! ## Declarations -/

/-- A number that is not negative. -/
def positiveSpec (name unit : String) (default : α) : ParamSpec α :=
  .real name unit default (.point 0.0) .beyond

/-- Any number. -/
def stepSpec (name unit : String) (default : α) : ParamSpec α :=
  .real name unit default .beyond .beyond

def pointsSpec (name : String) : ParamSpec α := .int name "" 50 1 100000

def lengthSchema : Schema α := [positiveSpec "length" "s" 3e-6]

def tauSchema : Schema α :=
  [ positiveSpec "tau_start" "s" 1e-6, positiveSpec "tau_step" "s" 1e-6,
    pointsSpec "num_of_points", .bool "alternating" true ]

def xy8Schema (start step : ParamSpec α) : Schema α :=
  [ start, step, pointsSpec "num_of_points", .int "xy8_order" "" 4 1 1000,
    .bool "alternating" true ]

/-- The recipes that are always there. -/
def basic : List (Method α (RecipeRule α)) :=
  [ ⟨"laser_on", lengthSchema, laserOn⟩,
    ⟨"laser_mw_on", lengthSchema, laserMicrowaveOn⟩,
    ⟨"idle", lengthSchema, idle⟩,
    ⟨"rabi",
      [positiveSpec "tau_start" "s" 10e-9, positiveSpec "tau_step" "s" 10e-9,
        pointsSpec "number_of_taus"],
      rabi⟩,
    ⟨"pulsedodmr",
      [positiveSpec "freq_start" "Hz" 2870e6, stepSpec "freq_step" "Hz" 0.2e6,
        pointsSpec "num_of_points"],
      pulsedOdmr⟩,
    ⟨"ramsey", tauSchema, ramsey⟩,
    ⟨"hahnecho", tauSchema, hahnEcho⟩,
    ⟨"xy8_tau",
      xy8Schema (positiveSpec "tau_start" "s" 0.5e-6) (positiveSpec "tau_step" "s" 0.01e-6),
      xy8Tau⟩,
    ⟨"xy8_freq",
      xy8Schema (positiveSpec "freq_start" "Hz" 0.1e6) (stepSpec "freq_step" "Hz" 0.01e6),
      xy8Frequency⟩ ]

def catalogue : List (PluginRoot α (RecipeRule α)) :=
  [⟨Registry.builtinRoot, [⟨"basic_predefined_methods", .ok basic⟩]⟩]

/-- The recipes of the built-in root and the named ones. -/
def registry (extra : List String) : Registry α (RecipeRule α) :=
  Registry.ofCatalogue "predefined generators" catalogue extra

end Recipe

end PulseBench
