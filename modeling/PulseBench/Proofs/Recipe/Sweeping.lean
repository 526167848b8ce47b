import PulseBench.Compile.Playback
import PulseBench.Proofs.Plugin.Builtin
import PulseBench.Proofs.Plugin.Declared
import PulseBench.Proofs.Recipe.Made
import PulseBench.Recipe.Basic

/-!
# Recipes that sweep a quantity

Six recipes play a measurement for several values of one quantity. Four of them sweep a
duration: their block is repeated, and grows with every repetition. Two sweep a
frequency: their block is played once and has a group of pulses for every value.

Results:
1. `find_method`: each of the names stands for its recipe, whatever else is asked for.
2. `exists_parameters`: accepted parameters can be read; there is at least one point.
3. `rule_cases`: what a recipe makes of them, and when it makes nothing; `accepted_makes` for the
   recipes of a registry.
-/

namespace PulseBench

variable {α : Type} [Scalar α]

/-- The recipes that sweep a quantity. -/
inductive Sweeping where
  | rabi
  | pulsedOdmr
  | ramsey
  | hahnEcho
  | xy8Tau
  | xy8Frequency
deriving DecidableEq

namespace Sweeping

/-! ## 1. Methods -/

/-- The values are durations: the block is repeated for each of them. -/
def repeats : Sweeping → Bool
  | rabi | ramsey | hahnEcho | xy8Tau => true
  | pulsedOdmr | xy8Frequency => false

/-- Points can be played twice. -/
def alternates : Sweeping → Bool
  | rabi | pulsedOdmr => false
  | ramsey | hahnEcho | xy8Tau | xy8Frequency => true

/-- Points are trains of π pulses. -/
def decouples : Sweeping → Bool
  | xy8Tau | xy8Frequency => true
  | rabi | pulsedOdmr | ramsey | hahnEcho => false

def name : Sweeping → String
  | rabi => "rabi"
  | pulsedOdmr => "pulsedodmr"
  | ramsey => "ramsey"
  | hahnEcho => "hahnecho"
  | xy8Tau => "xy8_tau"
  | xy8Frequency => "xy8_freq"

open Recipe in
def schema : Sweeping → Schema α
  | rabi =>
      [positiveSpec "tau_start" "s" 10e-9, positiveSpec "tau_step" "s" 10e-9,
        pointsSpec "number_of_taus"]
  | pulsedOdmr =>
      [positiveSpec "freq_start" "Hz" 2870e6, stepSpec "freq_step" "Hz" 0.2e6,
        pointsSpec "num_of_points"]
  | ramsey | hahnEcho => tauSchema
  | xy8Tau => xy8Schema (positiveSpec "tau_start" "s" 0.5e-6) (positiveSpec "tau_step" "s" 0.01e-6)
  | xy8Frequency =>
      xy8Schema (positiveSpec "freq_start" "Hz" 0.1e6) (stepSpec "freq_step" "Hz" 0.01e6)

def rule : Sweeping → RecipeRule α
  | rabi => Recipe.rabi
  | pulsedOdmr => Recipe.pulsedOdmr
  | ramsey => Recipe.ramsey
  | hahnEcho => Recipe.hahnEcho
  | xy8Tau => Recipe.xy8Tau
  | xy8Frequency => Recipe.xy8Frequency

def method (s : Sweeping) : Method α (RecipeRule α) := ⟨s.name, s.schema, s.rule⟩

/-- There are no recipes but the basic ones. -/
theorem find_method (extra : List String) (s : Sweeping) :
    (Recipe.registry extra : Registry α (RecipeRule α)).find s.name = .ok s.method := by
  cases s <;> exact (Registry.find_builtin_iff ..).mpr rfl

/-! ## 2. Parameters -/

def startName (s : Sweeping) : String := if s.repeats then "tau_start" else "freq_start"

def stepName (s : Sweeping) : String := if s.repeats then "tau_step" else "freq_step"

def pointsName : Sweeping → String
  | rabi => "number_of_taus"
  | _ => "num_of_points"

/-- The parameters of a sweep. Some recipes have no order, and some never alternate. -/
structure Parameters (α : Type) where
  start : α
  step : α
  points : Nat
  order : Nat
  alternating : Bool

namespace Parameters

/-- The parameters are what a recipe reads. -/
structure ReadFrom (p : Parameters α) (s : Sweeping) (params : ParamSet α) : Prop where
  start : params.number s.startName = .ok p.start
  step : params.number s.stepName = .ok p.step
  points : params.count s.pointsName = .ok p.points
  order : s.decouples = true → params.count "xy8_order" = .ok p.order
  alternating : s.alternates = true → params.truth "alternating" = .ok p.alternating
  plain : s.alternates = false → p.alternating = false

/-- There is something to play. -/
structure Positive (p : Parameters α) (s : Sweeping) : Prop where
  points : 0 < p.points
  order : s.decouples = true → 0 < p.order

/-- The value of a point. -/
def value (p : Parameters α) (i : Nat) : α := p.start + Scalar.ofNat i * p.step

def values (p : Parameters α) : List α := Recipe.sweep p.start p.step p.points

end Parameters

theorem distinct (s : Sweeping) : ((s.schema : Schema α).names).Nodup := by
  cases s <;> simp [Schema.names, schema, Recipe.tauSchema, Recipe.xy8Schema, Recipe.positiveSpec,
    Recipe.stepSpec, Recipe.pointsSpec, ParamSpec.real, ParamSpec.int, ParamSpec.bool]

theorem declares_start (s : Sweeping) : ∃ unit default min max,
    ParamSpec.real s.startName unit default min max ∈ (s.schema : Schema α) := by
  cases s <;> exact ⟨_, _, _, _, .head _⟩

theorem declares_step (s : Sweeping) : ∃ unit default min max,
    ParamSpec.real s.stepName unit default min max ∈ (s.schema : Schema α) := by
  cases s <;> exact ⟨_, _, _, _, .tail _ (.head _)⟩

theorem declares_points (s : Sweeping) :
    ParamSpec.int s.pointsName "" 50 1 100000 ∈ (s.schema : Schema α) := by
  cases s <;> exact .tail _ (.tail _ (.head _))

theorem declares_order {s : Sweeping} (decouples : s.decouples = true) :
    ParamSpec.int "xy8_order" "" 4 1 1000 ∈ (s.schema : Schema α) := by
  cases s <;> first
    | exact .tail _ (.tail _ (.tail _ (.head _)))
    | cases decouples

theorem declares_alternating {s : Sweeping} (alternates : s.alternates = true) :
    ParamSpec.bool "alternating" true ∈ (s.schema : Schema α) := by
  cases s <;> first
    | exact .tail _ (.tail _ (.tail _ (.head _)))
    | exact .tail _ (.tail _ (.tail _ (.tail _ (.head _))))
    | cases alternates

/-- Accepted parameters can be read. -/
theorem exists_parameters [Scalar.Lawful α] (s : Sweeping) {given params : ParamSet α}
    (accepted : (s.schema : Schema α).resolve given = .ok params) :
    ∃ p : Parameters α, p.ReadFrom s params ∧ p.Positive s := by
  have complete := Schema.completes_of_resolve s.distinct accepted
  obtain ⟨_, _, _, _, own⟩ := s.declares_start (α := α)
  obtain ⟨start, startRead⟩ := complete.real own
  obtain ⟨_, _, _, _, own⟩ := s.declares_step (α := α)
  obtain ⟨step, stepRead⟩ := complete.real own
  obtain ⟨points, somePoints, pointsRead⟩ := complete.positive s.declares_points (by decide)
  obtain ⟨order, someOrder, orderRead⟩ : ∃ order, (s.decouples = true → 0 < order) ∧
      (s.decouples = true → params.count "xy8_order" = .ok order) := by
    cases decouples : s.decouples with
    | false => exact ⟨0, nofun, nofun⟩
    | true =>
      obtain ⟨order, positive, read⟩ := complete.positive (declares_order decouples) (by decide)
      exact ⟨order, fun _ => positive, fun _ => read⟩
  obtain ⟨alternating, truthRead, plain⟩ : ∃ alternating,
      (s.alternates = true → params.truth "alternating" = .ok alternating) ∧
      (s.alternates = false → alternating = false) := by
    cases alternates : s.alternates with
    | false => exact ⟨false, nofun, fun _ => rfl⟩
    | true =>
      obtain ⟨alternating, read⟩ := complete.truth (declares_alternating alternates)
      exact ⟨alternating, fun _ => read, nofun⟩
  exact ⟨⟨start, step, points, order, alternating⟩,
    ⟨startRead, stepRead, pointsRead, orderRead, truthRead, plain⟩, ⟨somePoints, someOrder⟩⟩

/-! ## 3. What is made -/

section Making

variable (s : Sweeping) (c : RecipeContext α) (p : Parameters α)

/-- The idle time between two π pulses whose centres are to be this far apart. -/
def idleTime (c : RecipeContext α) (spacing : α) : α :=
  Scalar.clipped (spacing - c.generation.rabiPeriod / 2.0)

/-- The distance of π pulses at a decoupling frequency. -/
def spacing (frequency : α) : α := 1.0 / (2.0 * frequency)

/-- The elements of the block. -/
def elements : List (Element α) :=
  match s with
  | rabi => c.drive p.start p.step :: c.readout
  | pulsedOdmr => p.values.flatMap (Recipe.odmrPoint c)
  | ramsey =>
      (Recipe.finals c p.alternating).flatMap (Recipe.evolution c (c.idle p.start p.step) none)
  | hahnEcho =>
      (Recipe.finals c p.alternating).flatMap
        (Recipe.evolution c (c.idle p.start p.step) (some (c.rotation 0.5 0.0)))
  | xy8Tau => Recipe.xy8Point c (idleTime c p.start) p.step p.order p.alternating
  | xy8Frequency =>
      p.values.flatMap fun frequency =>
        Recipe.xy8Point c (idleTime c (spacing frequency)) 0.0 p.order p.alternating

/-- The axis that is stated. -/
def axis : List α :=
  match s with
  | rabi | pulsedOdmr | xy8Tau => p.values
  | ramsey => Recipe.sweep (p.start * 1.0) (p.step * 1.0) p.points
  | hahnEcho => Recipe.sweep (p.start * 2.0) (p.step * 2.0) p.points
  | xy8Frequency =>
      p.values.map fun frequency => Recipe.xy8Played c (idleTime c (spacing frequency))

def repetitions : Nat := if s.repeats then p.points else 1

def readout : Readout α :=
  if s.repeats then Recipe.tauReadout (s.axis c p) p.alternating
  else Recipe.frequencyReadout (s.axis c p) p.alternating

/-- A recipe makes nothing if a channel is not active, or for a decoupling frequency that is not
positive. -/
def Refuses (f : Failure α) : Prop :=
  c.checkChannels = .error f ∨
    s = .xy8Frequency ∧ ∃ frequency ∈ p.values, frequency ≤ 0.0 ∧
      f = .generator (.decouplingFrequency frequency)

/-- The block, played once or for every point. -/
def finished (name : String) (countingLength : α) : Generated α :=
  c.finished name ⟨name, s.elements c p⟩ (s.repetitions p) s.alternates
    { s.readout c p with countingLength }

/-- The idle times of all frequencies, if these are positive. -/
theorem mapM_xy8Idle_cases (frequencies : List α) :
    (∃ frequency ∈ frequencies, frequency ≤ 0.0 ∧ frequencies.mapM (Recipe.xy8Idle c) =
      .error (.generator (.decouplingFrequency frequency))) ∨
    frequencies.mapM (Recipe.xy8Idle c) =
      .ok (frequencies.map fun frequency => idleTime c (spacing frequency)) := by
  cases idle : frequencies.mapM (Recipe.xy8Idle c) with
  | error f =>
    obtain ⟨frequency, member, refused⟩ := mapM_eq_error idle
    unfold Recipe.xy8Idle at refused
    split at refused
    · rename_i notPositive
      cases refused
      exact Or.inl ⟨frequency, member, notPositive, rfl⟩
    · cases refused
  | ok times =>
    refine Or.inr (idle.symm.trans (mapM_of_forall_eq fun frequency member => ?_))
    obtain ⟨time, known⟩ := forall_ok_of_mapM idle frequency member
    unfold Recipe.xy8Idle at known ⊢
    split at known
    · cases known
    · rename_i positive
      exact if_neg positive

variable {s c p}

/-- What a recipe makes, and when it makes nothing. -/
theorem rule_cases {params : ParamSet α} (read : p.ReadFrom s params) (name : String) :
    (∃ f, s.rule c name params = .error f ∧ s.Refuses c p f) ∨
      ∃ countingLength, s.rule c name params = .ok (s.finished c p name countingLength) := by
  cases active : c.checkChannels with
  | error f =>
    refine Or.inl ⟨f, ?_, Or.inl active⟩
    cases s <;> exact bind_eq_error.mpr (Or.inl active)
  | ok _ =>
    -- Everything is read, and then the block is finished.
    obtain ⟨length, finished⟩ := c.finish_eq_ok name ⟨name, s.elements c p⟩ (s.repetitions p)
      s.alternates (s.readout c p)
    cases s with
    | rabi =>
      have plain : Recipe.tauReadout p.values false = rabi.readout c p := by
        rw [readout, read.plain rfl]
        rfl
      rw [← plain] at finished
      refine Or.inr ⟨length, bind_eq_ok.mpr ⟨(), active, bind_eq_ok.mpr ⟨_, read.start,
        bind_eq_ok.mpr ⟨_, read.step, bind_eq_ok.mpr ⟨_, read.points, ?_⟩⟩⟩⟩⟩
      rw [Sweeping.finished, ← plain]
      exact finished
    | pulsedOdmr =>
      have plain : Recipe.frequencyReadout p.values false = pulsedOdmr.readout c p := by
        rw [readout, read.plain rfl]
        rfl
      refine Or.inr ⟨length, bind_eq_ok.mpr ⟨(), active, bind_eq_ok.mpr ⟨_, read.start,
        bind_eq_ok.mpr ⟨_, read.step, bind_eq_ok.mpr ⟨_, read.points, ?_⟩⟩⟩⟩⟩
      rw [← plain] at finished
      rw [Sweeping.finished, ← plain]
      exact finished
    | ramsey | hahnEcho =>
      exact Or.inr ⟨length, bind_eq_ok.mpr ⟨(), active, bind_eq_ok.mpr ⟨_, read.start,
        bind_eq_ok.mpr ⟨_, read.step, bind_eq_ok.mpr ⟨_, read.points,
          bind_eq_ok.mpr ⟨_, read.alternating rfl, finished⟩⟩⟩⟩⟩⟩
    | xy8Tau =>
      exact Or.inr ⟨length, bind_eq_ok.mpr ⟨(), active, bind_eq_ok.mpr ⟨_, read.start,
        bind_eq_ok.mpr ⟨_, read.step, bind_eq_ok.mpr ⟨_, read.points,
          bind_eq_ok.mpr ⟨_, read.order rfl,
            bind_eq_ok.mpr ⟨_, read.alternating rfl, finished⟩⟩⟩⟩⟩⟩⟩
    | xy8Frequency =>
      -- All frequencies are looked at before anything is finished.
      have start : params.number "freq_start" = .ok p.start := read.start
      have step : params.number "freq_step" = .ok p.step := read.step
      have points : params.count "num_of_points" = .ok p.points := read.points
      have opened : xy8Frequency.rule c name params =
          (p.values.mapM (Recipe.xy8Idle c) >>= fun times => c.finish name
            ⟨name, times.flatMap fun tau => Recipe.xy8Point c tau 0.0 p.order p.alternating⟩ 1 true
            (Recipe.frequencyReadout (times.map (Recipe.xy8Played c)) p.alternating)) := by
        simp only [rule, Recipe.xy8Frequency, active, start, step, points, read.order rfl,
          read.alternating rfl, ok_bind, Parameters.values]
      rcases mapM_xy8Idle_cases c p.values with ⟨frequency, member, notPositive, idle⟩ | idle
      · rw [idle] at opened
        exact Or.inl ⟨_, opened, Or.inr ⟨rfl, frequency, member, notPositive, rfl⟩⟩
      · refine Or.inr ⟨length, ?_⟩
        rw [opened, idle, ok_bind, List.flatMap_map, List.map_map]
        exact finished

end Making

/-- A recipe of a registry makes one ensemble of accepted parameters, and of it is true what is true
of every finished block. -/
theorem accepted_makes [Scalar.Lawful α] (extra : List String) {s : Sweeping}
    {m : Method α (RecipeRule α)} (found : (Recipe.registry extra).find s.name = .ok m)
    (c : RecipeContext α) (name : String) {given params : ParamSet α}
    (accepted : m.schema.resolve given = .ok params)
    {Q : Parameters α → List (Played α) → Readout α → Prop}
    (known : ∀ p : Parameters α, p.ReadFrom s params → ∀ countingLength,
      Q p ((Block.mk name (s.elements c p)).played (s.repetitions p))
        { s.readout c p with countingLength }) :
    ∃ p : Parameters α, p.ReadFrom s params ∧ p.Positive s ∧
      (∀ f, m.rule c name params = .error f → s.Refuses c p f) ∧
      ∀ made, m.rule c name params = .ok made → ∃ block e repetitions readout,
        made.blocks.head? = some block ∧ made.ensembles = [e] ∧
        e.plays.head? = some (block.name, repetitions) ∧ e.readout = some readout ∧
        Q p (block.played repetitions) readout := by
  rw [find_method] at found
  cases found
  obtain ⟨p, read, positive⟩ := s.exists_parameters accepted
  refine ⟨p, read, positive, ?_⟩
  rcases rule_cases read name with ⟨f, refused, refuses⟩ | ⟨countingLength, done⟩
  · refine ⟨fun g refused' => ?_, fun made done => ?_⟩
    · cases refused.symm.trans refused'
      exact refuses
    · cases refused.symm.trans done
  · refine ⟨fun g refused => ?_, fun made done' => ?_⟩
    · cases done.symm.trans refused
    · cases done.symm.trans done'
      exact ⟨_, _, _, _, rfl, rfl, rfl, rfl, known p read countingLength⟩

end Sweeping

end PulseBench
