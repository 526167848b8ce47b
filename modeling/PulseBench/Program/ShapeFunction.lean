import PulseBench.Plugin.Registry

/-!
# Shape functions

A shape function turns its parameters and the span of an element into a voltage over time.

- `Idle`: zero;
- `DC`: a constant voltage;
- `Sin`, `DoubleSin`, `TripleSin`: sums of one to three sines. The amplitude of a sine is its peak
  value, and it is put out peak to peak, so twice as large;
- `Chirp`: a sine whose frequency runs linearly over the span of the element.
-/

namespace PulseBench

variable {α : Type}

/-- Where an element lies in time: its start, and the time from its first to its last sample. -/
structure Span (α : Type) where
  start : α
  duration : α

/-- The voltage over time for given parameters and span. -/
abbrev ShapeRule (α : Type) := ParamSet α → Span α → Except (Failure α) (α → α)

namespace ShapeFunction

variable [Analytic α]

/-- An angle in degrees as radians. -/
def radians (degrees : α) : α := degrees * (Analytic.pi / 180.0)

/-- A full turn. -/
def turn : α := 2.0 * Analytic.pi

def idle : ShapeRule α := fun _ _ => .ok fun _ => 0.0

def constant : ShapeRule α := fun params _ => do
  let voltage ← params.number "voltage"
  return fun _ => voltage

/-- One sine of a sum, its parameters marked by `tag`. -/
def sineTerm (params : ParamSet α) (tag : String) : Except (Failure α) (α → α) := do
  let amplitude ← params.number ("amplitude" ++ tag)
  let frequency ← params.number ("frequency" ++ tag)
  let phase ← params.number ("phase" ++ tag)
  let peakToPeak := 2.0 * amplitude
  return fun t => peakToPeak * Analytic.sin (turn * frequency * t + radians phase)

/-- A sum of sines. -/
def sines (tags : List String) : ShapeRule α := fun params _ => do
  let terms ← tags.mapM (sineTerm params)
  return fun t => Scalar.sum (terms.map (· t))

/-- A sine whose frequency runs from `start_freq` to `stop_freq`. The phase is the time times the
mean frequency since the start of the element; a span without duration has no sweep. -/
def chirp : ShapeRule α := fun params span => do
  let amplitude ← params.number "amplitude"
  let phase ← params.number "phase"
  let start ← params.number "start_freq"
  let stop ← params.number "stop_freq"
  let peakToPeak := 2.0 * amplitude
  let sweep := if 0.0 < span.duration then (stop - start) / span.duration / 2.0 else 0.0
  return fun t =>
    peakToPeak * Analytic.sin (turn * t * (start + sweep * (t - span.start)) + radians phase)

/-! ## Declarations -/

def amplitudeSpec (name : String) : ParamSpec α := .real name "V" 0.0 (.point 0.0) .beyond

def frequencySpec (name : String) : ParamSpec α := .real name "Hz" 2.87e9 (.point 0.0) .beyond

def phaseSpec (name : String) : ParamSpec α :=
  .real name "°" 0.0 (.point (-360.0)) (.point 360.0)

def sineSchema (tags : List String) : Schema α :=
  tags.flatMap fun tag =>
    [amplitudeSpec ("amplitude" ++ tag), frequencySpec ("frequency" ++ tag),
      phaseSpec ("phase" ++ tag)]

/-- A method for a sum of sines. -/
def sineMethod (name : String) (tags : List String) : Method α (ShapeRule α) :=
  ⟨name, sineSchema tags, sines tags⟩

/-- The shapes that are always there. -/
def basic : List (Method α (ShapeRule α)) :=
  [ ⟨Shape.idleKind, [], idle⟩,
    ⟨"DC", [.real "voltage" "V" 0.0 .beyond .beyond], constant⟩,
    sineMethod "Sin" [""],
    sineMethod "DoubleSin" ["_1", "_2"],
    sineMethod "TripleSin" ["_1", "_2", "_3"],
    ⟨"Chirp",
      [amplitudeSpec "amplitude", phaseSpec "phase", frequencySpec "start_freq",
        frequencySpec "stop_freq"],
      chirp⟩ ]

def catalogue : List (PluginRoot α (ShapeRule α)) :=
  [⟨Registry.builtinRoot, [⟨"basic_sampling_functions", .ok basic⟩]⟩]

/-- The shape functions of the built-in root and the named ones. -/
def registry (extra : List String) : Registry α (ShapeRule α) :=
  Registry.ofCatalogue "sampling functions" catalogue extra

end ShapeFunction

/-- The voltages of a shape at the given times. -/
def Shape.voltages [Scalar α] (s : Shape α) (functions : Registry α (ShapeRule α))
    (span : Span α) (times : List α) : Except (Failure α) (List α) := do
  let m ← functions.find s.kind
  let params ← m.schema.resolve s.params
  let voltage ← m.rule params span
  return times.map voltage

end PulseBench
