import PulseBench.Json.Value
import PulseBench.Program.Object

/-!
# Pulse objects as JSON

Every pulse object has a written form and a reader for it. Readers accept fields in any order and
give the documented default to a field that may be missing.
-/

namespace PulseBench

variable {α : Type} [Scalar α]

open Json

/-! ## Parameters and shapes -/

/-- A parameter is written as the bare value, so its type is that of the JSON value. -/
def ParamValue.toJson : ParamValue α → Json α
  | .bool b => .bool b
  | .int n => .int n
  | .real x => ofNumber x
  | .text s => .text s

/-- An integer that does not fit 64 bits with sign is a number. -/
def ParamValue.ofJson? (j : Json α) : Option (ParamValue α) :=
  (j.bool?.map .bool) <|> (j.int?.map .int) <|> (j.number?.map .real) <|> (j.text?.map .text)

def ParamSet.toJson (params : ParamSet α) : Json α := ofRoster ParamValue.toJson params

def ParamSet.ofJson? : Json α → Option (ParamSet α) := roster? ParamValue.ofJson?

def Shape.toJson (s : Shape α) : Json α :=
  .object [("kind", .text s.kind), ("params", ParamSet.toJson s.params)]

def Shape.ofJson? (j : Json α) : Option (Shape α) := do
  let [kind, params] ← j.record? ["kind", "params"] | none
  return ⟨← required text? kind, ← withDefault ∅ ParamSet.ofJson? params⟩

/-! ## Elements and blocks -/

def Element.toJson (e : Element α) : Json α :=
  .object
    [ ("init_length_s", ofNumber e.length), ("increment_s", ofNumber e.increment),
      ("pulse_function", ofRoster Shape.toJson e.shapes),
      ("digital_high", ofRoster .bool e.levels), ("laser_on", .bool e.laser) ]

def Element.ofJson? (j : Json α) : Option (Element α) := do
  let [length, increment, shapes, levels, laser] ←
    j.record? ["init_length_s", "increment_s", "pulse_function", "digital_high", "laser_on"] | none
  return {
    length := ← required number? length
    increment := ← withDefault 0.0 number? increment
    shapes := ← required (roster? Shape.ofJson?) shapes
    levels := ← required (roster? bool?) levels
    laser := ← withDefault false bool? laser }

def Block.toJson (b : Block α) : Json α :=
  .object [("name", .text b.name), ("element_list", Json.ofList Element.toJson b.elements)]

def Block.ofJson? (j : Json α) : Option (Block α) := do
  let [name, elements] ← j.record? ["name", "element_list"] | none
  return ⟨← required text? name, ← required (list? Element.ofJson?) elements⟩

/-! ## Records -/

def Readout.toJson (r : Readout α) : Json α :=
  .object
    [ ("alternating", .bool r.alternating), ("laser_ignore_list", Json.ofList .int r.ignored),
      ("controlled_variable", Json.ofList ofNumber r.axis),
      ("units", ofPair .text .text r.units), ("labels", ofPair .text .text r.labels),
      ("number_of_lasers", Json.ofNat r.lasers), ("counting_length", ofNumber r.countingLength) ]

def Readout.ofJson? (j : Json α) : Option (Readout α) := do
  let [alternating, ignored, axis, units, labels, lasers, countingLength] ←
    j.record? ["alternating", "laser_ignore_list", "controlled_variable", "units", "labels",
      "number_of_lasers", "counting_length"] | none
  return {
    alternating := ← required bool? alternating
    ignored := ← required (list? int?) ignored
    axis := ← required (list? number?) axis
    units := ← required (pair? text? text?) units
    labels := ← required (pair? text? text?) labels
    lasers := ← required count? lasers
    countingLength := ← required number? countingLength }

def PulserSettings.toJson (s : PulserSettings α) : Json α :=
  .object
    [ ("sample_rate", ofNumber s.rate),
      ("activation_config", ofPair .text ofNameSet (s.activation, s.active)),
      ("analog_amplitudes", ofRoster ofNumber s.amplitudes) ]

def PulserSettings.ofJson? (j : Json α) : Option (PulserSettings α) := do
  let [rate, activation, amplitudes] ←
    j.record? ["sample_rate", "activation_config", "analog_amplitudes"] | none
  let (name, active) ← required (pair? text? nameSet?) activation
  return ⟨← required number? rate, name, active, ← required (roster? number?) amplitudes⟩

def Record.toJson (r : Record α) : Json α :=
  let bins := ofRoster (Json.ofList Json.ofNat)
  .object
    [ ("number_of_samples", Json.ofNat r.samples), ("number_of_elements", Json.ofNat r.elements),
      ("elements_length_bins", Json.ofList Json.ofNat r.bins),
      ("digital_rising_bins", bins r.rising), ("digital_falling_bins", bins r.falling),
      ("analog_channels", ofNameSet r.analog), ("digital_channels", ofNameSet r.digital),
      ("pulse_generator_settings", r.settings.toJson), ("waveforms", ofTexts r.waveforms) ]

def Record.ofJson? (j : Json α) : Option (Record α) := do
  let [samples, elements, bins, rising, falling, analog, digital, settings, waveforms] ←
    j.record? ["number_of_samples", "number_of_elements", "elements_length_bins",
      "digital_rising_bins", "digital_falling_bins", "analog_channels", "digital_channels",
      "pulse_generator_settings", "waveforms"] | none
  return {
    samples := ← required count? samples
    elements := ← required count? elements
    bins := ← required (list? count?) bins
    rising := ← required (roster? (list? count?)) rising
    falling := ← required (roster? (list? count?)) falling
    analog := ← required nameSet? analog
    digital := ← required nameSet? digital
    settings := ← required PulserSettings.ofJson? settings
    waveforms := ← required texts? waveforms }

/-! ## Ensembles and sequences -/

def Ensemble.toJson (e : Ensemble α) : Json α :=
  .object
    [ ("name", .text e.name),
      ("block_list", Json.ofList (ofPair .text Json.ofNat) e.plays),
      ("rotating_frame", .bool e.rotating),
      ("measurement_information", ofOption Readout.toJson e.readout),
      ("sampling_information", ofOption Record.toJson e.record) ]

def Ensemble.ofJson? (j : Json α) : Option (Ensemble α) := do
  let [name, plays, rotating, readout, record] ←
    j.record? ["name", "block_list", "rotating_frame", "measurement_information",
      "sampling_information"] | none
  return {
    name := ← required text? name
    plays := ← required (list? (pair? text? count?)) plays
    rotating := ← withDefault false bool? rotating
    readout := ← withDefault none (option? Readout.ofJson?) readout
    record := ← withDefault none (option? Record.ofJson?) record }

omit [Scalar α] in
def Repetitions.toJson : Repetitions → Json α
  | .finite n => .object [("Finite", Json.ofNat n)]
  | .infinite => .text "Infinite"

omit [Scalar α] in
/-- A number of repetitions has at most 32 bits. -/
def Repetitions.ofJson? : Json α → Option Repetitions
  | .object [("Finite", n)] => (n.intBetween? 0 (Int.pow 2 32 - 1)).map fun n => .finite n.toNat
  | j => if j.case? == some "Infinite" then some .infinite else none

omit [Scalar α] in
def Step.toJson (s : Step) : Json α :=
  .object
    [ ("ensemble", .text s.ensemble), ("repetitions", s.repetitions.toJson),
      ("go_to", ofOption Json.ofNat s.goTo),
      ("event_jump_to", ofOption Json.ofNat s.eventJumpTo),
      ("event_trigger", ofOption .text s.eventTrigger), ("wait_for", ofOption .text s.waitFor),
      ("flag_trigger", ofTexts s.flagTrigger), ("flag_high", ofTexts s.flagHigh) ]

omit [Scalar α] in
def Step.ofJson? (j : Json α) : Option Step := do
  let [ensemble, repetitions, goTo, eventJumpTo, eventTrigger, waitFor, flagTrigger, flagHigh] ←
    j.record? ["ensemble", "repetitions", "go_to", "event_jump_to", "event_trigger", "wait_for",
      "flag_trigger", "flag_high"] | none
  return {
    ensemble := ← required text? ensemble
    repetitions := ← withDefault (.finite 1) Repetitions.ofJson? repetitions
    goTo := ← withDefault none (option? count?) goTo
    eventJumpTo := ← withDefault none (option? count?) eventJumpTo
    eventTrigger := ← withDefault none (option? text?) eventTrigger
    waitFor := ← withDefault none (option? text?) waitFor
    flagTrigger := ← withDefault [] texts? flagTrigger
    flagHigh := ← withDefault [] texts? flagHigh }

def Sequence.toJson (s : Sequence α) : Json α :=
  .object
    [ ("name", .text s.name), ("steps", Json.ofList Step.toJson s.steps),
      ("rotating_frame", .bool s.rotating),
      ("measurement_information", ofOption Readout.toJson s.readout),
      ("sampling_information", ofOption Record.toJson s.record) ]

def Sequence.ofJson? (j : Json α) : Option (Sequence α) := do
  let [name, steps, rotating, readout, record] ←
    j.record? ["name", "steps", "rotating_frame", "measurement_information",
      "sampling_information"] | none
  return {
    name := ← required text? name
    steps := ← required (list? Step.ofJson?) steps
    rotating := ← withDefault false bool? rotating
    readout := ← withDefault none (option? Readout.ofJson?) readout
    record := ← withDefault none (option? Record.ofJson?) record }

/-! ## Instances -/

instance : JsonForm α (Readout α) := ⟨Readout.toJson, Readout.ofJson?⟩
instance : JsonForm α (Block α) := ⟨Block.toJson, Block.ofJson?⟩
instance : JsonForm α (Ensemble α) := ⟨Ensemble.toJson, Ensemble.ofJson?⟩
instance : JsonForm α (Sequence α) := ⟨Sequence.toJson, Sequence.ofJson?⟩

end PulseBench
