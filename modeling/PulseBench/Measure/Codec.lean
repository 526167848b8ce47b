import PulseBench.Json.Value
import PulseBench.Measure.Settings
import PulseBench.Microwave

/-!
# Measurement settings as JSON

Every field may be missing and then has its default.
-/

namespace PulseBench

variable {α : Type} [Scalar α]

open Json

def MeasurementSettings.toJson (s : MeasurementSettings α) : Json α :=
  .object
    [ ("invoke_settings", .bool s.invoke), ("controlled_variable", Json.ofList ofNumber s.axis),
      ("number_of_lasers", Json.ofNat s.lasers),
      ("laser_ignore_list", Json.ofList .int s.ignored), ("alternating", .bool s.alternating),
      ("units", ofPair .text .text s.units), ("labels", ofPair .text .text s.labels) ]

def MeasurementSettings.ofJson? (j : Json α) : Option (MeasurementSettings α) := do
  let [invoke, axis, lasers, ignored, alternating, units, labels] ←
    j.record? ["invoke_settings", "controlled_variable", "number_of_lasers", "laser_ignore_list",
      "alternating", "units", "labels"] | none
  let d : MeasurementSettings α := .default
  return {
    invoke := ← withDefault d.invoke bool? invoke
    axis := ← withDefault d.axis (list? number?) axis
    lasers := ← withDefault d.lasers count? lasers
    ignored := ← withDefault d.ignored (list? int?) ignored
    alternating := ← withDefault d.alternating bool? alternating
    units := ← withDefault d.units (pair? text? text?) units
    labels := ← withDefault d.labels (pair? text? text?) labels }

omit [Scalar α] in
def TriggerEdge.toJson : TriggerEdge → Json α
  | .rising => .text "Rising"
  | .falling => .text "Falling"

omit [Scalar α] in
def TriggerEdge.ofJson? (j : Json α) : Option TriggerEdge :=
  match j.case? with
  | some "Rising" => some .rising
  | some "Falling" => some .falling
  | _ => none

def TriggerTiming.toJson (t : TriggerTiming α) : Json α :=
  .object [("edge", t.edge.toJson), ("delay", ofNumber t.delay)]

def TriggerTiming.ofJson? (j : Json α) : Option (TriggerTiming α) := do
  let [edge, delay] ← j.record? ["edge", "delay"] | none
  return ⟨← required TriggerEdge.ofJson? edge, ← required number? delay⟩

def MicrowaveSettings.toJson (s : MicrowaveSettings α) : Json α :=
  .object
    [ ("use_ext_microwave", .bool s.external), ("frequency", ofNumber s.frequency),
      ("power", ofNumber s.power), ("trigger_timing", ofOption TriggerTiming.toJson s.timing) ]

def MicrowaveSettings.ofJson? (j : Json α) : Option (MicrowaveSettings α) := do
  let [external, frequency, power, timing] ←
    j.record? ["use_ext_microwave", "frequency", "power", "trigger_timing"] | none
  let d : MicrowaveSettings α := .default
  return {
    external := ← withDefault d.external bool? external
    frequency := ← withDefault d.frequency number? frequency
    power := ← withDefault d.power number? power
    timing := ← withDefault d.timing (option? TriggerTiming.ofJson?) timing }

/-! ## Instances -/

instance : JsonForm α (MeasurementSettings α) :=
  ⟨MeasurementSettings.toJson, MeasurementSettings.ofJson?⟩
instance : JsonForm α (TriggerTiming α) := ⟨TriggerTiming.toJson, TriggerTiming.ofJson?⟩
instance : JsonForm α (MicrowaveSettings α) :=
  ⟨MicrowaveSettings.toJson, MicrowaveSettings.ofJson?⟩

end PulseBench
