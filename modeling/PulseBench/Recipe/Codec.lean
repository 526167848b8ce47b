import PulseBench.Json.Value
import PulseBench.Recipe.Parts

/-!
# Generation parameters as JSON

Every field may be missing and then has its default.
-/

namespace PulseBench.GenerationParameters

variable {α : Type} [Scalar α]

open Json

def toJson (g : GenerationParameters α) : Json α :=
  .object
    [ ("laser_channel", .text g.laserChannel), ("sync_channel", ofOption .text g.syncChannel),
      ("gate_channel", ofOption .text g.gateChannel),
      ("microwave_channel", .text g.microwaveChannel),
      ("microwave_frequency", ofNumber g.microwaveFrequency),
      ("microwave_amplitude", ofNumber g.microwaveAmplitude),
      ("laser_length", ofNumber g.laserLength), ("laser_delay", ofNumber g.laserDelay),
      ("wait_time", ofNumber g.waitTime), ("rabi_period", ofNumber g.rabiPeriod),
      ("analog_trigger_voltage", ofNumber g.triggerVoltage) ]

/-- The names of the fields in order. -/
def fieldNames : List String :=
  [ "laser_channel", "sync_channel", "gate_channel", "microwave_channel", "microwave_frequency",
    "microwave_amplitude", "laser_length", "laser_delay", "wait_time", "rabi_period",
    "analog_trigger_voltage" ]

def ofJson? (j : Json α) : Option (GenerationParameters α) := do
  let [laser, sync, gate, microwave, frequency, amplitude, length, delay, wait, rabi, voltage] ←
    j.record? fieldNames | none
  let d : GenerationParameters α := default
  return {
    laserChannel := ← withDefault d.laserChannel text? laser
    syncChannel := ← withDefault d.syncChannel (option? text?) sync
    gateChannel := ← withDefault d.gateChannel (option? text?) gate
    microwaveChannel := ← withDefault d.microwaveChannel text? microwave
    microwaveFrequency := ← withDefault d.microwaveFrequency number? frequency
    microwaveAmplitude := ← withDefault d.microwaveAmplitude number? amplitude
    laserLength := ← withDefault d.laserLength number? length
    laserDelay := ← withDefault d.laserDelay number? delay
    waitTime := ← withDefault d.waitTime number? wait
    rabiPeriod := ← withDefault d.rabiPeriod number? rabi
    triggerVoltage := ← withDefault d.triggerVoltage number? voltage }

instance : JsonForm α (GenerationParameters α) := ⟨toJson, ofJson?⟩

end PulseBench.GenerationParameters
