import PulseBench.Config
import PulseBench.Session.Basic

/-!
# Starting a session
-/

namespace PulseBench.Session

variable {α δ κ μ : Type} [Analytic α] [Pulser α δ] [Counter α κ]

/-- A session with the devices. `store` is what the directory of pulse objects holds. -/
def start (config : Config α) (store : Store α) (pulser : δ) (counter : κ)
    (microwave : Option μ) : Except (Failure α) (Session α δ κ μ) := do
  let generator ← Generator.start (config.generatorOptions store) pulser
  let measurement ← Measurement.ofDevices config.measurementOptions counter microwave
  return {
    generator
    measurement := { measurement with outbox := some (.ofCapacity config.capacity) }
    guard := .idle
    forwarded := none
    generatorQueue := []
    measurementQueue := []
    capacity := config.capacity
    dataDirectory := config.dataDirectory }

end PulseBench.Session
