import PulseBench.Json.Value
import PulseBench.Measure.Basic
import PulseBench.Store

/-!
# Saving a result

A result is saved as three JSON files whose names begin with a tag: signal and errors over the axis,
the counts of the laser pulses, and the raw counts.
-/

namespace PulseBench

variable {α κ μ : Type}

open Json

/-- The rows of a grid. -/
def Grid.toJson {β : Type} (write : β → Json α) (g : Grid β) : Json α :=
  Json.ofList (Json.ofList write) g.rows

/-- The counts as rows; a trace is a single row. -/
def Counts.toJson : Counts → Json α
  | .trace bins => .array [Json.ofList Json.ofNat bins]
  | .gates grid => grid.toJson Json.ofNat

namespace Measurement

/-- Signal and errors over the axis, with the view if there is one. -/
def resultToJson [Scalar α] (m : Measurement α κ μ) : Json α :=
  let d := m.data
  let viewKind := (d.view.map View.kind).getD .none
  .object
    [ ("controlled_variable", Json.ofList ofNumber d.axis),
      ("units", ofPair .text .text m.settings.units),
      ("labels", ofPair .text .text m.settings.labels),
      ("alternating", .bool m.settings.alternating),
      ("signal", d.signal.toJson ofNumber), ("error", d.errors.toJson ofNumber),
      ("alternative_data_type", .text viewKind.word),
      ("alternative_x", Json.ofList ofNumber ((d.view.map View.axis).getD [])),
      ("alternative_y", (d.view.map fun v => v.rows.toJson ofNumber).getD (.array [])),
      ("elapsed_sweeps", Json.ofNat d.sweeps) ]

/-- The counts of the laser pulses. -/
def lasersToJson [Scalar α] (m : Measurement α κ μ) : Json α :=
  .object
    [ ("bin_width", ofNumber m.counterSettings.binWidth),
      ("laser_data", m.data.lasers.toJson Json.ofNat) ]

/-- The raw counts. -/
def countsToJson [Scalar α] (m : Measurement α κ μ) : Json α :=
  .object
    [ ("bin_width", ofNumber m.counterSettings.binWidth),
      ("gated", .bool m.data.counts.isGated), ("counts", m.data.counts.toJson),
      ("elapsed_sweeps", Json.ofNat m.data.sweeps) ]

/-- A file of a result, under a name that a directory can hold. -/
def resultFile (tag ending : String) (content : Json α) :
    Except (Failure α) (String × Json α) :=
  let file := tag ++ "_" ++ ending ++ ".json"
  if Store.isWritable (file ++ Store.draftEnding) then .ok (file, content) else .error .io

/-- The files of the result. -/
def files [Scalar α] (m : Measurement α κ μ) (tag : String) :
    Except (Failure α) (List (String × Json α)) := do
  unless Store.isUsable tag do throw (.measure (.unusableTag tag))
  [("pulsed_measurement", m.resultToJson), ("laser_pulses", m.lasersToJson),
    ("raw_timetrace", m.countsToJson)].mapM fun (ending, content) => resultFile tag ending content

end Measurement

end PulseBench
