import PulseBench.Counting.Counts
import PulseBench.Plugin.Registry
import PulseBench.Program.Object

/-!
# Extracting laser pulses

Extraction finds the laser pulses in raw counts and cuts out one row of counts for each. The rules
are kept in a registry; every rule works either on traces or on gates.
-/

namespace PulseBench

variable {α : Type}

/-- What extraction can know besides the counts. -/
structure ExtractionContext (α : Type) where
  /-- In seconds. -/
  binWidth : α
  /-- Number of laser pulses to be found. -/
  lasers : Nat
  /-- Times at which the laser pulses begin, in seconds from the start of playback. -/
  risingTimes : List α

namespace ExtractionContext

variable [Scalar α]

/-- The rising edges of a channel that a record lists, as times; none without record or rate. -/
def edgeTimes (record : Option (Record α)) (channel : String) : List α :=
  match record with
  | none => []
  | some r =>
      if 0.0 < r.settings.rate then
        ((r.rising.get? channel).getD []).map fun bin => Scalar.ofNat bin / r.settings.rate
      else []

/-- The context of a loaded asset whose laser pulses begin at the rising edges of a channel. -/
def ofRecord (binWidth : α) (lasers : Nat) (record : Option (Record α)) (channel : String) :
    ExtractionContext α :=
  ⟨binWidth, lasers, edgeTimes record channel⟩

end ExtractionContext

/-- The laser pulses that were found. -/
structure Extraction where
  /-- Counts by laser and time bin. -/
  counts : Grid Nat
  /-- First bin of every pulse. -/
  rising : List Nat
  /-- The bin behind every pulse. -/
  falling : List Nat
deriving DecidableEq

/-- How laser pulses are found: in a trace, or in gates. -/
inductive ExtractionRule (α : Type) where
  | ofTrace (rule : List Nat → ExtractionContext α → ParamSet α → Except (Failure α) Extraction)
  | ofGates (rule : Grid Nat → ExtractionContext α → ParamSet α → Except (Failure α) Extraction)

/-- Whether the rule works on gates. -/
def ExtractionRule.isGated : ExtractionRule α → Bool
  | .ofTrace _ => false
  | .ofGates _ => true

/-- A method of extraction. -/
abbrev ExtractionMethod (α : Type) := Method α (ExtractionRule α)

/-- Extracts the laser pulses of some counts, by the method's rule and the given parameters. -/
def ExtractionMethod.extract [Scalar α] (m : ExtractionMethod α) (counts : Counts)
    (context : ExtractionContext α) (params : ParamSet α) : Except (Failure α) Extraction := do
  let resolved : Except (Failure α) (ParamSet α) := do
    unless 0.0 < context.binWidth do throw (.measure .binWidthNotPositive)
    m.schema.resolve params
  match m.rule, counts with
  | .ofTrace rule, .trace bins => rule bins context (← resolved)
  | .ofGates rule, .gates grid => rule grid context (← resolved)
  | rule, _ => throw (.measure (.countsNotExpected m.name rule.isGated))

/-! ## Windows -/

/-- The count of a bin; bins outside of the trace hold none. -/
def countAt (counts : Array Nat) : Int → Nat
  | .ofNat bin => counts[bin]?.getD 0
  | .negSucc _ => 0

/-- Cuts a window of `length` bins from a trace at every start. -/
def windows (trace : List Nat) (starts : List Int) (length : Nat) : Grid Nat where
  rows :=
    let bins := trace.toArray
    starts.map fun start => (List.range length).map fun (i : Nat) => countAt bins (start + i)
  columns := length
  rectangular := by simp

/-- The parameters of a window: how far behind the edge it begins, and its length in bins, zero if
it is left open. -/
def windowOf [Scalar α] (context : ExtractionContext α) (params : ParamSet α) :
    Except (Failure α) (Int × Nat) := do
  let delay ← params.number "delay"
  let length ← params.number "window_length"
  return (Scalar.toOffset (delay / context.binWidth), Scalar.toBins (length / context.binWidth))

/-- The declared parameters of a window. -/
def windowSchema [Scalar α] : Schema α :=
  [ .real "delay" "s" 0.0 (.point (-1e-3)) (.point 1e-3),
    .real "window_length" "s" 0.0 (.point 0.0) (.point 1.0) ]

end PulseBench
