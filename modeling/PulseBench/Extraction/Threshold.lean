import PulseBench.Extraction.Basic

/-!
# Laser pulses by threshold

A trace is *lit* in a bin whose count reaches the low threshold. A pulse begins at a bin that
reaches the high threshold and goes on while bins are lit; dark gaps up to a given length are
bridged. Both thresholds are fractions of the greatest count, so they hold while counts accumulate.
-/

namespace PulseBench.Threshold

variable {α : Type}

/-- A pulse that may go on: its first bin, and its last lit bin so far. -/
structure OpenPulse where
  first : Nat
  last : Nat

/-- The bins of a pulse, `stop` not included. -/
structure Pulse where
  start : Nat
  stop : Nat
deriving DecidableEq

def Pulse.length (p : Pulse) : Nat := p.stop - p.start

def OpenPulse.close (p : OpenPulse) : Pulse := ⟨p.first, p.last + 1⟩

/-- The search for pulses: those that have ended, and the one that may go on. -/
structure Search where
  found : List Pulse
  current : Option OpenPulse

namespace Search

/-- Passes a bin. `isHigh` and `isLit` tell whether its count reaches the thresholds. -/
def pass (gap : Nat) (s : Search) (bin : Nat) (isHigh isLit : Bool) : Search :=
  match s.current with
  | none => if isHigh then { s with current := some ⟨bin, bin⟩ } else s
  | some p =>
      if isLit then { s with current := some { p with last := bin } }
      else if gap < bin - p.last then ⟨s.found ++ [p.close], none⟩
      else s

/-- All pulses, the one that goes on to the end of the trace included. -/
def pulses (s : Search) : List Pulse := s.found ++ (s.current.map OpenPulse.close).toList

end Search

/-- The pulses of a trace by absolute thresholds, dark gaps of up to `gap` bins bridged. -/
def pulses [Scalar α] (high low : α) (gap : Nat) (trace : List Nat) : List Pulse :=
  (trace.zipIdx.foldl (fun s (count, bin) =>
    let n : α := Scalar.ofNat count
    s.pass gap bin (decide (high ≤ n)) (decide (low ≤ n))) (⟨[], none⟩ : Search)).pulses

/-- The greatest count. -/
def maxCount (trace : List Nat) : Nat := trace.foldl max 0

/-- Finds the pulses by threshold; there have to be as many as expected. Without a given length the
window is as long as the longest pulse. -/
def extract [Scalar α] (trace : List Nat) (context : ExtractionContext α) (params : ParamSet α) :
    Except (Failure α) Extraction := do
  let high ← params.number "high_threshold"
  let low ← params.number "low_threshold"
  if high < low then throw (.measure (.thresholdsCrossed low high))
  let greatest := maxCount trace
  if greatest = 0 then throw (.data .noCounts)
  let gap ← params.number "gap_tolerance"
  let least ← params.number "min_laser_length"
  let scale : α := Scalar.ofNat greatest
  let found := pulses (high * scale) (low * scale) (Scalar.toBins (gap / context.binWidth)) trace
  let kept := found.filter fun p =>
    decide (max (Scalar.toBins (least / context.binWidth)) 1 ≤ p.length)
  if kept.length ≠ context.lasers then throw (.data (.pulseCount kept.length context.lasers))
  let (delay, length) ← windowOf context params
  let length := if length = 0 then (kept.map Pulse.length).foldl max 0 else length
  return {
    counts := windows trace (kept.map fun p => (p.start : Int) + delay) length
    rising := kept.map Pulse.start
    falling := kept.map Pulse.stop }

def schema [Scalar α] : Schema α :=
  [ .real "high_threshold" "" 0.5 (.point 0.0) (.point 1.0),
    .real "low_threshold" "" 0.3 (.point 0.0) (.point 1.0),
    .real "gap_tolerance" "s" 10e-9 (.point 0.0) (.point 1e-3),
    .real "min_laser_length" "s" 10e-9 (.point 0.0) (.point 1e-3) ] ++ windowSchema

end PulseBench.Threshold
