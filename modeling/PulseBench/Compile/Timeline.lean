import PulseBench.Scalar

/-!
# The quantised timeline

Durations are real numbers, but a device plays whole sample bins. The timeline keeps the ideal time
and the bins emitted so far, for a whole ensemble: every element gets the bins from the last
emitted one up to the nearest bin of its ideal end. An element is so at most one bin off its ideal
length, and the total is the nearest number of bins of the total duration, however many elements
there are.
-/

namespace PulseBench

/-- Ideal time and emitted bins at a sample rate. -/
structure Timeline (α : Type) where
  rate : α
  ideal : α
  emitted : Nat

namespace Timeline

variable {α : Type} [Scalar α]

def start (rate : α) : Timeline α := ⟨rate, 0.0, 0⟩

/-- Passes a duration. -/
def advance (t : Timeline α) (duration : α) : Timeline α :=
  let ideal := t.ideal + duration
  ⟨t.rate, ideal, max t.emitted (Scalar.toBins (ideal * t.rate))⟩

/-- The bins that a duration gets. -/
def binsFor (t : Timeline α) (duration : α) : Nat := (t.advance duration).emitted - t.emitted

/-- The timeline after a list of durations. -/
def run (t : Timeline α) (durations : List α) : Timeline α := durations.foldl advance t

/-- The bins of every duration of a list. -/
def bins (t : Timeline α) : List α → List Nat
  | [] => []
  | duration :: rest => t.binsFor duration :: (t.advance duration).bins rest

end Timeline

end PulseBench
