import PulseBench.Extraction.Basic

/-!
# Laser pulses at known times

The record of the loaded asset tells when its laser pulses begin, so a trace can be cut without
looking at the counts.
-/

namespace PulseBench.KnownEdges

variable {α : Type}

/-- The distances from each edge to the next, zero if the next one is not behind it. -/
def distances (edges : List Int) : List Nat :=
  (edges.zip edges.tail).map fun (edge, next) => (next - edge).toNat

/-- The longest window that no two edges share: up to the next edge, or for a single edge up to the
end of a trace of `bins` bins. -/
def openLength (bins : Nat) (edges : List Int) : Nat :=
  match distances edges with
  | [] => ((bins : Int) - edges.headD 0).toNat
  | first :: rest => rest.foldl min first

/-- Cuts windows at the known edges; there have to be as many as expected. -/
def extract [Scalar α] (trace : List Nat) (context : ExtractionContext α) (params : ParamSet α) :
    Except (Failure α) Extraction := do
  if context.risingTimes.isEmpty then throw (.data .noKnownEdges)
  if context.risingTimes.length ≠ context.lasers then
    throw (.data (.edgeCount context.risingTimes.length context.lasers))
  let edges := context.risingTimes.map fun time => Scalar.toOffset (time / context.binWidth)
  let (delay, length) ← windowOf context params
  let length := if length = 0 then openLength trace.length edges else length
  let starts := edges.map (· + delay)
  return {
    counts := windows trace starts length
    rising := starts.map Int.toNat
    falling := starts.map fun (start : Int) => (start + length).toNat }

end PulseBench.KnownEdges
