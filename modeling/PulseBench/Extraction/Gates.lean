import PulseBench.Extraction.Basic

/-!
# Laser pulses in gates

All gates see the laser pulse at the same place. Their sum is smoothed by a Gaussian kernel; the
steepest rise and the steepest fall of it are the edges of the pulse.
-/

namespace PulseBench.Gates

variable {α : Type}

/-! ## Smoothing -/

/-- The place of an index in a list of `size` items that is continued by its mirror images:
`d c b a | a b c d | d c b a`. -/
def reflect (index : Int) (size : Nat) : Nat :=
  let place := (index % (2 * size : Nat)).toNat
  if size ≤ place then 2 * size - 1 - place else place

/-- Half the size of a kernel that ends at four standard deviations. -/
def kernelRadius [Scalar α] (deviation : α) : Nat := Scalar.toNat (4.0 * deviation + 0.5)

/-- The bell curve at whole distances, before it is normalised. -/
def bell [Analytic α] (deviation : α) (distance : Int) : α :=
  Analytic.exp (-(Scalar.ofInt (distance * distance)) / (2.0 * deviation * deviation))

/-- Weights from `-radius` to `radius` with sum one. -/
def normalised [Scalar α] (radius : Nat) (weight : Int → α) : List α :=
  let weights := (List.range (2 * radius + 1)).map fun (k : Nat) => weight ((k : Int) - radius)
  let total := Scalar.sum weights
  weights.map (· / total)

/-- Every item replaced by the weighted sum of its neighbours, mirrored at both ends. -/
def convolve [Scalar α] (radius : Nat) (kernel data : List α) : List α :=
  let items := data.toArray
  let size := data.length
  let placed := kernel.zipIdx
  (List.range size).map fun (i : Nat) =>
    Scalar.sum (placed.map fun (weight, k) =>
      weight * items.getD (reflect ((i : Int) + k - radius) size) 0.0)

/-- Gaussian smoothing. -/
def smooth [Analytic α] (deviation : α) (data : List α) : List α :=
  if decide (deviation ≤ 0.0) || data.isEmpty then data
  else
    let radius := kernelRadius deviation
    convolve radius (normalised radius (bell deviation)) data

/-! ## Edges -/

/-- Differences to both neighbours, halved; at the ends to the only neighbour. -/
def gradient [Scalar α] (data : List α) : List α :=
  let items := data.toArray
  let item (i : Nat) : α := items.getD i 0.0
  let last := data.length - 1
  (List.range data.length).map fun i =>
    if last = 0 then 0.0
    else if i = 0 then item 1 - item 0
    else if i = last then item last - item (last - 1)
    else (item (i + 1) - item (i - 1)) / 2.0

/-- The first place of an item that no later one beats. -/
def extremum (beats : α → α → Bool) : List α → Nat
  | [] => 0
  | first :: rest =>
      (rest.zipIdx 1).foldl (fun (best, place) (x, i) =>
        if beats x best then (x, i) else (best, place)) (first, 0) |>.2

/-- The places of the steepest rise and fall. -/
def steepest [Scalar α] (slopes : List α) : Nat × Nat :=
  (extremum (fun x best => decide (best < x)) slopes, extremum (fun x best => decide (x < best)) slopes)

/-- Cuts all gates from the common rising edge to the common falling edge. -/
def extract [Analytic α] (gates : Grid Nat) (_ : ExtractionContext α) (params : ParamSet α) :
    Except (Failure α) Extraction := do
  if gates.columns < 2 then throw (.data .shortGates)
  let deviation ← params.number "conv_std_dev"
  let sums : List α := gates.columnSums.map Scalar.ofNat
  let (rising, falling) := steepest (gradient (smooth deviation sums))
  if falling ≤ rising then throw (.data (.noGatedPulse rising falling))
  return { counts := gates.slice rising falling, rising := [rising], falling := [falling] }

def schema [Scalar α] : Schema α := [.real "conv_std_dev" "bins" 20.0 (.point 0.0) (.point 1e5)]

end PulseBench.Gates
