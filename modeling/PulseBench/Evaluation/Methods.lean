import PulseBench.Evaluation.Basic

/-!
# The evaluation methods

| name             | value                                                   |
|------------------|---------------------------------------------------------|
| `mean_norm`      | mean of the signal window over mean of the norm window |
| `sum`            | counts in the signal window                             |
| `mean`           | mean count per bin of the signal window                 |
| `mean_reference` | mean of the signal window less mean of the norm window |
| `pass_through`   | mean count per bin of the whole row                     |

Errors are those of independent Poissonian counts.
-/

namespace PulseBench.EvaluationMethod

variable {α : Type} [Analytic α]

/-- Mean of the signal over mean of the norm; zero without norm, without error if either window is
dark. -/
def meanNorm : EvaluationRule α := fun columns binWidth params => do
  let signal ← Window.ofParams .signal columns binWidth params
  let norm ← Window.ofParams .norm columns binWidth params
  return fun row =>
    let s : α := signal.total row
    let n : α := norm.total row
    let value := if 0.0 < n then (s / signal.bins) / (n / norm.bins) else 0.0
    let error := if 0.0 < s ∧ 0.0 < n then value * Analytic.sqrt (1.0 / s + 1.0 / n) else 0.0
    ⟨value, error⟩

def sum : EvaluationRule α := fun columns binWidth params => do
  let signal ← Window.ofParams .signal columns binWidth params
  return fun row => ⟨signal.total row, Analytic.sqrt (signal.total row)⟩

def mean : EvaluationRule α := fun columns binWidth params => do
  let signal ← Window.ofParams .signal columns binWidth params
  return fun row =>
    ⟨signal.total row / signal.bins, Analytic.sqrt (signal.total row) / signal.bins⟩

def meanReference : EvaluationRule α := fun columns binWidth params => do
  let signal ← Window.ofParams .signal columns binWidth params
  let norm ← Window.ofParams .norm columns binWidth params
  let sb : α := signal.bins
  let nb : α := norm.bins
  return fun row =>
    ⟨signal.total row / sb - norm.total row / nb,
      Analytic.sqrt (signal.total row / (sb * sb) + norm.total row / (nb * nb))⟩

/-- Rows without bins have the value zero. -/
def passThrough : EvaluationRule α := fun columns _ _ =>
  .ok fun row =>
    if columns = 0 then Estimate.zero
    else ⟨(⟨0, columns⟩ : Window).total row / Scalar.ofNat columns, 0.0⟩

/-! ## Declarations -/

/-- The two ends of a window. -/
def windowSchema (role : WindowRole) (start stop : α) : Schema α :=
  [ .real (role.word ++ "_start") "s" start (.point 0.0) (.point 1.0),
    .real (role.word ++ "_end") "s" stop (.point 0.0) (.point 1.0) ]

def signalSchema : Schema α := windowSchema .signal 0.0 200e-9

def signalNormSchema : Schema α := signalSchema ++ windowSchema .norm 300e-9 500e-9

/-- The methods that are always there. -/
def basic : List (EvaluationMethod α) :=
  [ ⟨"mean_norm", signalNormSchema, meanNorm⟩,
    ⟨"sum", signalSchema, sum⟩,
    ⟨"mean", signalSchema, mean⟩,
    ⟨"mean_reference", signalNormSchema, meanReference⟩,
    ⟨"pass_through", [], passThrough⟩ ]

def catalogue : List (PluginRoot α (EvaluationRule α)) :=
  [⟨Registry.builtinRoot, [⟨"basic_analysis_methods", .ok basic⟩]⟩]

/-- The methods of the built-in root and the named ones. -/
def registry (extra : List String) : Registry α (EvaluationRule α) :=
  Registry.ofCatalogue "analysis methods" catalogue extra

end PulseBench.EvaluationMethod
