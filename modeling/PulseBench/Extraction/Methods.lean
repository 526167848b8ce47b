import PulseBench.Extraction.Gates
import PulseBench.Extraction.KnownEdges
import PulseBench.Extraction.Threshold

/-!
# The extraction methods

- `ungated_threshold`: pulses of a trace by threshold;
- `ungated_known_edges`: windows of a trace at the recorded edges;
- `gated_conv_deriv`: one pulse common to all gates.
-/

namespace PulseBench.ExtractionMethod

variable {α : Type} [Analytic α]

/-- The methods that are always there. -/
def basic : List (ExtractionMethod α) :=
  [ ⟨"ungated_threshold", Threshold.schema, .ofTrace Threshold.extract⟩,
    ⟨"ungated_known_edges", windowSchema, .ofTrace KnownEdges.extract⟩,
    ⟨"gated_conv_deriv", Gates.schema, .ofGates Gates.extract⟩ ]

def catalogue : List (PluginRoot α (ExtractionRule α)) :=
  [⟨Registry.builtinRoot, [⟨"basic_extraction_methods", .ok basic⟩]⟩]

/-- The methods of the built-in root and the named ones. -/
def registry (extra : List String) : Registry α (ExtractionRule α) :=
  Registry.ofCatalogue "extraction methods" catalogue extra

end PulseBench.ExtractionMethod
