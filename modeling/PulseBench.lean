import PulseBench.Counting.FaultyCounter
import PulseBench.Counting.MemoryCounter
import PulseBench.Measure.Codec
import PulseBench.Proofs.Channel
import PulseBench.Proofs.Compile.Alike
import PulseBench.Proofs.Compile.Checked
import PulseBench.Proofs.Compile.Drift
import PulseBench.Proofs.Compile.Leftover
import PulseBench.Proofs.Compile.Looped
import PulseBench.Proofs.Compile.Stream
import PulseBench.Proofs.Double
import PulseBench.Proofs.Evaluation.Accumulated
import PulseBench.Proofs.Extraction.Apart
import PulseBench.Proofs.Extraction.Common
import PulseBench.Proofs.Extraction.Scaled
import PulseBench.Proofs.Extraction.Smoothing
import PulseBench.Proofs.Extraction.Trains
import PulseBench.Proofs.Files.ReadBack
import PulseBench.Proofs.Generator.Admitted
import PulseBench.Proofs.Generator.Edits
import PulseBench.Proofs.Generator.Faithful
import PulseBench.Proofs.Generator.Held
import PulseBench.Proofs.Generator.Orderly
import PulseBench.Proofs.Generator.Playable
import PulseBench.Proofs.Generator.Produced
import PulseBench.Proofs.Generator.Settings
import PulseBench.Proofs.Generator.Stale
import PulseBench.Proofs.Measure.Arrays
import PulseBench.Proofs.Measure.Continued
import PulseBench.Proofs.Measure.Dark
import PulseBench.Proofs.Measure.FailedStart
import PulseBench.Proofs.Measure.Frozen
import PulseBench.Proofs.Measure.Refused
import PulseBench.Proofs.Measure.Summed
import PulseBench.Proofs.Measure.Sweeps
import PulseBench.Proofs.Measure.Untorn
import PulseBench.Proofs.Measure.Viewed
import PulseBench.Proofs.Plugin.Rejected
import PulseBench.Proofs.Plugin.Resolved
import PulseBench.Proofs.Plugin.Roots
import PulseBench.Proofs.Recipe.CountedTime
import PulseBench.Proofs.Recipe.Decoupling
import PulseBench.Proofs.Session.Heard
import PulseBench.Proofs.Session.Output
import PulseBench.Proofs.Session.Tokens
import PulseBench.Pulser.Faulty
import PulseBench.Scalar.Double
import PulseBench.Session.Start
