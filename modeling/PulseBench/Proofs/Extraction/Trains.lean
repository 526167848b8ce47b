import Mathlib.Data.List.Sort
import PulseBench.Counting.MemoryCounter
import PulseBench.Extraction.Methods
import PulseBench.Proofs.Extraction.Clusters
import PulseBench.Proofs.Plugin.Builtin
import PulseBench.Proofs.Plugin.Selection

/-!
# Recovering trains of pulses

A synthetic trace has pulses of one length and level on a background. If the background stays
below the low threshold, the lit bins are those of the pulses, and if the pulses are far enough
apart, each of them is a cluster of its own. So extraction finds the train that was put in.

Arithmetic is exact here. Both thresholds are fractions of the greatest count, and valid
fractions are at most one; that is why the level reaches them.

Results:
1. `pulses_pulseTrace`: the pulses of a synthetic trace.
2. `extract_pulseTrace`: what is cut out of it.
3. `exists_parameters`: valid parameters are numbers, and the high threshold is at most one.
4. `ExtractionMethod.extract_trace`, `ExtractionMethod.extract_gates`: how a method calls its rule.
5. `every_train_recovered`: the method as it is found in a registry.
-/

namespace PulseBench

namespace Threshold

/-! ## 1. Synthetic traces -/

/-- Pulses of `length` bins that begin at `starts`, within a trace of `bins` bins, more than `gap`
bins between them. -/
structure Train (bins : Nat) (starts : List Nat) (length gap : Nat) : Prop where
  nonempty : starts ≠ []
  filled : 1 ≤ length
  spaced : starts.IsChain fun start next => start + length + gap + 1 ≤ next
  within : ∀ last ∈ starts.getLast?, last + length ≤ bins

variable {bins length gap level background : Nat} {starts : List Nat}

namespace Train

theorem pairwise (train : Train bins starts length gap) :
    starts.Pairwise fun start next => start + length + gap + 1 ≤ next := by
  have transitive : IsTrans Nat fun start next => start + length + gap + 1 ≤ next :=
    ⟨fun a b c first second => by omega⟩
  exact train.spaced.pairwise

/-- Not only the last pulse ends within the trace. -/
theorem stop_le (train : Train bins starts length gap) {start : Nat} (member : start ∈ starts) :
    start + length ≤ bins := by
  have sorted : starts.Pairwise (· < ·) := train.pairwise.imp fun h => by omega
  have ends := List.getLast?_eq_getLast_of_ne_nil train.nonempty
  have := le_getLast sorted member ends
  have := train.within _ ends
  omega

/-- The pulses as groups of bins. -/
theorem clustering (train : Train bins starts length gap) :
    Clustering gap (starts.flatMap fun start => List.range' start length)
      (starts.map fun start => List.range' start length) where
  covers := rfl
  filled := by
    rintro _ member rfl
    obtain ⟨start, -, empty⟩ := List.mem_map.mp member
    have := train.filled
    rw [List.range'_eq_nil_iff] at empty
    omega
  near := by
    rintro _ member
    obtain ⟨start, -, rfl⟩ := List.mem_map.mp member
    exact (List.isChain_range' start length 1).imp fun a b next => by omega
  apart := by
    have filled := train.filled
    rw [List.isChain_map]
    refine train.spaced.imp fun start next spaced a ends b begins => ?_
    rw [List.getLast?_range', if_neg (by omega)] at ends
    rw [List.head?_range', if_neg (by omega)] at begins
    cases ends
    cases begins
    omega

theorem isLit_start (train : Train bins starts length gap) {start : Nat} (member : start ∈ starts) :
    isLit starts length start = true := by
  have := train.filled
  refine List.any_eq_true.mpr ⟨start, member, ?_⟩
  rw [Bool.and_eq_true, decide_eq_true_eq, decide_eq_true_eq]
  omega

theorem lt_length (train : Train bins starts length gap) {bin : Nat}
    (lit : isLit starts length bin = true) : bin < bins := by
  obtain ⟨start, member, inside⟩ := List.any_eq_true.mp lit
  rw [Bool.and_eq_true, decide_eq_true_eq, decide_eq_true_eq] at inside
  exact inside.2.trans_le (train.stop_le member)

/-- The bins of the pulses, in order. -/
theorem filter_range (train : Train bins starts length gap) :
    (List.range bins).filter (isLit starts length) =
      starts.flatMap fun start => List.range' start length := by
  have sorted : (starts.flatMap fun start => List.range' start length).Pairwise (· < ·) := by
    refine List.pairwise_flatMap.mpr ⟨fun start _ => List.pairwise_lt_range', ?_⟩
    refine train.pairwise.imp fun spaced a inFirst b inSecond => ?_
    rw [List.mem_range'_1] at inFirst inSecond
    omega
  refine (List.pairwise_lt_range.filter _).eq_of_mem_iff sorted fun bin => ?_
  have inside : isLit starts length bin = true ↔
      ∃ start ∈ starts, start ≤ bin ∧ bin < start + length := by
    simp only [isLit, List.any_eq_true, Bool.and_eq_true, decide_eq_true_eq]
  simp only [List.mem_filter, List.mem_range, List.mem_flatMap, List.mem_range'_1, ← inside]
  exact and_iff_right_of_imp train.lt_length

end Train

section Pulses

variable {α : Type} [Scalar α] {high low : α}

theorem pulseTrace_getElem? {bin : Nat} (here : bin < bins) :
    (pulseTrace bins starts length level background)[bin]? =
      some (if isLit starts length bin then level else background) := by
  rw [pulseTrace, List.getElem?_map, List.getElem?_range here]
  rfl

/-- Only the pulses reach a threshold that the background does not reach. -/
theorem reaches_pulseTrace {threshold : α} (bright : threshold ≤ Scalar.ofNat level)
    (dark : ¬ threshold ≤ Scalar.ofNat background) {bin : Nat} (here : bin < bins) :
    reaches threshold (pulseTrace bins starts length level background) bin =
      isLit starts length bin := by
  rw [reaches, pulseTrace_getElem? here, Option.any_some]
  cases isLit starts length bin with
  | true => exact decide_eq_true bright
  | false => exact decide_eq_false dark

theorem litBins_pulseTrace (train : Train bins starts length gap)
    (bright : low ≤ Scalar.ofNat level) (dark : ¬ low ≤ Scalar.ofNat background) :
    litBins low (pulseTrace bins starts length level background) =
      starts.flatMap fun start => List.range' start length := by
  rw [← train.filter_range, litBins, pulseTrace, List.length_map, List.length_range]
  exact List.filter_congr fun bin here => reaches_pulseTrace bright dark (List.mem_range.mp here)

/-- The pulses of a synthetic trace are the ones that were put in. -/
theorem pulses_pulseTrace [IsTrans α (· ≤ ·)] (train : Train bins starts length gap)
    (ordered : low ≤ high) (bright : high ≤ Scalar.ofNat level)
    (dark : ¬ low ≤ Scalar.ofNat background) :
    pulses high low gap (pulseTrace bins starts length level background) =
      starts.map fun start => ⟨start, start + length⟩ := by
  have filled := train.filled
  have reached : low ≤ (Scalar.ofNat level : α) := IsTrans.trans _ _ _ ordered bright
  have covered : ¬ high ≤ (Scalar.ofNat background : α) :=
    fun reached => dark (IsTrans.trans _ _ _ ordered reached)
  rw [pulses_eq ordered, clusters, litBins_pulseTrace train reached dark,
    clustersOf_eq_iff.mpr train.clustering, List.filterMap_map, ← List.filterMap_eq_map]
  refine List.filterMap_congr fun start member => pulseOf_eq_some_iff.mpr ?_
  refine ⟨start, start + length - 1, ?_, ?_, ?_⟩
  · -- The first bin of a pulse is high already.
    refine List.find?_range'_eq_some.mpr ⟨?_, ?_, fun bin atLeast below => by omega⟩
    · rw [reaches_pulseTrace bright covered (train.lt_length (train.isLit_start member))]
      exact train.isLit_start member
    · rw [List.mem_range'_1]
      omega
  · rw [List.getLast?_range', if_neg (by omega)]
  · congr 1
    omega

end Pulses

/-! ## 2. What is cut out -/

theorem maxCount_eq {counts : List Nat} {greatest : Nat} (member : greatest ∈ counts)
    (atMost : ∀ count ∈ counts, count ≤ greatest) : maxCount counts = greatest := by
  have isMax : counts.max? = some greatest := List.max?_eq_some_iff.mpr ⟨member, atMost⟩
  rw [maxCount, List.foldl_max, isMax]
  exact Nat.zero_max greatest

theorem maxCount_pulseTrace (train : Train bins starts length gap) (below : background ≤ level) :
    maxCount (pulseTrace bins starts length level background) = level := by
  refine maxCount_eq ?_ ?_
  · obtain ⟨start, member⟩ := List.exists_mem_of_ne_nil starts train.nonempty
    have lit := train.isLit_start member
    refine List.mem_map.mpr ⟨start, List.mem_range.mpr (train.lt_length lit), if_pos lit⟩
  · intro count member
    obtain ⟨bin, -, rfl⟩ := List.mem_map.mp member
    split
    · exact le_rfl
    · exact below

/-- The parameters of the method. -/
structure Parameters where
  high : ℚ
  low : ℚ
  gap : ℚ
  least : ℚ
  delay : ℚ
  window : ℚ

namespace Parameters

/-- The parameters are the numbers that a set holds. -/
structure ReadFrom (params : ParamSet ℚ) (p : Parameters) : Prop where
  high : params.number "high_threshold" = .ok p.high
  low : params.number "low_threshold" = .ok p.low
  gap : params.number "gap_tolerance" = .ok p.gap
  least : params.number "min_laser_length" = .ok p.least
  delay : params.number "delay" = .ok p.delay
  window : params.number "window_length" = .ok p.window

variable (p : Parameters) (context : ExtractionContext ℚ)

/-- The greatest gap that is bridged, in bins. -/
def gapBins : Nat := Scalar.toBins (p.gap / context.binWidth)

/-- The length of the shortest pulse that counts, in bins. -/
def leastBins : Nat := max (Scalar.toBins (p.least / context.binWidth)) 1

/-- How many bins behind the edge a window begins. -/
def delayBins : Int := Scalar.toOffset (p.delay / context.binWidth)

/-- The length of a window in bins; if it is left open, that of the longest pulse. -/
def windowBins (longest : Nat) : Nat :=
  if Scalar.toBins (p.window / context.binWidth) = 0 then longest
  else Scalar.toBins (p.window / context.binWidth)

/-- The pulses that are long enough. -/
def kept (counts : List Nat) : List Pulse :=
  (pulses (p.high * maxCount counts) (p.low * maxCount counts) (p.gapBins context) counts).filter
    fun q => decide (p.leastBins context ≤ q.length)

/-- Windows behind the rising edges of pulses. -/
def cut (counts : List Nat) (found : List Pulse) : Extraction where
  counts := windows counts (found.map fun q => (q.start : Int) + p.delayBins context)
    (p.windowBins context (maxCount (found.map Pulse.length)))
  rising := found.map Pulse.start
  falling := found.map Pulse.stop

end Parameters

variable {p : Parameters} {context : ExtractionContext ℚ} {params : ParamSet ℚ} {counts : List Nat}

/-- Extraction succeeds if there are counts and as many pulses as expected. -/
theorem extract_ok (read : p.ReadFrom params) (ordered : p.low ≤ p.high)
    (counted : maxCount counts ≠ 0) (expected : (p.kept context counts).length = context.lasers) :
    extract counts context params = .ok (p.cut context counts (p.kept context counts)) := by
  unfold extract
  simp only [read.high, read.low, read.gap, read.least, windowOf, read.delay, read.window, ok_bind]
  rw [if_neg (not_lt.mpr ordered), if_neg counted]
  exact if_neg (not_not_intro expected)

/-- What a row shows of a bin: its count, and nothing if there is no such bin. -/
def shown (counts : List Nat) (bin : Int) : Nat :=
  if 0 ≤ bin then counts[bin.toNat]?.getD 0 else 0

/-- An extraction is that of a train: its edges, and a window behind each rising edge. -/
structure Recovers (counts starts : List Nat) (length : Nat) (delay : Int) (width : Nat)
    (r : Extraction) : Prop where
  rising : r.rising = starts
  falling : r.falling = starts.map (· + length)
  rows : r.counts.rows.length = starts.length
  columns : r.counts.columns = width
  cells : ∀ (i start j : Nat), starts[i]? = some start → j < width →
    (r.counts.rows[i]?.bind fun row => row[j]?) = some (shown counts (start + delay + j))

theorem countAt_eq (counts : List Nat) (bin : Int) :
    countAt counts.toArray bin = shown counts bin := by
  cases bin with
  | ofNat bin =>
    have present : 0 ≤ Int.ofNat bin := Int.natCast_nonneg bin
    rw [shown, if_pos present, countAt, List.getElem?_toArray]
    rfl
  | negSucc bin => exact (if_neg (by omega)).symm

/-- The windows of equally long pulses. -/
theorem recovers_cut (p : Parameters) (context : ExtractionContext ℚ) (counts : List Nat)
    (nonempty : starts ≠ []) :
    Recovers counts starts length (p.delayBins context) (p.windowBins context length)
      (p.cut context counts (starts.map fun start => ⟨start, start + length⟩)) := by
  have longest : maxCount ((starts.map fun start => (⟨start, start + length⟩ : Pulse)).map
      Pulse.length) = length := by
    rw [List.map_map]
    refine maxCount_eq ?_ fun count member => ?_
    · obtain ⟨start, member⟩ := List.exists_mem_of_ne_nil starts nonempty
      exact List.mem_map.mpr ⟨start, member, Nat.add_sub_cancel_left start length⟩
    · obtain ⟨start, -, rfl⟩ := List.mem_map.mp member
      exact (Nat.add_sub_cancel_left start length).le
  rw [Parameters.cut, longest, List.map_map, List.map_map, List.map_map]
  refine ⟨List.map_id starts, rfl, ?_, rfl, fun i start j here inside => ?_⟩
  · rw [windows, List.length_map, List.length_map]
  · have row : (windows counts (starts.map fun (start : Nat) => (start : Int) + p.delayBins context)
        (p.windowBins context length)).rows[i]? = some ((List.range (p.windowBins context length)).map
          fun (j : Nat) => countAt counts.toArray (start + p.delayBins context + j)) := by
      simp only [windows, List.getElem?_map, here, Option.map_some]
    refine (congrArg (Option.bind · fun row => row[j]?) row).trans ?_
    rw [Option.bind_some, List.getElem?_map, List.getElem?_range inside, Option.map_some, countAt_eq]

/-- Extraction from a synthetic trace, by parameters that are already resolved. -/
theorem extract_pulseTrace (read : p.ReadFrom params) (ordered : p.low ≤ p.high)
    (fraction : p.high ≤ 1) (dark : (background : ℚ) < p.low * level)
    (train : Train bins starts length (p.gapBins context)) (enough : p.leastBins context ≤ length)
    (expected : context.lasers = starts.length) :
    ∃ r, extract (pulseTrace bins starts length level background) context params = .ok r ∧
      Recovers (pulseTrace bins starts length level background) starts length
        (p.delayBins context) (p.windowBins context length) r := by
  have positive : (0 : ℚ) ≤ level := Nat.cast_nonneg level
  have lit : p.low * level ≤ p.high * level := mul_le_mul_of_nonneg_right ordered positive
  have bright : p.high * level ≤ level := mul_le_of_le_one_left positive fraction
  have above : (background : ℚ) < level := dark.trans_le (lit.trans bright)
  have below : background < level := Nat.cast_lt.mp above
  have greatest := maxCount_pulseTrace train below.le
  have kept : p.kept context (pulseTrace bins starts length level background) =
      starts.map fun start => ⟨start, start + length⟩ := by
    rw [Parameters.kept, greatest, pulses_pulseTrace train lit bright (not_le.mpr dark)]
    refine List.filter_eq_self.mpr fun q member => decide_eq_true ?_
    obtain ⟨start, -, rfl⟩ := List.mem_map.mp member
    exact enough.trans (Nat.add_sub_cancel_left start length).ge
  refine ⟨_, extract_ok read ordered (by omega) ?_, ?_⟩
  · rw [kept, List.length_map, expected]
  · rw [kept]
    exact recovers_cut p context _ train.nonempty

/-! ## 3. Valid parameters -/

end Threshold

/-- A number that passes the check lies within the declared bounds. -/
theorem ParamSpec.number_of_check {name unit : String} {default low high : ℚ}
    {value checked : ParamValue ℚ}
    (passed : (ParamSpec.real name unit default (.point low) (.point high)).check value = .ok checked) :
    ∃ x, checked.number? = some x ∧ low ≤ x ∧ x ≤ high := by
  obtain ⟨coerced, typed, bounded⟩ := bind_eq_ok.mp passed
  change (value.number?.map ParamValue.real).elim _ _ = _ at typed
  cases read : value.number? with
  | none =>
    rw [read] at typed
    cases typed
  | some x =>
    rw [read] at typed
    cases typed
    change (if _ then _ else _) = _ at bounded
    split at bounded
    · cases bounded
    · cases bounded
      rename_i inside
      refine ⟨x, rfl, ?_⟩
      simpa [ParamSpec.excludes, ParamSpec.real, Bound.below, Bound.above] using inside

/-- A declared number, once it is settled, is read within its bounds. -/
theorem Schema.Completes.number {schema : Schema ℚ} {given : String → Option (ParamValue ℚ)}
    {params : ParamSet ℚ} (complete : schema.Completes given params) (sound : schema.Sound)
    {name unit : String} {default low high : ℚ}
    (own : ParamSpec.real name unit default (.point low) (.point high) ∈ schema) :
    ∃ x, params.number name = .ok x ∧ low ≤ x ∧ x ≤ high := by
  obtain ⟨value, found, settled⟩ := complete.values _ own
  have passed := settled.check_self (sound.defaults _ own)
  obtain ⟨x, read, bounds⟩ := ParamSpec.number_of_check passed
  refine ⟨x, ?_, bounds⟩
  change params.get? name = some value at found
  rw [ParamSet.number, ParamSet.read, found, Option.bind_some, read]
  rfl

/-! ## 4. Calling a method -/

namespace ExtractionMethod

section Calling

variable {α : Type} [Scalar α]

/-- What a method passes on to its rule: the completed parameters, if there is a bin width. -/
def accepted (schema : Schema α) (context : ExtractionContext α) (given : ParamSet α) :
    Except (Failure α) (ParamSet α) := do
  unless 0.0 < context.binWidth do throw (.measure .binWidthNotPositive)
  schema.resolve given

theorem accepted_eq {schema : Schema α} {context : ExtractionContext α} {given params : ParamSet α}
    (measured : 0.0 < context.binWidth) (valid : schema.resolve given = .ok params) :
    accepted schema context given = .ok params :=
  (if_pos measured).trans valid

theorem extract_trace (name : String) (schema : Schema α)
    (rule : List Nat → ExtractionContext α → ParamSet α → Except (Failure α) Extraction)
    (trace : List Nat) (context : ExtractionContext α) (given : ParamSet α) :
    extract ⟨name, schema, .ofTrace rule⟩ (.trace trace) context given =
      (accepted schema context given >>= rule trace context) := rfl

theorem extract_gates (name : String) (schema : Schema α)
    (rule : Grid Nat → ExtractionContext α → ParamSet α → Except (Failure α) Extraction)
    (gates : Grid Nat) (context : ExtractionContext α) (given : ParamSet α) :
    extract ⟨name, schema, .ofGates rule⟩ (.gates gates) context given =
      (accepted schema context given >>= rule gates context) := rfl

end Calling

/-- The threshold method. -/
def threshold : ExtractionMethod ℚ :=
  ⟨"ungated_threshold", Threshold.schema, .ofTrace Threshold.extract⟩

/-- There are no extraction methods but the basic ones. -/
theorem find_threshold (extra : List String) :
    (registry extra : Registry ℚ (ExtractionRule ℚ)).find "ungated_threshold" = .ok threshold :=
  (Registry.find_builtin_iff ..).mpr rfl

end ExtractionMethod

namespace Threshold

theorem schema_sound : (schema : Schema ℚ).Sound :=
  (Registry.every_of_find (ExtractionMethod.registry_sound [])
    (ExtractionMethod.find_threshold [])).1

/-- Valid parameters are numbers, and the high threshold is at most one. -/
theorem exists_parameters {given params : ParamSet ℚ} (valid : schema.resolve given = .ok params) :
    ∃ p : Parameters, p.ReadFrom params ∧ p.high ≤ 1 := by
  have complete := (Schema.resolve_eq_ok_iff schema_sound).mp valid
  have number (place : Nat) {name unit : String} {default low high : ℚ}
      (own : (schema : Schema ℚ)[place]? =
        some (.real name unit default (.point low) (.point high))) :=
    complete.number schema_sound (List.mem_of_getElem? own)
  obtain ⟨high, highRead, -, atMost⟩ := number 0 rfl
  obtain ⟨low, lowRead, -⟩ := number 1 rfl
  obtain ⟨gap, gapRead, -⟩ := number 2 rfl
  obtain ⟨least, leastRead, -⟩ := number 3 rfl
  obtain ⟨delay, delayRead, -⟩ := number 4 rfl
  obtain ⟨window, windowRead, -⟩ := number 5 rfl
  refine ⟨⟨high, low, gap, least, delay, window⟩,
    ⟨highRead, lowRead, gapRead, leastRead, delayRead, windowRead⟩, ?_⟩
  norm_num at atMost
  exact atMost

/-! ## 5. The method of a registry -/

/-- Whatever the valid parameters, extraction recovers every train that they can tell from the
background: pulses that are long enough, far enough apart and as many as expected. -/
theorem every_train_recovered (extra : List String) {m : ExtractionMethod ℚ}
    (found : (ExtractionMethod.registry extra).find "ungated_threshold" = .ok m)
    {context : ExtractionContext ℚ} (measured : 0 < context.binWidth) {given params : ParamSet ℚ}
    (valid : m.schema.resolve given = .ok params) :
    ∃ p : Parameters, p.ReadFrom params ∧
      ∀ (bins length level background : Nat) (starts : List Nat),
        p.low ≤ p.high → (background : ℚ) < p.low * level → p.leastBins context ≤ length →
        Train bins starts length (p.gapBins context) → context.lasers = starts.length →
        ∃ r, m.extract (.trace (pulseTrace bins starts length level background)) context given =
            .ok r ∧
          Recovers (pulseTrace bins starts length level background) starts length
            (p.delayBins context) (p.windowBins context length) r := by
  obtain rfl : ExtractionMethod.threshold = m :=
    Except.ok.inj ((ExtractionMethod.find_threshold extra).symm.trans found)
  obtain ⟨p, read, fraction⟩ := exists_parameters valid
  refine ⟨p, read, fun bins length level background starts ordered dark enough train expected => ?_⟩
  obtain ⟨r, extracted, recovers⟩ :=
    extract_pulseTrace read ordered fraction dark train enough expected
  refine ⟨r, ?_, recovers⟩
  have positive : (0.0 : ℚ) < context.binWidth := by rwa [Exact.zero_literal]
  change Schema.resolve schema given = .ok params at valid
  unfold ExtractionMethod.extract
  dsimp only [ExtractionMethod.threshold]
  rw [if_pos positive, valid]
  exact extracted

/-- Bins of ten nanoseconds, and two laser pulses. -/
def twoPulses : ExtractionContext ℚ := ⟨1e-8, 2, []⟩

/-- Windows of three bins that begin two bins before the edge. -/
def early : ParamSet ℚ := .ofList [("delay", .real (-2e-8)), ("window_length", .real 3e-8)]

theorem train_of_two : Train 8 [1, 5] 2 1 where
  nonempty := by decide
  filled := by decide
  spaced := by decide
  within := by decide

/-- Two pulses of ten counts on a background of two, one more bin between them than a gap may have.
The first window begins before the trace, the second one between the pulses. -/
theorem every_train_recovered_early :
    ∃ r, ExtractionMethod.threshold.extract (.trace (pulseTrace 8 [1, 5] 2 10 2)) twoPulses early =
        .ok r ∧ r.rising = [1, 5] ∧ r.falling = [3, 7] ∧ r.counts.columns = 3 ∧
      (r.counts.rows[0]?.bind fun row => row[0]?) = some 0 ∧
      (r.counts.rows[1]?.bind fun row => row[2]?) = some 10 := by
  have measured : 0 < twoPulses.binWidth := by decide +kernel
  have numbers : ((schema : Schema ℚ).names.map fun name =>
      (schema.resolve early >>= (·.number name)).toOption) =
      [some 0.5, some 0.3, some 1e-8, some 1e-8, some (-2e-8), some 3e-8] := by
    decide +kernel
  cases valid : schema.resolve early with
  | error f =>
    rw [valid] at numbers
    cases numbers
  | ok params =>
    obtain ⟨p, read, recovered⟩ :=
      every_train_recovered [] (ExtractionMethod.find_threshold []) measured valid
    rw [valid] at numbers
    change [(params.number "high_threshold").toOption, (params.number "low_threshold").toOption,
      (params.number "gap_tolerance").toOption, (params.number "min_laser_length").toOption,
      (params.number "delay").toOption, (params.number "window_length").toOption] = _ at numbers
    rw [read.high, read.low, read.gap, read.least, read.delay, read.window] at numbers
    obtain ⟨high, low, gap, least, delay, window⟩ := p
    simp only [Except.toOption, List.cons.injEq, Option.some.injEq, and_true] at numbers
    obtain ⟨rfl, rfl, rfl, rfl, rfl, rfl⟩ := numbers
    have gapOne : Parameters.gapBins ⟨0.5, 0.3, 1e-8, 1e-8, -2e-8, 3e-8⟩ twoPulses = 1 := by
      decide +kernel
    obtain ⟨r, extracted, recovers⟩ := recovered 8 2 10 2 [1, 5] (by norm_num) (by norm_num)
      (by decide +kernel) (gapOne ▸ train_of_two) rfl
    refine ⟨r, extracted, recovers.rising, recovers.falling, ?_, ?_, ?_⟩
    · exact recovers.columns.trans (by decide +kernel)
    · exact (recovers.cells 0 1 0 rfl (by decide +kernel)).trans (by decide +kernel)
    · exact (recovers.cells 1 5 2 rfl (by decide +kernel)).trans (by decide +kernel)

end Threshold

end PulseBench
