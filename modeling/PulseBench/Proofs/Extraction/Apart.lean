import Mathlib.Algebra.BigOperators.Fin
import Mathlib.Algebra.Order.BigOperators.Group.Finset
import Mathlib.Algebra.Ring.CharZero
import PulseBench.Proofs.Extraction.Trains

/-!
# Windows that share no bin

Where the length of the windows at known edges is left open, it is the least distance between an
edge and the next one, or zero if some edge is not behind the one before. So either the windows are
empty, or each edge is one length or more behind the edge before, and thereby behind all edges
before. Delays move all windows alike. This holds for all edges and however times are rounded to
bins, so the times need not even be in order.

Results:
1. `min?_distances`, `pairwise_openLength`: the open length, and windows of that length.
2. `sum_shown_le`, `nodup_windowBins`: windows that share no bin hold no more than the trace.
3. `extract_open`, `parts_cut`: what is cut at known edges.
4. `default_windows_apart`: the rule, and the method as it is found in a registry.
-/

namespace PulseBench

open Threshold (shown countAt_eq)

namespace KnownEdges

/-! ## 1. The open length -/

theorem distances_cons_cons (edge next : Int) (rest : List Int) :
    distances (edge :: next :: rest) = (next - edge).toNat :: distances (next :: rest) := rfl

/-- With several edges, the open length is the least of their distances. -/
theorem min?_distances {edges : List Int} (several : 2 ≤ edges.length) (bins : Nat) :
    (distances edges).min? = some (openLength bins edges) := by
  match edges, several with
  | edge :: next :: rest, _ => rw [openLength, distances_cons_cons, List.min?_cons']

theorem mem_distances {edges : List Int} {distance : Nat} (member : distance ∈ distances edges) :
    ∃ i edge next, edges[i]? = some edge ∧ edges[i + 1]? = some next ∧
      distance = (next - edge).toNat := by
  induction edges with
  | nil => cases member
  | cons edge rest ih =>
    cases rest with
    | nil => cases member
    | cons next rest =>
      rw [distances_cons_cons, List.mem_cons] at member
      rcases member with here | later
      · exact ⟨0, edge, next, rfl, rfl, here⟩
      · obtain ⟨i, edge, next, first, second, same⟩ := ih later
        exact ⟨i + 1, edge, next, first, second, same⟩

/-- A positive length that no distance falls below separates each edge from the next one. -/
theorem isChain_of_distances {length : Nat} (positive : 0 < length) {edges : List Int}
    (atLeast : ∀ distance ∈ distances edges, length ≤ distance) :
    edges.IsChain fun (edge next : Int) => edge + length ≤ next := by
  induction edges with
  | nil => exact .nil
  | cons edge rest ih =>
    cases rest with
    | nil => exact .singleton edge
    | cons next rest =>
      rw [distances_cons_cons, List.forall_mem_cons] at atLeast
      refine .cons_cons ?_ (ih atLeast.2)
      have := atLeast.1
      omega

/-- The open length is zero, or it separates each edge from all later ones. -/
theorem pairwise_openLength {edges : List Int} (several : 2 ≤ edges.length) (bins : Nat) :
    openLength bins edges = 0 ∨
      edges.Pairwise fun (edge next : Int) => edge + openLength bins edges ≤ next := by
  refine (Nat.eq_zero_or_pos _).imp_right fun positive => ?_
  obtain ⟨-, least⟩ := List.min?_eq_some_iff.mp (min?_distances several bins)
  have transitive : IsTrans Int fun edge next => edge + openLength bins edges ≤ next :=
    ⟨fun a b c first second => by omega⟩
  exact (isChain_of_distances positive least).pairwise

end KnownEdges

/-! ## 2. Counts in windows -/

section Windows

variable {starts : List Int} {length : Nat}

/-- The bins that windows reach over, those outside of the trace included. -/
def windowBins (starts : List Int) (length : Nat) : List Int :=
  starts.flatMap fun start => (List.range length).map fun (bin : Nat) => start + bin

theorem values_windows (counts : List Nat) (starts : List Int) (length : Nat) :
    (windows counts starts length).values = (windowBins starts length).map (shown counts) := by
  rw [Grid.values, windowBins, List.map_flatMap, List.flatMap_def]
  refine congrArg List.flatten (List.map_congr_left fun start _ => ?_)
  rw [List.map_map]
  exact List.map_congr_left fun bin _ => countAt_eq counts _

theorem cell_windows (counts : List Nat) {start : Int} {laser bin : Nat}
    (here : starts[laser]? = some start) (inside : bin < length) :
    ((windows counts starts length).rows[laser]?.bind fun row => row[bin]?) =
      some (shown counts (start + bin)) := by
  simp only [windows, List.getElem?_map, here, Option.map_some, Option.bind_some,
    List.getElem?_range inside, countAt_eq]

/-- Windows share no bin if they are empty, or if each of them ends before the later ones begin. -/
theorem nodup_windowBins
    (apart : length = 0 ∨ starts.Pairwise fun (start next : Int) => start + length ≤ next) :
    (windowBins starts length).Nodup := by
  rcases apart with rfl | apart
  · have none : windowBins starts 0 = [] := List.flatMap_eq_nil_iff.mpr fun _ _ => rfl
    rw [none]
    exact List.nodup_nil
  · refine List.pairwise_flatMap.mpr ⟨fun start _ => ?_, apart.imp fun {start next} behind => ?_⟩
    · exact List.nodup_range.map fun a b same => by omega
    · simp only [List.mem_map, List.mem_range]
      rintro _ ⟨a, inFirst, rfl⟩ _ ⟨b, -, rfl⟩
      omega

theorem sum_eq_sum_shown (counts : List Nat) :
    counts.sum = ∑ bin ∈ Finset.range counts.length, shown counts bin := by
  have count (bin : Fin counts.length) : shown counts (bin : Nat) = counts[bin.1] := by
    simp [shown]
  rw [Finset.sum_range, Finset.sum_congr rfl fun bin _ => count bin]
  exact (Fin.sum_univ_getElem counts).symm

theorem lt_length_of_shown {counts : List Nat} {bin : Int} (counted : shown counts bin ≠ 0) :
    ∃ place < counts.length, (place : Int) = bin := by
  unfold shown at counted
  split at counted
  · rename_i atLeast
    refine ⟨bin.toNat, ?_, Int.toNat_of_nonneg atLeast⟩
    by_contra outside
    rw [List.getElem?_eq_none (not_lt.mp outside)] at counted
    exact counted rfl
  · exact absurd rfl counted

/-- Bins that are different hold no more than the trace. -/
theorem sum_shown_le {bins : List Int} (distinct : bins.Nodup) (counts : List Nat) :
    (bins.map (shown counts)).sum ≤ counts.sum := by
  have counted : ∀ bin ∈ bins.toFinset, shown counts bin ≠ 0 →
      bin ∈ (Finset.range counts.length).map Nat.castEmbedding := by
    intro bin _ counted
    obtain ⟨place, inside, rfl⟩ := lt_length_of_shown counted
    exact Finset.mem_map_of_mem _ (Finset.mem_range.mpr inside)
  calc (bins.map (shown counts)).sum
      = ∑ bin ∈ bins.toFinset, shown counts bin := (List.sum_toFinset _ distinct).symm
    _ ≤ ∑ bin ∈ (Finset.range counts.length).map Nat.castEmbedding, shown counts bin :=
        Finset.sum_le_sum_of_ne_zero counted
    _ = counts.sum := by
        rw [Finset.sum_map, sum_eq_sum_shown]
        rfl

end Windows

/-! ## 3. What is cut at known edges -/

namespace KnownEdges

/-- Equally long windows of a trace that begin at the given bins, and no bin in two of them. -/
structure Parts (counts : List Nat) (starts : List Int) (r : Extraction) : Prop where
  rows : r.counts.rowCount = starts.length
  cells : ∀ (laser bin : Nat) (start : Int), starts[laser]? = some start → bin < r.counts.columns →
    (r.counts.rows[laser]?.bind fun row => row[bin]?) = some (shown counts (start + bin))
  apart : ∀ (laser other bin bin' : Nat) (start start' : Int), starts[laser]? = some start →
    starts[other]? = some start' → laser ≠ other → bin < r.counts.columns →
    bin' < r.counts.columns → start + bin ≠ start' + bin'
  total : r.counts.values.sum ≤ counts.sum

/-- Windows of one length that begin at some bins. -/
def cut (counts : List Nat) (starts : List Int) (length : Nat) : Extraction where
  counts := windows counts starts length
  rising := starts.map Int.toNat
  falling := starts.map fun (start : Int) => (start + length).toNat

theorem parts_cut (counts : List Nat) {starts : List Int} {length : Nat}
    (apart : length = 0 ∨ starts.Pairwise fun (start next : Int) => start + length ≤ next) :
    Parts counts starts (cut counts starts length) where
  rows := List.length_map _
  cells laser bin start here inside := cell_windows counts here inside
  apart := by
    intro laser other bin bin' start start' here there different inside inside'
    replace inside : bin < length := inside
    replace inside' : bin' < length := inside'
    rcases apart with empty | apart
    · omega
    · have behind {i j : Nat} {a b : Int} (before : i < j) (first : starts[i]? = some a)
          (second : starts[j]? = some b) : a + length ≤ b := by
        obtain ⟨inStarts, rfl⟩ := List.getElem?_eq_some_iff.mp first
        obtain ⟨inStarts', rfl⟩ := List.getElem?_eq_some_iff.mp second
        exact List.pairwise_iff_getElem.mp apart i j inStarts inStarts' before
      rcases lt_or_gt_of_ne different with before | after
      · have := behind before here there
        omega
      · have := behind after there here
        omega
  total := by
    rw [cut, values_windows]
    exact sum_shown_le (nodup_windowBins apart) counts

section Extracting

variable {α : Type} [Scalar α]

/-- The bins of the rising times. -/
def edgeBins (context : ExtractionContext α) : List Int :=
  context.risingTimes.map fun time => Scalar.toOffset (time / context.binWidth)

/-- The bins at which windows begin: the edges, moved by the delay. -/
def firstBins (context : ExtractionContext α) (delay : α) : List Int :=
  (edgeBins context).map (· + Scalar.toOffset (delay / context.binWidth))

variable {context : ExtractionContext α} {params : ParamSet α} {delay length : α}

/-- Extraction succeeds if edges are known, and as many as expected. -/
theorem extract_open (trace : List Nat) (several : 2 ≤ context.risingTimes.length)
    (expected : context.risingTimes.length = context.lasers)
    (delayRead : params.number "delay" = .ok delay)
    (lengthRead : params.number "window_length" = .ok length)
    (isOpen : Scalar.toBins (length / context.binWidth) = 0) :
    extract trace context params =
      .ok (cut trace (firstBins context delay) (openLength trace.length (edgeBins context))) := by
  have known : ¬ context.risingTimes.isEmpty = true := by
    rw [List.isEmpty_iff]
    intro none
    rw [none, List.length_nil] at several
    omega
  have window : windowOf context params =
      .ok (Scalar.toOffset (delay / context.binWidth), 0) := by
    rw [windowOf, delayRead, lengthRead, ok_bind, ok_bind, isOpen]
    rfl
  unfold extract
  rw [if_neg known, if_neg (not_not_intro expected), window]
  rfl

theorem parts_open (trace : List Nat) (delay : α) (several : 2 ≤ context.risingTimes.length) :
    Parts trace (firstBins context delay)
      (cut trace (firstBins context delay) (openLength trace.length (edgeBins context))) := by
  have edges : 2 ≤ (edgeBins context).length := several.trans_eq (List.length_map _).symm
  refine parts_cut trace ((pairwise_openLength edges _).imp_right fun apart => ?_)
  refine List.pairwise_map.mpr (apart.imp fun {edge next} behind => ?_)
  omega

/-- The open length is that between some edge and the next one. -/
theorem exists_openLength (bins : Nat) (several : 2 ≤ context.risingTimes.length) :
    ∃ (i : Nat) (time next : α), context.risingTimes[i]? = some time ∧
      context.risingTimes[i + 1]? = some next ∧
      openLength bins (edgeBins context) = (Scalar.toOffset (next / context.binWidth) -
        Scalar.toOffset (time / context.binWidth)).toNat := by
  have edges : 2 ≤ (edgeBins context).length := several.trans_eq (List.length_map _).symm
  obtain ⟨member, -⟩ := List.min?_eq_some_iff.mp (min?_distances edges bins)
  obtain ⟨i, _, _, first, second, same⟩ := mem_distances member
  simp only [edgeBins, List.getElem?_map, Option.map_eq_some_iff] at first second
  obtain ⟨time, here, rfl⟩ := first
  obtain ⟨next, there, rfl⟩ := second
  exact ⟨i, time, next, here, there, same⟩

end Extracting

/-! ## 4. The method of a registry -/

section Registered

variable {α : Type} [Analytic α]

/-- The method at known edges. -/
def method : ExtractionMethod α := ⟨"ungated_known_edges", windowSchema, .ofTrace extract⟩

theorem find_method (extra : List String) :
    (ExtractionMethod.registry extra : Registry α (ExtractionRule α)).find "ungated_known_edges" =
      .ok method :=
  (Registry.find_builtin_iff ..).mpr rfl

/-- Windows of open length never count a photon twice. With as many known edges as expected, two or
more, extraction succeeds, whatever the trace, the delay and the bin width. Its windows begin at
the edges as rounded, moved by the delay as rounded; no bin is in two of them, so they hold no more
counts than the trace; and they are as long as some edge and the next one are apart. So does the
method of this name, in every registry and by all parameters that it accepts. -/
theorem default_windows_apart (trace : List Nat) {context : ExtractionContext α}
    (several : 2 ≤ context.risingTimes.length)
    (expected : context.risingTimes.length = context.lasers) {params : ParamSet α}
    {delay length : α} (delayRead : params.number "delay" = .ok delay)
    (lengthRead : params.number "window_length" = .ok length)
    (isOpen : Scalar.toBins (length / context.binWidth) = 0) :
    ∃ r, extract trace context params = .ok r ∧
      Parts trace (context.risingTimes.map fun time => Scalar.toOffset (time / context.binWidth) +
        Scalar.toOffset (delay / context.binWidth)) r ∧
      (∃ (i : Nat) (time next : α), context.risingTimes[i]? = some time ∧
        context.risingTimes[i + 1]? = some next ∧
        r.counts.columns = (Scalar.toOffset (next / context.binWidth) -
          Scalar.toOffset (time / context.binWidth)).toNat) ∧
      ∀ (extra : List String) (m : ExtractionMethod α) (given : ParamSet α),
        (ExtractionMethod.registry extra).find "ungated_known_edges" = .ok m →
        0.0 < context.binWidth → m.schema.resolve given = .ok params →
        m.extract (.trace trace) context given = .ok r := by
  have extracted := extract_open trace several expected delayRead lengthRead isOpen
  have begins : firstBins context delay = context.risingTimes.map fun time =>
      Scalar.toOffset (time / context.binWidth) + Scalar.toOffset (delay / context.binWidth) :=
    List.map_map
  refine ⟨_, extracted, begins ▸ parts_open trace delay several,
    exists_openLength trace.length several, fun extra m given found measured valid => ?_⟩
  obtain rfl : method = m := Except.ok.inj ((find_method extra).symm.trans found)
  replace valid : Schema.resolve windowSchema given = .ok params := valid
  rw [method, ExtractionMethod.extract_trace, ExtractionMethod.accepted_eq measured valid, ok_bind]
  exact extracted

/-- Bins of ten nanoseconds, and three laser pulses. -/
def threeEdges : ExtractionContext ℚ := ⟨1e-8, 3, [0, 2.4e-8, 5.5e-8]⟩

/-- Windows of open length that begin one bin before the edge. -/
def oneEarlier : ParamSet ℚ := .ofList [("delay", .real (-1e-8))]

/-- Edges in bins 0, 2 and 6, the last of them rounded up, so windows of two bins. The first one
begins before the trace, and the last one goes on behind it. -/
theorem default_windows_apart_early :
    ∃ r, method.extract (.trace [3, 5, 0, 7, 1, 2]) threeEdges oneEarlier = .ok r ∧
      r.counts.rows = [[0, 3], [5, 0], [2, 0]] ∧ r.counts.values.sum ≤ 18 := by
  have numbers : (Schema.resolve windowSchema oneEarlier).toOption.map (fun params =>
      ((params.number "delay").toOption, (params.number "window_length").toOption)) =
      some (some (-1e-8), some 0) := by
    decide +kernel
  have rows : (method.extract (.trace [3, 5, 0, 7, 1, 2]) threeEdges oneEarlier).toOption.map
      (·.counts.rows) = some [[0, 3], [5, 0], [2, 0]] := by
    decide +kernel
  obtain ⟨params, resolved, read⟩ := Option.map_eq_some_iff.mp numbers
  have valid : Schema.resolve windowSchema oneEarlier = .ok params := toOption_eq_some.mp resolved
  rw [Prod.mk.injEq, toOption_eq_some, toOption_eq_some] at read
  obtain ⟨r, -, parts, -, same⟩ := default_windows_apart [3, 5, 0, 7, 1, 2]
    (by decide : 2 ≤ threeEdges.risingTimes.length) rfl read.1 read.2 (by decide +kernel)
  have extracted := same [] method oneEarlier (find_method []) (by decide +kernel) valid
  rw [extracted] at rows
  exact ⟨r, extracted, Option.some.inj rows, parts.total⟩

end Registered

end KnownEdges

end PulseBench
